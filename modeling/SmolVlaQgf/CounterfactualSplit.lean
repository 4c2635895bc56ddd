import Mathlib.Data.String.Basic
import Mathlib.Data.List.Sort
import SmolVlaQgf.Binary64
import SmolVlaQgf.OrderedTables

/-!
# Splitting counterfactual groups

The mixed trainer holds out groups of counterfactual samples. Ranking pairs and samples are split
by the same groups, but each has a fallback of its own for an empty training side. Some group is
always trained on, so only the pairs can fall back, and then the held-out samples stay where they
are.
-/

namespace SmolVlaQgf.CounterfactualSplit
open ExactFloats FloatRounding OrderedTables

/-- A counterfactual sample with what the split reads of it. -/
structure CfSample (K : Type) where
  groupId : String
  score : PyFloat K

/-- `(good, bad, group_id)` -/
structure RankingPair where
  good : ℕ
  bad : ℕ
  groupId : String
  deriving DecidableEq

/-- The train and validation sides of the pairs and of the samples. -/
structure CfSplit where
  trainPairs : List RankingPair
  valPairs : List RankingPair
  trainCfIndices : List ℕ
  valCfIndices : List ℕ

inductive SplitError where
  | noRankingPairs
  | tooManyGroups
  | infiniteShare
  deriving DecidableEq

def SplitError.message : SplitError → String
  | .noRankingPairs => "No counterfactual ranking pairs were produced."
  | .tooManyGroups => "int too large to convert to float"
  | .infiniteShare => "cannot convert float infinity to integer"

/-! ## Samples and their groups -/

variable {K : Type}

def indexedGroups (samples : List (CfSample K)) : List (ℕ × String) :=
  samples.zipIdx.map fun entry => (entry.2, entry.1.groupId)

/-- `groups` of `_build_ranking_pairs`, in the order of their first samples. -/
def cfGroups (samples : List (CfSample K)) : List (String × List ℕ) :=
  groupEntries (indexedGroups samples)

/-- `group_ids` -/
def groupIds (samples : List (CfSample K)) : List String :=
  ((cfGroups samples).map Prod.fst).insertionSort (· ≤ ·)

def indicesWith (samples : List (CfSample K)) (p : String → Bool) : List ℕ :=
  ((indexedGroups samples).filter fun entry => p entry.2).map Prod.fst

section Groups

variable {samples : List (CfSample K)} {index : ℕ} {groupId : String}

theorem mem_indexedGroups : (index, groupId) ∈ indexedGroups samples ↔
    (samples[index]?).map CfSample.groupId = some groupId := by
  rw [indexedGroups, List.mem_map, Option.map_eq_some_iff]
  constructor
  · rintro ⟨⟨sample, i⟩, hmem, heq⟩
    obtain ⟨rfl, rfl⟩ := Prod.mk.inj heq
    exact ⟨sample, List.mem_zipIdx_iff_getElem?.mp hmem, rfl⟩
  · rintro ⟨sample, hsample, rfl⟩
    exact ⟨(sample, index), List.mem_zipIdx_iff_getElem?.mpr hsample, rfl⟩

private theorem map_fst_indexedGroups (samples : List (CfSample K)) :
    (indexedGroups samples).map Prod.fst = List.range samples.length := by
  rw [indexedGroups, List.map_map]
  exact (List.zipIdx_map_snd 0 samples).trans List.range_eq_range'.symm

private theorem mem_groupIds : groupId ∈ groupIds samples ↔
    ∃ index : ℕ, (samples[index]?).map CfSample.groupId = some groupId := by
  rw [groupIds, List.mem_insertionSort, cfGroups, mem_keys_groupEntries, List.mem_map]
  constructor
  · rintro ⟨⟨index, name⟩, hmem, rfl⟩
    exact ⟨index, mem_indexedGroups.mp hmem⟩
  · rintro ⟨index, hindex⟩
    exact ⟨(index, groupId), mem_indexedGroups.mpr hindex, rfl⟩

private theorem nodup_groupIds (samples : List (CfSample K)) : (groupIds samples).Nodup :=
  (List.perm_insertionSort _ _).nodup_iff.mpr (nodup_keys_groupEntries _)

private theorem mem_indicesWith {p : String → Bool} : index ∈ indicesWith samples p ↔
    ∃ groupId, (samples[index]?).map CfSample.groupId = some groupId ∧ p groupId = true := by
  rw [indicesWith, List.mem_map]
  constructor
  · rintro ⟨⟨i, groupId⟩, hentry, rfl⟩
    obtain ⟨hmem, hp⟩ := List.mem_filter.mp hentry
    exact ⟨groupId, mem_indexedGroups.mp hmem, hp⟩
  · rintro ⟨groupId, hgroup, hp⟩
    exact ⟨(index, groupId), List.mem_filter.mpr ⟨mem_indexedGroups.mpr hgroup, hp⟩, rfl⟩

/-- Two complementary properties split the samples. -/
theorem indicesWith_append_perm (samples : List (CfSample K)) (p : String → Bool) :
    (indicesWith samples (fun groupId => !p groupId) ++ indicesWith samples p).Perm
      (List.range samples.length) := by
  rw [← map_fst_indexedGroups, indicesWith, indicesWith, ← List.map_append]
  exact (List.perm_append_comm.trans (List.filter_append_perm _ _)).map _

end Groups

/-! ## Ranking pairs -/

variable [Field K] [LinearOrder K] [Rounding K]

/-- `samples[good]["score"] > samples[bad]["score"] + margin` -/
def ranksAbove (samples : List (CfSample K)) (margin : PyFloat K) (good bad : ℕ) : Bool :=
  match samples[good]?, samples[bad]? with
  | some better, some worse => (worse.score.add margin).lt better.score
  | _, _ => false

/-- `pairs` of `_build_ranking_pairs` -/
def rankingPairs (samples : List (CfSample K)) (margin : PyFloat K) : List RankingPair :=
  (cfGroups samples).flatMap fun group =>
    group.2.flatMap fun good =>
      (group.2.filter (ranksAbove samples margin good)).map fun bad => ⟨good, bad, group.1⟩

theorem groupId_of_mem_rankingPairs {samples : List (CfSample K)} {margin : PyFloat K}
    {pair : RankingPair} (h : pair ∈ rankingPairs samples margin) :
    (samples[pair.good]?).map CfSample.groupId = some pair.groupId := by
  obtain ⟨⟨name, members⟩, hgroup, hmem⟩ := List.mem_flatMap.mp h
  obtain ⟨good, hgood, hmem⟩ := List.mem_flatMap.mp hmem
  obtain ⟨bad, -, rfl⟩ := List.mem_map.mp hmem
  rw [group_eq hgroup] at hgood
  obtain ⟨⟨index, groupId⟩, hfiltered, rfl⟩ := List.mem_map.mp hgood
  obtain ⟨hentry, hname⟩ := List.mem_filter.mp hfiltered
  have hsame : groupId = name := by simpa using hname
  rw [hsame] at hentry
  exact mem_indexedGroups.mp hentry

/-! ## The split -/

variable [FloorRing K]

/-- `int(count * val_fraction)` -/
def share (valFraction : K) (count : ℕ) : Except SplitError ℤ :=
  match toFloat (count : K) with
  | .finite total =>
      match toFloat (total * valFraction) with
      | .finite product => .ok (if 0 ≤ product then ⌊product⌋ else ⌈product⌉)
      | _ => .error .infiniteShare
  | _ => .error .tooManyGroups

/-- `val_group_count` -/
def valGroupCount (valFraction : K) (count : ℕ) : Except SplitError ℕ :=
  (share valFraction count).map fun (whole : ℤ) =>
    if 1 < count then (max 1 (min whole ((count : ℤ) - 1))).toNat else 0

/-- `val_groups`; `randperm` is the permutation the generator draws. -/
def valGroups (valFraction : K) (randperm : ℕ → List ℕ) (samples : List (CfSample K)) :
    Except SplitError (List String) :=
  let groupIds := groupIds samples
  (valGroupCount valFraction groupIds.length).map fun count =>
    ((randperm groupIds.length).take count).filterMap (groupIds[·]?)

def splitByGroups (held : List String) (samples : List (CfSample K))
    (cfPairs : List RankingPair) : CfSplit :=
  let trainPairs := cfPairs.filter fun pair => !held.contains pair.groupId
  let valPairs := cfPairs.filter fun pair => held.contains pair.groupId
  let trainCfIndices := indicesWith samples fun groupId => !held.contains groupId
  let valCfIndices := indicesWith samples held.contains
  { trainPairs := if trainPairs = [] then cfPairs else trainPairs
    valPairs := if trainPairs = [] then [] else valPairs
    trainCfIndices := if trainCfIndices = [] then List.range samples.length else trainCfIndices
    valCfIndices := if trainCfIndices = [] then [] else valCfIndices }

/-- The split of `main`. -/
def splitCounterfactual (valFraction : K) (randperm : ℕ → List ℕ) (samples : List (CfSample K))
    (margin : PyFloat K) : Except SplitError CfSplit :=
  let cfPairs := rankingPairs samples margin
  if cfPairs = [] then .error .noRankingPairs
  else (valGroups valFraction randperm samples).map fun held =>
    splitByGroups held samples cfPairs

/-! ## What a split should be -/

omit [Field K] [LinearOrder K] [FloorRing K] in
def Appears (samples : List (CfSample K)) (pairs : List RankingPair) (indices : List ℕ)
    (groupId : String) : Prop :=
  (∃ pair ∈ pairs, pair.groupId = groupId) ∨
    ∃ index ∈ indices, (samples[index]?).map CfSample.groupId = some groupId

/-- No group is on both sides, and every pair and every sample is on one side. -/
structure KeepsGroupsApart (samples : List (CfSample K)) (margin : PyFloat K) (split : CfSplit) :
    Prop where
  apart : ∀ groupId, Appears samples split.trainPairs split.trainCfIndices groupId →
    ¬Appears samples split.valPairs split.valCfIndices groupId
  pairs : (split.trainPairs ++ split.valPairs).Perm (rankingPairs samples margin)
  pairs_disjoint : split.trainPairs.Disjoint split.valPairs
  samples : (split.trainCfIndices ++ split.valCfIndices).Perm (List.range samples.length)
  samples_disjoint : split.trainCfIndices.Disjoint split.valCfIndices

section Split

variable {valFraction : K} {randperm : ℕ → List ℕ} {samples : List (CfSample K)}
  {margin : PyFloat K}

theorem valGroupCount_lt {count drawn : ℕ} (h : valGroupCount valFraction count = .ok drawn)
    (hcount : 0 < count) : drawn < count := by
  rw [valGroupCount] at h
  cases hshare : share valFraction count with
  | error error =>
    rw [hshare] at h
    cases h
  | ok value =>
    rw [hshare] at h
    cases h
    dsimp only
    split_ifs with hmany <;> omega

theorem exists_trained_group {held : List String}
    (h : valGroups valFraction randperm samples = .ok held) (hgroups : groupIds samples ≠ []) :
    ∃ groupId ∈ groupIds samples, groupId ∉ held := by
  rw [valGroups] at h
  cases hcount : valGroupCount valFraction (groupIds samples).length with
  | error error =>
    rw [hcount] at h
    cases h
  | ok drawn =>
    rw [hcount] at h
    cases h
    by_contra hall
    push Not at hall
    have hle := ((nodup_groupIds samples).subperm hall).length_le
    have hlength := (List.length_filterMap_le ((groupIds samples)[·]?)
      ((randperm (groupIds samples).length).take drawn)).trans (List.length_take_le _ _)
    have hlt := valGroupCount_lt hcount (List.length_pos_of_ne_nil hgroups)
    omega

private theorem indicesWith_ne_nil {held : List String} (hpairs : rankingPairs samples margin ≠ [])
    (h : valGroups valFraction randperm samples = .ok held) :
    indicesWith samples (fun groupId => !held.contains groupId) ≠ [] := by
  obtain ⟨pair, hpair⟩ := List.exists_mem_of_ne_nil _ hpairs
  have hgroups : groupIds samples ≠ [] :=
    List.ne_nil_of_mem (mem_groupIds.mpr ⟨_, groupId_of_mem_rankingPairs hpair⟩)
  obtain ⟨groupId, hgroup, hnot⟩ := exists_trained_group h hgroups
  obtain ⟨index, hindex⟩ := mem_groupIds.mp hgroup
  exact List.ne_nil_of_mem (mem_indicesWith.mpr ⟨groupId, hindex, by simpa using hnot⟩)

/-- A group with a ranking pair is not among those held out. -/
def PairTrained (valFraction : K) (randperm : ℕ → List ℕ) (samples : List (CfSample K))
    (margin : PyFloat K) : Prop :=
  ∃ held, valGroups valFraction randperm samples = .ok held ∧
    ∃ pair ∈ rankingPairs samples margin, pair.groupId ∉ held

variable (margin) in
omit [FloorRing K] in
/-- The samples are split by their groups; the pairs are if one of them is trained on. -/
theorem splitByGroups_eq {held : List String}
    (hindices : indicesWith samples (fun groupId => !held.contains groupId) ≠ []) :
    (splitByGroups held samples (rankingPairs samples margin)).trainCfIndices =
        indicesWith samples (fun groupId => !held.contains groupId) ∧
      (splitByGroups held samples (rankingPairs samples margin)).valCfIndices =
        indicesWith samples held.contains ∧
      ((∃ pair ∈ rankingPairs samples margin, pair.groupId ∉ held) →
        (splitByGroups held samples (rankingPairs samples margin)).trainPairs =
            (rankingPairs samples margin).filter (fun pair => !held.contains pair.groupId) ∧
          (splitByGroups held samples (rankingPairs samples margin)).valPairs =
            (rankingPairs samples margin).filter (fun pair => held.contains pair.groupId)) ∧
      ((¬∃ pair ∈ rankingPairs samples margin, pair.groupId ∉ held) →
        (splitByGroups held samples (rankingPairs samples margin)).trainPairs =
          rankingPairs samples margin) := by
  have htrained : (rankingPairs samples margin).filter
      (fun pair => !held.contains pair.groupId) = [] ↔
        ¬∃ pair ∈ rankingPairs samples margin, pair.groupId ∉ held := by
    simp [List.filter_eq_nil_iff]
  refine ⟨if_neg hindices, if_neg hindices, fun hsome => ?_, fun hnone => ?_⟩
  · have hne := mt htrained.mp (not_not.mpr hsome)
    exact ⟨if_neg hne, if_neg hne⟩
  · exact if_pos (htrained.mpr hnone)

omit [FloorRing K] in
/-- Two sides that are split by a property of the group have no group in common. -/
theorem apart_of_held (held : String → Bool) (groupId : String)
    (htrain : Appears samples
      ((rankingPairs samples margin).filter fun pair => !held pair.groupId)
      (indicesWith samples fun groupId => !held groupId) groupId) :
    ¬Appears samples ((rankingPairs samples margin).filter fun pair => held pair.groupId)
      (indicesWith samples held) groupId := by
  have hnot : held groupId = false := by
    rcases htrain with ⟨pair, hpair, rfl⟩ | ⟨index, hindex, hgroup⟩
    · simpa using (List.mem_filter.mp hpair).2
    · obtain ⟨other, hother, hheld⟩ := mem_indicesWith.mp hindex
      obtain rfl := Option.some.inj (hother.symm.trans hgroup)
      simpa using hheld
  rintro (⟨pair, hpair, rfl⟩ | ⟨index, hindex, hgroup⟩)
  · have hheld := (List.mem_filter.mp hpair).2
    rw [hnot] at hheld
    cases hheld
  · obtain ⟨other, hother, hheld⟩ := mem_indicesWith.mp hindex
    obtain rfl := Option.some.inj (hother.symm.trans hgroup)
    rw [hnot] at hheld
    cases hheld

omit [FloorRing K] in
private theorem keepsGroupsApart_of_held (samples : List (CfSample K)) (margin : PyFloat K)
    (held : String → Bool) :
    KeepsGroupsApart samples margin
      ⟨(rankingPairs samples margin).filter fun pair => !held pair.groupId,
        (rankingPairs samples margin).filter fun pair => held pair.groupId,
        indicesWith samples fun groupId => !held groupId, indicesWith samples held⟩ := by
  constructor
  · exact apart_of_held held
  · exact List.perm_append_comm.trans (List.filter_append_perm _ _)
  · intro pair htrain hval
    have hnot := (List.mem_filter.mp htrain).2
    rw [(List.mem_filter.mp hval).2] at hnot
    cases hnot
  · exact indicesWith_append_perm samples held
  · intro index htrain hval
    obtain ⟨groupId, hgroup, hnot⟩ :=
      (mem_indicesWith (p := fun groupId => !held groupId)).mp htrain
    obtain ⟨other, hother, hheld⟩ := (mem_indicesWith (p := held)).mp hval
    obtain rfl := Option.some.inj (hother.symm.trans hgroup)
    rw [hheld] at hnot
    cases hnot

omit [FloorRing K] in
omit [FloorRing K] in
/-- If all groups with pairs are held out, the pairs are trained on beside the held-out samples of
their groups. -/
theorem not_keepsGroupsApart {split : CfSplit} {held : List String}
    (hpairs : rankingPairs samples margin ≠ [])
    (hnone : ¬∃ pair ∈ rankingPairs samples margin, pair.groupId ∉ held)
    (htrain : split.trainPairs = rankingPairs samples margin)
    (hval : split.valCfIndices = indicesWith samples held.contains) :
    ¬KeepsGroupsApart samples margin split := by
  obtain ⟨pair, hpair⟩ := List.exists_mem_of_ne_nil _ hpairs
  have hgroup := groupId_of_mem_rankingPairs hpair
  have hheld : pair.groupId ∈ held := by
    by_contra hnot
    exact hnone ⟨pair, hpair, hnot⟩
  intro h
  refine h.apart pair.groupId (Or.inl ⟨pair, htrain ▸ hpair, rfl⟩) (Or.inr ⟨pair.good, ?_, hgroup⟩)
  rw [hval]
  exact mem_indicesWith.mpr ⟨pair.groupId, hgroup, by simpa using hheld⟩

/-- The split by drawn groups keeps the groups apart exactly if a pair is trained on. -/
theorem splitByGroups_keepsGroupsApart_iff {held : List String}
    (hpairs : rankingPairs samples margin ≠ [])
    (hheld : valGroups valFraction randperm samples = .ok held) :
    KeepsGroupsApart samples margin (splitByGroups held samples (rankingPairs samples margin)) ↔
      ∃ pair ∈ rankingPairs samples margin, pair.groupId ∉ held := by
  obtain ⟨hindices, hval, htrained, hnone⟩ :=
    splitByGroups_eq margin (indicesWith_ne_nil hpairs hheld)
  constructor
  · intro hkeeps
    by_contra hnot
    exact not_keepsGroupsApart hpairs hnot (hnone hnot) hval hkeeps
  · intro hsome
    obtain ⟨htrainPairs, hvalPairs⟩ := htrained hsome
    have hkeeps := keepsGroupsApart_of_held samples margin held.contains
    rw [← hindices, ← hval, ← htrainPairs, ← hvalPairs] at hkeeps
    exact hkeeps

/-- No group is on both sides exactly if a group with a ranking pair is trained on. -/
theorem keepsGroupsApart_iff (hpairs : rankingPairs samples margin ≠ []) (valFraction : K)
    (randperm : ℕ → List ℕ) :
    (∃ split, splitCounterfactual valFraction randperm samples margin = .ok split ∧
      KeepsGroupsApart samples margin split) ↔
      PairTrained valFraction randperm samples margin := by
  rw [splitCounterfactual, if_neg hpairs, PairTrained]
  cases hheld : valGroups valFraction randperm samples with
  | error error => simp [Except.map]
  | ok held => simp [Except.map, splitByGroups_keepsGroupsApart_iff hpairs hheld]

end Split

/-- A group with a ranking pair and a group of one sample. -/
def threeSamples : List (CfSample ℚ) :=
  [⟨"a", .finite 1⟩, ⟨"a", .finite 0⟩, ⟨"b", .finite 0⟩]

private theorem mem_rankingPairs_threeSamples :
    (⟨0, 1, "a"⟩ : RankingPair) ∈ rankingPairs threeSamples (.finite 0) := by
  decide +kernel

theorem single_held_out :
    ∃ split, splitCounterfactual (1 / 4) (fun n => (List.range n).reverse) threeSamples
      (.finite 0) = .ok split ∧ KeepsGroupsApart threeSamples (.finite 0) split := by
  have hmem := mem_rankingPairs_threeSamples
  refine (keepsGroupsApart_iff (List.ne_nil_of_mem hmem) _ _).mpr ⟨["b"], ?_, _, hmem, ?_⟩
  · decide +kernel
  · decide

/-- With the only pair held out, its group is trained on and validated on. -/
theorem only_pair_held_out :
    ¬∃ split, splitCounterfactual (1 / 4) List.range threeSamples (.finite 0) = .ok split ∧
      KeepsGroupsApart threeSamples (.finite 0) split := by
  have hpairs := List.ne_nil_of_mem mem_rankingPairs_threeSamples
  have hheld : valGroups (1 / 4) List.range threeSamples = .ok ["a"] := by decide +kernel
  have hall : ∀ pair ∈ rankingPairs threeSamples (.finite 0), pair.groupId ∈ ["a"] := by
    decide +kernel
  rintro ⟨split, hsplit, hkeeps⟩
  rw [splitCounterfactual, if_neg hpairs, hheld] at hsplit
  cases hsplit
  obtain ⟨pair, hpair, hnot⟩ := (splitByGroups_keepsGroupsApart_iff hpairs hheld).mp hkeeps
  exact hnot (hall pair hpair)

end SmolVlaQgf.CounterfactualSplit
