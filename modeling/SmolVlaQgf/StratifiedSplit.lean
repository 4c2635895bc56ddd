import SmolVlaQgf.OrderedTables
import SmolVlaQgf.PeriodicRepresentatives
import SmolVlaQgf.QuotaSelections
import Mathlib.Algebra.BigOperators.Ring.Finset
import Mathlib.Data.List.Sort
import Mathlib.Data.Rat.Floor

/-!
# The stratified episode split

`_stratified_episode_split` holds out a rounded share of every outcome, leaves at least one
episode of each, and fills up or cuts off to the wanted number. The episodes it fills up with
are drawn from all outcomes together, so the last training episode of an outcome may be among
them.
-/

namespace SmolVlaQgf.StratifiedSplit
open OrderedTables PeriodicRepresentatives QuotaSelections

/-! ## Episodes and their outcomes -/

/-- `outcomes`, a dict from episode indices. -/
structure Outcomes where
  entries : List (ℤ × String)
  nodup : (entries.map Prod.fst).Nodup

namespace Outcomes

def episodes (outcomes : Outcomes) : List ℤ := outcomes.entries.map Prod.fst

def distinct (outcomes : Outcomes) : List String := (outcomes.entries.map Prod.snd).dedup

def withOutcome (outcomes : Outcomes) (outcome : String) : List ℤ :=
  (outcomes.entries.filter fun entry => decide (entry.2 = outcome)).map Prod.fst

end Outcomes

/-- What `_stratified_episode_split` returns. -/
structure EpisodeSplit where
  strategy : String
  seed : ℤ
  trainEpisodeIndices : List ℤ
  valEpisodeIndices : List ℤ
  outcomeCounts : List (String × ℕ)
  valOutcomeCounts : List (String × ℕ)
  trainOutcomeCounts : List (String × ℕ)
  deriving DecidableEq

/-- `sorted(indices)` -/
def sorted (indices : List ℤ) : List ℤ := indices.insertionSort (· ≤ ·)

/-- The episodes of an outcome that are held out before the split is filled up. -/
def quota (valCount : ℤ) (total size : ℕ) : ℤ :=
  min (roundHalfEven ((valCount * size : ℚ) / total)) (max 0 (size - 1))

/-- `Counter(outcomes[index] for index in indices)` -/
def outcomeCounts (outcomes : Outcomes) (indices : List ℤ) : List (String × ℕ) :=
  counter (indices.filterMap fun index => outcomes.entries.lookup index)

/-- The groups after `rng.shuffle`; `shuffle` gives the list of every call its new order. -/
def shuffledGroups (shuffle : ℕ → List ℤ → List ℤ) (outcomes : Outcomes) :
    List (String × List ℤ) :=
  (groupEntries outcomes.entries).mapIdx fun call group => (group.1, shuffle call group.2)

/-- `_stratified_episode_split` -/
def stratifiedEpisodeSplit (shuffle : ℕ → List ℤ → List ℤ) (seed : ℤ) (outcomes : Outcomes)
    (valCount : ℤ) : Except String EpisodeSplit :=
  if valCount < 1 ∨ (outcomes.entries.length : ℤ) ≤ valCount then
    .error "val_count must be between 1 and the number of episodes minus one."
  else
    let groups := shuffledGroups shuffle outcomes
    let total := outcomes.entries.length
    let byQuota := groups.flatMap fun group =>
      group.2.take (quota valCount total group.2.length).toNat
    let remaining := valCount - byQuota.length
    let filledUp :=
      if 0 < remaining then
        let candidates := (groups.flatMap Prod.snd).filter (· ∉ byQuota)
        byQuota ++ (shuffle groups.length candidates).take remaining.toNat
      else byQuota
    let selected := sorted (filledUp.take valCount.toNat)
    let train := sorted (outcomes.episodes.filter (· ∉ selected))
    .ok {
      strategy := "episode-level stratified by recorded outcome"
      seed
      trainEpisodeIndices := train
      valEpisodeIndices := selected
      outcomeCounts := counter (outcomes.entries.map Prod.snd)
      valOutcomeCounts := outcomeCounts outcomes selected
      trainOutcomeCounts := outcomeCounts outcomes train }

/-! ## What a split should be -/

/-- Every call of `rng.shuffle` reorders its list. -/
def Reorders (shuffle : ℕ → List ℤ → List ℤ) : Prop :=
  ∀ call indices, (shuffle call indices).Perm indices

/-- Every episode is in one of the two ascending lists, and `valCount` of them are held out. -/
structure Exact (outcomes : Outcomes) (valCount : ℤ) (split : EpisodeSplit) : Prop where
  train_ascending : split.trainEpisodeIndices.Pairwise (· < ·)
  val_ascending : split.valEpisodeIndices.Pairwise (· < ·)
  disjoint : split.trainEpisodeIndices.Disjoint split.valEpisodeIndices
  once : (split.trainEpisodeIndices ++ split.valEpisodeIndices).Perm outcomes.episodes
  count : (split.valEpisodeIndices.length : ℤ) = valCount

def TrainsEveryOutcome (outcomes : Outcomes) (split : EpisodeSplit) : Prop :=
  ∀ outcome ∈ outcomes.distinct, ∃ episode ∈ outcomes.withOutcome outcome,
    episode ∈ split.trainEpisodeIndices

/-- Whatever the shuffles, the split is exact, and every outcome can be trained on unless too
many episodes are held out. -/
def SplitsWell (outcomes : Outcomes) (valCount : ℤ) : Prop :=
  ∀ shuffle seed, Reorders shuffle →
    ∃ split, stratifiedEpisodeSplit shuffle seed outcomes valCount = .ok split ∧
      Exact outcomes valCount split ∧
      (valCount ≤ outcomes.entries.length - outcomes.distinct.length →
        TrainsEveryOutcome outcomes split)

/-- The number of episodes that are added to those held out by quota. -/
def added (outcomes : Outcomes) (valCount : ℤ) : ℤ :=
  valCount - (outcomes.distinct.map fun outcome =>
    quota valCount outcomes.entries.length (outcomes.withOutcome outcome).length).sum

def LeavesMoreThanAdded (outcomes : Outcomes) (valCount : ℤ) : Prop :=
  ∀ outcome ∈ outcomes.distinct, added outcomes valCount <
    (outcomes.withOutcome outcome).length -
      quota valCount outcomes.entries.length (outcomes.withOutcome outcome).length

instance (outcomes : Outcomes) (valCount : ℤ) : Decidable (LeavesMoreThanAdded outcomes valCount) :=
  inferInstanceAs (Decidable (∀ outcome ∈ outcomes.distinct, _))

/-! ## Groups and quotas -/

theorem Outcomes.mem_withOutcome {outcomes : Outcomes} {outcome : String} {episode : ℤ} :
    episode ∈ outcomes.withOutcome outcome ↔ (episode, outcome) ∈ outcomes.entries := by
  simp [Outcomes.withOutcome]

theorem Outcomes.length_withOutcome_pos {outcomes : Outcomes} {outcome : String}
    (h : outcome ∈ outcomes.distinct) : 0 < (outcomes.withOutcome outcome).length := by
  obtain ⟨entry, hentry, rfl⟩ := List.mem_map.mp (List.mem_dedup.mp h)
  exact List.length_pos_of_mem (Outcomes.mem_withOutcome.mpr hentry)

private theorem quota_nonneg {valCount : ℤ} (h : 1 ≤ valCount) (total size : ℕ) :
    0 ≤ quota valCount total size := by
  have hvalue : (0 : ℚ) ≤ (valCount * size : ℚ) / total := by
    have hcast : (0 : ℚ) ≤ valCount := by exact_mod_cast (by omega : (0 : ℤ) ≤ valCount)
    positivity
  have hround : 0 ≤ roundHalfEven ((valCount * size : ℚ) / total) := by
    have hfloor := Int.floor_nonneg.mpr hvalue
    rw [roundHalfEven]
    split_ifs <;> omega
  exact le_min hround (le_max_left _ _)

/-- The quota of an outcome leaves an episode of it. -/
theorem quota_lt (valCount : ℤ) (total : ℕ) {size : ℕ} (h : 0 < size) :
    quota valCount total size < size := by
  have hmin := min_le_right (roundHalfEven ((valCount * size : ℚ) / total)) (max 0 ((size : ℤ) - 1))
  rw [quota]
  omega

/-- The number of episodes of a group that are taken by quota. -/
def quotaSize (outcomes : Outcomes) (valCount : ℤ) (size : ℕ) : ℕ :=
  (quota valCount outcomes.entries.length size).toNat

private theorem cast_quotaSize {valCount : ℤ} (h : 1 ≤ valCount) (outcomes : Outcomes) (size : ℕ) :
    (quotaSize outcomes valCount size : ℤ) = quota valCount outcomes.entries.length size :=
  Int.toNat_of_nonneg (quota_nonneg h _ _)

private theorem min_quotaSize {valCount : ℤ} (h : 1 ≤ valCount) (outcomes : Outcomes) (size : ℕ) :
    ((min (quotaSize outcomes valCount size) size : ℕ) : ℤ) =
      quota valCount outcomes.entries.length size := by
  have hcast := cast_quotaSize h outcomes size
  have hle : quota valCount outcomes.entries.length size ≤ size := by
    rcases Nat.eq_zero_or_pos size with rfl | hpos
    · exact (min_le_right _ _).trans (by simp)
    · exact (quota_lt valCount _ hpos).le
  omega

section Groups

variable {shuffle : ℕ → List ℤ → List ℤ} {outcomes : Outcomes} {valCount : ℤ}

private theorem forall₂_shuffledGroups (h : Reorders shuffle) (outcomes : Outcomes) :
    List.Forall₂ (fun group other => other.1 = group.1 ∧ other.2.Perm group.2)
      (groupEntries outcomes.entries) (shuffledGroups shuffle outcomes) := by
  rw [List.forall₂_iff_get]
  refine ⟨by simp [shuffledGroups], fun i hi hi' => ?_⟩
  simp only [shuffledGroups, List.get_eq_getElem, List.getElem_mapIdx, true_and]
  exact h _ _

def members (shuffle : ℕ → List ℤ → List ℤ) (outcomes : Outcomes) : List (List ℤ) :=
  (shuffledGroups shuffle outcomes).map Prod.snd

private theorem flatten_members_perm (h : Reorders shuffle) (outcomes : Outcomes) :
    (members shuffle outcomes).flatten.Perm outcomes.episodes := by
  have hgroups : (members shuffle outcomes).flatten.Perm
      ((groupEntries outcomes.entries).map Prod.snd).flatten := by
    apply List.Perm.flatten_congr
    rw [members, List.forall₂_map_left_iff, List.forall₂_map_right_iff]
    exact (forall₂_shuffledGroups h outcomes).flip.imp fun group other hperm => hperm.2
  rw [← List.flatMap_def] at hgroups
  exact hgroups.trans (flatMap_groupEntries_perm outcomes.entries)

private theorem nodup_flatten_members (h : Reorders shuffle) (outcomes : Outcomes) :
    (members shuffle outcomes).flatten.Nodup :=
  (flatten_members_perm h outcomes).nodup_iff.mpr outcomes.nodup

theorem exists_group (h : Reorders shuffle) {outcome : String}
    (houtcome : outcome ∈ outcomes.distinct) :
    ∃ group ∈ members shuffle outcomes, group.Perm (outcomes.withOutcome outcome) := by
  have hkey : outcome ∈ (groupEntries outcomes.entries).map Prod.fst :=
    (keys_groupEntries_perm outcomes.entries).symm.subset houtcome
  obtain ⟨⟨name, values⟩, hmem, rfl⟩ := List.mem_map.mp hkey
  obtain ⟨i, hi, hentry⟩ := List.mem_iff_getElem.mp hmem
  have hlength := (forall₂_shuffledGroups h outcomes).length_eq
  have hperm := (forall₂_shuffledGroups h outcomes).get hi (hlength ▸ hi)
  simp only [List.get_eq_getElem, hentry] at hperm
  refine ⟨_, List.mem_map_of_mem (List.getElem_mem (hlength ▸ hi)), ?_⟩
  rw [Outcomes.withOutcome, ← group_eq hmem]
  exact hperm.2

theorem length_members (h : Reorders shuffle) (outcomes : Outcomes) :
    (members shuffle outcomes).map List.length =
      ((groupEntries outcomes.entries).map Prod.fst).map fun outcome =>
        (outcomes.withOutcome outcome).length := by
  have hgroups := forall₂_shuffledGroups h outcomes
  refine List.ext_getElem (by simp [members, hgroups.length_eq]) fun i hi hi' => ?_
  have hlt : i < (groupEntries outcomes.entries).length := by simpa using hi'
  have hperm := (hgroups.get hlt (hgroups.length_eq ▸ hlt)).2.length_eq
  have hgroup := congrArg List.length (group_eq (List.getElem_mem hlt))
  simp only [members, List.getElem_map]
  exact hperm.trans hgroup

/-- The number of episodes held out by quota does not depend on the shuffles. -/
theorem length_taken_members (outcomes : Outcomes) (h : Reorders shuffle)
    (hvalCount : 1 ≤ valCount) :
    ((taken (quotaSize outcomes valCount) (members shuffle outcomes)).length : ℤ) =
      valCount - added outcomes valCount := by
  have hsizes := congrArg (List.map fun size => quota valCount outcomes.entries.length size)
    (length_members h outcomes)
  rw [List.map_map, List.map_map, List.map_map] at hsizes
  have hsum : ((taken (quotaSize outcomes valCount)
      (members shuffle outcomes)).length : ℤ) = ((members shuffle outcomes).map
        ((fun size => quota valCount outcomes.entries.length size) ∘ List.length)).sum := by
    rw [length_taken, Nat.cast_list_sum, List.map_map]
    refine congrArg List.sum (List.map_congr_left fun group _ => ?_)
    exact min_quotaSize hvalCount _ _
  rw [hsum, hsizes, ← List.map_map, added, sub_sub_cancel]
  exact ((keys_groupEntries_perm outcomes.entries).map _).sum_eq

end Groups

/-! ## The split in terms of quotas -/

section Split

variable {shuffle : ℕ → List ℤ → List ℤ} {outcomes : Outcomes} {valCount : ℤ}

def heldOut (shuffle : ℕ → List ℤ → List ℤ) (outcomes : Outcomes) (valCount : ℤ) : List ℤ :=
  selection (quotaSize outcomes valCount) (members shuffle outcomes) valCount.toNat
    (shuffle (groupEntries outcomes.entries).length
      (candidates (quotaSize outcomes valCount) (members shuffle outcomes)))

/-- The split holds out the selection by quota. -/
theorem exists_split (shuffle : ℕ → List ℤ → List ℤ) (seed : ℤ) (h1 : 1 ≤ valCount)
    (h2 : valCount < outcomes.entries.length) :
    ∃ split, stratifiedEpisodeSplit shuffle seed outcomes valCount = .ok split ∧
      split.valEpisodeIndices = sorted (heldOut shuffle outcomes valCount) ∧
      split.trainEpisodeIndices = sorted (outcomes.episodes.filter
        (· ∉ sorted (heldOut shuffle outcomes valCount))) := by
  have hcheck : ¬(valCount < 1 ∨ (outcomes.entries.length : ℤ) ≤ valCount) := by omega
  have hmembers : (shuffledGroups shuffle outcomes).flatMap Prod.snd =
      (members shuffle outcomes).flatten := by
    rw [members, List.flatMap_def]
  have hbyQuota : ((shuffledGroups shuffle outcomes).flatMap fun group =>
      group.2.take (quota valCount outcomes.entries.length group.2.length).toNat) =
      taken (quotaSize outcomes valCount) (members shuffle outcomes) := by
    simp [taken, members, quotaSize, List.flatMap_map]
  have hcalls : (shuffledGroups shuffle outcomes).length =
      (groupEntries outcomes.entries).length := by simp [shuffledGroups]
  have hfilled : ∀ byQuota pool : List ℤ,
      (if 0 < valCount - byQuota.length then
        byQuota ++ pool.take (valCount - byQuota.length).toNat else byQuota) =
      byQuota ++ pool.take (valCount.toNat - byQuota.length) := by
    intro byQuota pool
    have hcount : (valCount - byQuota.length).toNat = valCount.toNat - byQuota.length := by omega
    split_ifs with hpos
    · rw [hcount]
    · have hzero : valCount.toNat - byQuota.length = 0 := by omega
      rw [hzero, List.take_zero, List.append_nil]
  rw [stratifiedEpisodeSplit, if_neg hcheck]
  simp only [hmembers, hbyQuota, hcalls, hfilled]
  exact ⟨_, rfl, rfl, rfl⟩

theorem mem_sorted {indices : List ℤ} {index : ℤ} : index ∈ sorted indices ↔ index ∈ indices :=
  List.mem_insertionSort _

private theorem ascending_sorted {indices : List ℤ} (h : indices.Nodup) :
    (sorted indices).Pairwise (· < ·) := by
  have hnodup : (sorted indices).Nodup :=
    (List.perm_insertionSort (· ≤ ·) indices).nodup_iff.mpr h
  have hsorted : (sorted indices).Pairwise (· ≤ ·) := List.pairwise_insertionSort (· ≤ ·) indices
  exact (hsorted.and hnodup).imp fun hpair => lt_of_le_of_ne hpair.1 hpair.2

theorem heldOut_pool_perm (outcomes : Outcomes) (valCount : ℤ) (h : Reorders shuffle) :
    (shuffle (groupEntries outcomes.entries).length
      (candidates (quotaSize outcomes valCount) (members shuffle outcomes))).Perm
      (candidates (quotaSize outcomes valCount) (members shuffle outcomes)) := h _ _

theorem exact_split (h : Reorders shuffle) (h1 : 1 ≤ valCount)
    (h2 : valCount < outcomes.entries.length) {split : EpisodeSplit}
    (hval : split.valEpisodeIndices = sorted (heldOut shuffle outcomes valCount))
    (htrain : split.trainEpisodeIndices = sorted (outcomes.episodes.filter
      (· ∉ sorted (heldOut shuffle outcomes valCount)))) :
    Exact outcomes valCount split := by
  have hnodup := nodup_flatten_members h outcomes
  have hpool := heldOut_pool_perm outcomes valCount h
  have hheld : (heldOut shuffle outcomes valCount).Nodup := nodup_selection hnodup hpool
  have hsubset : heldOut shuffle outcomes valCount ⊆ outcomes.episodes :=
    List.Subset.trans (selection_subset hnodup hpool) (flatten_members_perm h outcomes).subset
  have hlength : (heldOut shuffle outcomes valCount).length = valCount.toNat := by
    apply length_selection hnodup hpool
    rw [(flatten_members_perm h outcomes).length_eq, Outcomes.episodes, List.length_map]
    omega
  have hsame : (outcomes.episodes.filter (· ∈ sorted (heldOut shuffle outcomes valCount))).Perm
      (heldOut shuffle outcomes valCount) := by
    apply (List.perm_ext_iff_of_nodup (outcomes.nodup.filter _) hheld).mpr
    intro episode
    rw [List.mem_filter, decide_eq_true_eq, mem_sorted]
    exact ⟨And.right, fun hmem => ⟨hsubset hmem, hmem⟩⟩
  constructor
  · rw [htrain]
    exact ascending_sorted (outcomes.nodup.filter _)
  · rw [hval]
    exact ascending_sorted hheld
  · rw [htrain, hval]
    intro episode htrainMem hvalMem
    have hnot := (List.mem_filter.mp (mem_sorted.mp htrainMem)).2
    rw [decide_eq_true_eq] at hnot
    exact hnot hvalMem
  · rw [htrain, hval]
    have hsplit := List.filter_append_perm (· ∈ sorted (heldOut shuffle outcomes valCount))
      outcomes.episodes
    apply ((List.perm_insertionSort _ _).append (List.perm_insertionSort _ _)).trans
    refine List.perm_append_comm.trans ((hsame.symm.append_right _).trans ?_)
    simpa using hsplit
  · rw [hval, sorted, List.length_insertionSort, hlength]
    omega

/-- An outcome has a training episode unless its whole group is held out. -/
theorem trained_iff {split : EpisodeSplit} {outcome : String}
    (htrain : split.trainEpisodeIndices = sorted (outcomes.episodes.filter
      (· ∉ sorted (heldOut shuffle outcomes valCount)))) {group : List ℤ}
    (hgroup : group.Perm (outcomes.withOutcome outcome)) :
    (∃ episode ∈ outcomes.withOutcome outcome, episode ∈ split.trainEpisodeIndices) ↔
      ∃ episode ∈ group, episode ∉ heldOut shuffle outcomes valCount := by
  have hmem : ∀ episode ∈ outcomes.withOutcome outcome, episode ∈ outcomes.episodes := by
    intro episode hepisode
    exact List.mem_map.mpr ⟨_, Outcomes.mem_withOutcome.mp hepisode, rfl⟩
  rw [htrain]
  constructor
  · rintro ⟨episode, hepisode, hin⟩
    have hnot := (List.mem_filter.mp (mem_sorted.mp hin)).2
    rw [decide_eq_true_eq, mem_sorted] at hnot
    exact ⟨episode, hgroup.mem_iff.mpr hepisode, hnot⟩
  · rintro ⟨episode, hepisode, hnot⟩
    have hwith := hgroup.mem_iff.mp hepisode
    refine ⟨episode, hwith, mem_sorted.mpr (List.mem_filter.mpr ⟨hmem episode hwith, ?_⟩)⟩
    rwa [decide_eq_true_eq, mem_sorted]

end Split

def sixEpisodes : Outcomes where
  entries := [(17, "success"), (18, "failure"), (19, "failure"), (20, "success"),
    (21, "failure"), (22, "failure")]
  nodup := by decide

def fiveEpisodes : Outcomes where
  entries := [(17, "success"), (18, "failure"), (19, "failure"), (20, "failure"),
    (21, "failure")]
  nodup := by decide

end SmolVlaQgf.StratifiedSplit
