import SmolVlaQgf.CriticDataset
import SmolVlaQgf.FallibleTraversals

/-!
# Validation episodes and training rows

The targets are computed over all episodes before the split is drawn. A training row
depends on other episodes through the retrieved progress only, so validation episodes
influence training rows exactly where retrieved progress is given a weight.
-/

namespace SmolVlaQgf.ValidationIsolation
open ExactFloats Tensors CriticTargets CriticDataset FallibleTraversals

variable {K : Type}

/-! ## Pairs of datasets -/

/-- `shape[0]` -/
def size {S : Type} : Tensor S → ℕ
  | .vector values => values.length
  | .matrix grid => grid.rows.length
  | .other shape _ => shape.headD 0

structure SameLengths (episode other : Episode K) : Prop where
  obs : size other.obs = size episode.obs
  action : size other.action = size episode.action
  success : other.success.flatten.length = episode.success.flatten.length

/-- The same episode but for its states, actions and success flags. -/
structure Varied (episode other : Episode K) : Prop extends SameLengths episode other where
  same : other = { episode with
    obs := other.obs, action := other.action, success := other.success }

def validationEpisodes (dataset : List (DatasetRow K)) (split : SplitIndices) : List ℕ :=
  split.validation.filterMap fun index => (dataset[index]?).map (·.episodeIndex)

structure DifferIn (validation : List ℕ) (episodes others : List (Episode K)) : Prop where
  length : others.length = episodes.length
  same : ∀ i ∉ validation, others[i]? = episodes[i]?
  varied : ∀ i ∈ validation, ∀ episode other, episodes[i]? = some episode →
    others[i]? = some other → Varied episode other

variable [Field K] [LinearOrder K] [FloorRing K]

/-- The training rows do not change when validation episodes do. -/
def Isolated (torch : TensorOps K) (config : DatasetConfig K) (valFraction : K)
    (randperm : ℕ → List ℕ) : Prop :=
  ∀ episodes others dataset other split split',
    buildActionChunkDataset torch config episodes = .ok dataset →
    buildActionChunkDataset torch config others = .ok other →
    splitIndicesByEpisode valFraction randperm (episodeIndices dataset) = .ok split →
    splitIndicesByEpisode valFraction randperm (episodeIndices other) = .ok split' →
    DifferIn (validationEpisodes dataset split) episodes others →
    rowsAt other split'.train = rowsAt dataset split.train

/-! ## Rows of an episode -/

omit [FloorRing K] in
theorem length_successToGoTargets {gamma : K} {successes : List Bool} {targets : List K}
    (h : successToGoTargets gamma successes = .ok targets) :
    targets.length = successes.length := by
  rw [successToGoTargets] at h
  split_ifs at h
  split at h
  · obtain rfl := Except.ok.inj h
    exact List.length_map _
  · obtain rfl := Except.ok.inj h
    rw [List.length_map, List.length_range]

theorem length_as2d {S : Type} {name : String} {tensor : Tensor S} {grid : Grid S}
    (h : tensor.as2d name = .ok grid) : grid.rows.length = size tensor := by
  cases tensor with
  | vector values =>
    obtain rfl := Except.ok.inj h
    exact Grid.length_rows_column values
  | matrix grid' =>
    obtain rfl := Except.ok.inj h
    rfl
  | other shape values => cases h

variable {torch : TensorOps K} {config : DatasetConfig K}

/-- How the rows of an episode come about: it is too short, or it has one row a chunk. -/
inductive EpisodeOutcome (torch : TensorOps K) (config : DatasetConfig K) (i : ℕ)
    (episode : Episode K) (retrieved : List K) : List (DatasetRow K) → Prop where
  | short (hshort : (size episode.action : ℤ) < config.actionHorizon) :
      EpisodeOutcome torch config i episode retrieved []
  | chunks {states actions : Grid (PyFloat K)} {features : Option (Tensor (PyFloat K))}
      {returns : List K} {targets : List (PyFloat K)}
      (hlong : ¬(size episode.action : ℤ) < config.actionHorizon)
      (hstates : episode.obs.as2d config.obsKey = .ok states)
      (hactions : episode.action.as2d config.actionKey = .ok actions)
      (hfeatures : episodeTaskFeatures torch config episode = .ok features)
      (hlength : size episode.obs = episode.success.flatten.length)
      (hreturns : successToGoTargets config.gamma episode.success.flatten = .ok returns)
      (htargets : episodeTargets config episode retrieved returns = .ok targets) :
      EpisodeOutcome torch config i episode retrieved
        ((chunkStarts (size episode.action) config.actionHorizon.toNat config.stride.toNat).map
          (chunkRow config i states actions targets features))

omit [FloorRing K] in
theorem episodeOutcome {i : ℕ} {episode : Episode K} {retrieved : List K}
    {rows : List (DatasetRow K)} (h : episodeRows torch config i episode retrieved = .ok rows) :
    EpisodeOutcome torch config i episode retrieved rows := by
  rw [episodeRows] at h
  obtain ⟨states, hstates, h⟩ := bind_eq_ok_iff.mp h
  obtain ⟨actions, hactions, h⟩ := bind_eq_ok_iff.mp h
  obtain ⟨features, hfeatures, h⟩ := bind_eq_ok_iff.mp h
  obtain ⟨hlengths, h⟩ := guarded_eq_ok_iff.mp h
  push Not at hlengths
  rw [length_as2d hactions, length_as2d hstates] at hlengths
  rw [length_as2d hactions] at h
  split_ifs at h with hshort
  · obtain rfl := Except.ok.inj h
    exact .short hshort
  · obtain ⟨returns, hreturns, h⟩ := bind_eq_ok_iff.mp h
    obtain ⟨targets, htargets, h⟩ := bind_eq_ok_iff.mp h
    obtain rfl := Except.ok.inj h
    exact .chunks hshort hstates hactions hfeatures hlengths.2 hreturns htargets

/-! ## Retrieved progress -/

omit [FloorRing K] in
private theorem length_bankProgress {k : ℤ} {bank : Bank K} {states : Grid (PyFloat K)}
    {progress : List K} (h : bankProgress torch k bank states = .ok progress) :
    progress.length = states.rows.length := by
  rw [bankProgress] at h
  obtain ⟨rows, hrows, h⟩ := bind_eq_ok_iff.mp h
  obtain ⟨bankRows, -, h⟩ := bind_eq_ok_iff.mp h
  obtain ⟨-, h⟩ := guarded_eq_ok_iff.mp h
  rw [length_of_mapM h]
  rw [normalizeStates] at hrows
  split_ifs at hrows
  obtain rfl := Except.ok.inj hrows
  exact List.length_map _

omit [FloorRing K] in
private theorem forall₂_retrievalProgress {k : ℤ} {rollouts : List (Rollout K)}
    {retrieved : List (List K)}
    (h : retrievalProgress torch k rollouts = .ok retrieved) :
    List.Forall₂ (fun rollout progress => progress.length = rollout.states.rows.length) rollouts
      retrieved := by
  rw [retrievalProgress] at h
  split at h
  · obtain rfl := Except.ok.inj h
    rw [List.forall₂_map_right_iff, List.forall₂_same]
    exact fun rollout _ => List.length_map _
  · obtain ⟨globalBank, -, h⟩ := bind_eq_ok_iff.mp h
    refine (mapM_eq_ok_iff.mp h).imp fun rollout progress hprogress => ?_
    obtain ⟨bank, -, hprogress⟩ := bind_eq_ok_iff.mp hprogress
    exact length_bankProgress hprogress

omit [LinearOrder K] [FloorRing K] [Field K] in
theorem forall₂_rollouts {obsKey : String} {episodes : List (Episode K)}
    {states : List (Grid (PyFloat K))} {returns : List (List K)}
    (hstates : List.Forall₂ (fun (episode : Episode K) grid =>
      episode.obs.as2d obsKey = .ok grid) episodes states)
    (hlength : returns.length = episodes.length) :
    List.Forall₂ (fun (episode : Episode K) (rollout : Rollout K) =>
      rollout.states.rows.length = size episode.obs) episodes
      (List.zipWith (fun episode (read : Grid (PyFloat K) × List K) =>
        (⟨episode.taskKey, read.1, episode.success.flatten, read.2⟩ : Rollout K)) episodes
        (states.zip returns)) := by
  induction hstates generalizing returns with
  | nil => exact .nil
  | cons hfirst hrest ih =>
    cases returns with
    | nil => cases hlength
    | cons first rest => exact .cons (length_as2d hfirst) (ih (Nat.succ.inj hlength))

omit [FloorRing K] in
theorem forall₂_retrievalProgressTargets {obsKey : String} {gamma : K} {k : ℤ}
    {episodes : List (Episode K)} {retrieved : List (List K)}
    (h : retrievalProgressTargets torch obsKey gamma k episodes = .ok retrieved) :
    List.Forall₂ (fun (episode : Episode K) progress => progress.length = size episode.obs)
      episodes retrieved := by
  rw [retrievalProgressTargets] at h
  obtain ⟨-, h⟩ := guarded_eq_ok_iff.mp h
  obtain ⟨states, hstates, h⟩ := bind_eq_ok_iff.mp h
  obtain ⟨returns, hreturns, h⟩ := bind_eq_ok_iff.mp h
  refine forall₂_comp (fun episode rollout progress hrollout hprogress => ?_)
    (forall₂_rollouts (mapM_eq_ok_iff.mp hstates) (length_of_mapM hreturns))
    (forall₂_retrievalProgress h)
  exact hprogress.trans hrollout

omit [FloorRing K] in
theorem length_retrievedFor {episodes : List (Episode K)} {retrieved : List (List K)}
    (h : retrievedFor torch config episodes = .ok retrieved) :
    retrieved.length = episodes.length := by
  rw [retrievedFor] at h
  split_ifs at h
  · exact (forall₂_retrievalProgressTargets h).length_eq.symm
  · obtain rfl := Except.ok.inj h
    exact List.length_map _

omit [FloorRing K] in
theorem buildActionChunkDataset_eq_ok {episodes : List (Episode K)}
    {dataset : List (DatasetRow K)}
    (h : buildActionChunkDataset torch config episodes = .ok dataset) :
    ∃ retrieved, retrievedFor torch config episodes = .ok retrieved ∧
      collectRows torch config episodes retrieved = .ok dataset := by
  rw [buildActionChunkDataset] at h
  obtain ⟨-, -, h⟩ := bind_eq_ok_iff.mp h
  obtain ⟨retrieved, hretrieved, h⟩ := bind_eq_ok_iff.mp h
  obtain ⟨rows, hrows, h⟩ := bind_eq_ok_iff.mp h
  obtain ⟨-, h⟩ := guarded_eq_ok_iff.mp h
  obtain ⟨-, -, h⟩ := bind_eq_ok_iff.mp h
  obtain rfl := Except.ok.inj h
  exact ⟨retrieved, hretrieved, hrows⟩

/-! ## Where retrieved progress has no weight -/

def IgnoresRetrieval (config : DatasetConfig K) : Prop :=
  config.targetMode ≠ .retrievalProgressBlend ∨ config.progressWeight = 0

omit [FloorRing K] in
private theorem zipWith_blend {returns retrieved : List K} (hweight : config.progressWeight = 0)
    (hlength : retrieved.length = returns.length) :
    List.zipWith (blend config) returns (retrieved.map PyFloat.finite) =
      returns.map fun target => blend config target (.finite 0) := by
  have hblend : ∀ target value : K, blend config target (.finite value) =
      blend config target (.finite 0) := fun target value => by
    simp [blend, clampFloat, hweight]
  refine List.ext_getElem (by simp [hlength]) fun i hi hi' => ?_
  rw [List.getElem_zipWith, List.getElem_map, List.getElem_map]
  exact hblend _ _

omit [FloorRing K] in
/-- The targets of an episode do not change with what is retrieved for it. -/
theorem episodeTargets_congr (h : IgnoresRetrieval config) {episode : Episode K}
    {retrieved retrieved' returns : List K}
    (hlength : config.targetMode = .retrievalProgressBlend → retrieved.length = returns.length)
    (hlength' : config.targetMode = .retrievalProgressBlend →
      retrieved'.length = returns.length) :
    episodeTargets config episode retrieved returns =
      episodeTargets config episode retrieved' returns := by
  rw [episodeTargets, episodeTargets]
  cases hmode : config.targetMode with
  | successToGo => rfl
  | progressBlend => cases episode.progress <;> rfl
  | retrievalProgressBlend =>
    have hweight : config.progressWeight = 0 := h.resolve_left fun hne => hne hmode
    dsimp only
    rw [zipWith_blend hweight (hlength hmode), zipWith_blend hweight (hlength' hmode)]

/-- Two rows of one episode, equal for training if the episode is not held out. -/
structure RowsAgree (validation : List ℕ) (row other : DatasetRow K) : Prop where
  episodeIndex : other.episodeIndex = row.episodeIndex
  training : row.episodeIndex ∉ validation → other.trainingRow = row.trainingRow

structure EntriesAgree (config : DatasetConfig K) (validation : List ℕ)
    (entry other : (Episode K × ℕ) × List K) : Prop where
  index : other.1.2 = entry.1.2
  lengths : SameLengths entry.1.1 other.1.1
  same : entry.1.2 ∉ validation → other.1.1 = entry.1.1
  retrieved : config.targetMode = .retrievalProgressBlend →
    entry.2.length = size entry.1.1.obs ∧ other.2.length = size other.1.1.obs

omit [FloorRing K] in
theorem EntriesAgree.rows (h : IgnoresRetrieval config) {validation : List ℕ}
    {entry other : (Episode K × ℕ) × List K} (hentries : EntriesAgree config validation entry other)
    {rows rows' : List (DatasetRow K)}
    (hrows : episodeRows torch config entry.1.2 entry.1.1 entry.2 = .ok rows)
    (hrows' : episodeRows torch config other.1.2 other.1.1 other.2 = .ok rows') :
    List.Forall₂ (RowsAgree validation) rows rows' := by
  obtain ⟨⟨episode, i⟩, retrieved⟩ := entry
  obtain ⟨⟨episode', i'⟩, retrieved'⟩ := other
  obtain ⟨rfl, hlengths, hsame, hretrieved⟩ := hentries
  dsimp only at hlengths hsame hretrieved hrows hrows'
  have hrows := episodeOutcome hrows
  have hrows' := episodeOutcome hrows'
  cases hrows with
  | short hshort =>
    cases hrows' with
    | short => exact .nil
    | chunks hlong => exact absurd (hlengths.action ▸ hshort) hlong
  | @chunks states actions features returns targets hlong hstates hactions hfeatures hlength
      hreturns htargets =>
    cases hrows' with
    | short hshort => exact absurd (hlengths.action ▸ hshort) hlong
    | @chunks states' actions' features' returns' targets' hlong' hstates' hactions' hfeatures'
        hlength' hreturns' htargets' =>
      rw [hlengths.action, List.forall₂_map_left_iff, List.forall₂_map_right_iff,
        List.forall₂_same]
      refine fun start _ => ⟨rfl, fun hindex => ?_⟩
      obtain rfl := hsame hindex
      obtain rfl := Except.ok.inj (hstates.symm.trans hstates')
      obtain rfl := Except.ok.inj (hactions.symm.trans hactions')
      obtain rfl := Except.ok.inj (hreturns.symm.trans hreturns')
      have hcount := length_successToGoTargets hreturns
      have htargetsEq : episodeTargets config episode' retrieved returns =
          episodeTargets config episode' retrieved' returns := episodeTargets_congr h
        (fun hmode => (hretrieved hmode).1.trans (hlength.trans hcount.symm))
        (fun hmode => (hretrieved hmode).2.trans (hlength.trans hcount.symm))
      rw [htargets, htargets'] at htargetsEq
      obtain rfl := Except.ok.inj htargetsEq
      rfl

omit [Field K] [LinearOrder K] [FloorRing K] in
theorem SameLengths.refl (episode : Episode K) : SameLengths episode episode := ⟨rfl, rfl, rfl⟩

omit [FloorRing K] in
private theorem forall₂_entries {validation : List ℕ} {episodes others : List (Episode K)}
    {retrieved retrieved' : List (List K)} (hdiffer : DifferIn validation episodes others)
    (h : retrievedFor torch config episodes = .ok retrieved)
    (h' : retrievedFor torch config others = .ok retrieved') :
    List.Forall₂ (EntriesAgree config validation) (episodes.zipIdx.zip retrieved)
      (others.zipIdx.zip retrieved') := by
  have hlength := length_retrievedFor h
  have hlength' := length_retrievedFor h'
  have hothers := hdiffer.length
  refine List.forall₂_iff_get.mpr ⟨by simp [hlength, hlength', hothers], fun i hi hi' => ?_⟩
  simp only [List.length_zip, List.length_zipIdx, lt_inf_iff] at hi hi'
  have hentry : episodes[i]? = some episodes[i] := List.getElem?_eq_getElem hi.1
  have hother : others[i]? = some others[i] := List.getElem?_eq_getElem hi'.1
  have hsame : i ∉ validation → others[i] = episodes[i] := fun hi => by
    have heq := hdiffer.same i hi
    rw [hentry, hother] at heq
    exact Option.some.inj heq
  have hlengths : SameLengths episodes[i] others[i] := by
    by_cases hvalidation : i ∈ validation
    · exact (hdiffer.varied i hvalidation _ _ hentry hother).toSameLengths
    · rw [hsame hvalidation]
      exact .refl _
  simp only [List.get_eq_getElem, List.getElem_zip, List.getElem_zipIdx, zero_add]
  refine ⟨rfl, hlengths, hsame, fun hmode => ?_⟩
  rw [retrievedFor, if_pos hmode] at h h'
  exact ⟨(forall₂_retrievalProgressTargets h).get hi.1 hi.2,
    (forall₂_retrievalProgressTargets h').get hi'.1 hi'.2⟩

omit [FloorRing K] in
theorem rows_agree (hignores : IgnoresRetrieval config) {validation : List ℕ}
    {episodes others : List (Episode K)} {dataset other : List (DatasetRow K)}
    (hdiffer : DifferIn validation episodes others)
    (h : buildActionChunkDataset torch config episodes = .ok dataset)
    (h' : buildActionChunkDataset torch config others = .ok other) :
    List.Forall₂ (RowsAgree validation) dataset other := by
  obtain ⟨retrieved, hretrieved, hcollect⟩ := buildActionChunkDataset_eq_ok h
  obtain ⟨retrieved', hretrieved', hcollect'⟩ := buildActionChunkDataset_eq_ok h'
  obtain ⟨rows, hrows, hdataset⟩ := bind_eq_ok_iff.mp hcollect
  obtain ⟨rows', hrows', hother⟩ := bind_eq_ok_iff.mp hcollect'
  obtain rfl := Except.ok.inj hdataset
  obtain rfl := Except.ok.inj hother
  exact List.rel_flatten (forall₂_of_mapM (forall₂_entries hdiffer hretrieved hretrieved')
    (fun entry other rows rows' hentries => hentries.rows hignores) hrows hrows')

/-! ## Rows for training -/

omit [Field K] [LinearOrder K] [FloorRing K] in
private theorem episodeIndices_eq {validation : List ℕ} {dataset other : List (DatasetRow K)}
    (h : List.Forall₂ (RowsAgree validation) dataset other) :
    episodeIndices other = episodeIndices dataset := by
  induction h with
  | nil => rfl
  | cons hfirst hrest ih => exact congrArg₂ List.cons (congrArg Nat.cast hfirst.episodeIndex) ih

/-- A row for training and a held-out row are of different episodes. -/
theorem split_disjoint {valFraction : K} {randperm : ℕ → List ℕ} {indices : List ℤ}
    {split : SplitIndices} (h : splitIndicesByEpisode valFraction randperm indices = .ok split)
    {i j : ℕ} (hi : i ∈ split.train) (hj : j ∈ split.validation) : indices[i]? ≠ indices[j]? := by
  rw [splitIndicesByEpisode] at h
  dsimp only at h
  split_ifs at h
  · obtain rfl := Except.ok.inj h
    exact absurd hj List.not_mem_nil
  · obtain rfl := Except.ok.inj h
    intro heq
    have hi := (List.mem_filter.mp hi).2
    have hj := (List.mem_filter.mp hj).2
    rw [heq, hj] at hi
    cases hi

private theorem training_notMem {valFraction : K} {randperm : ℕ → List ℕ}
    {dataset : List (DatasetRow K)}
    {split : SplitIndices}
    (h : splitIndicesByEpisode valFraction randperm (episodeIndices dataset) = .ok split)
    {i : ℕ} {row : DatasetRow K} (hi : i ∈ split.train) (hrow : dataset[i]? = some row) :
    row.episodeIndex ∉ validationEpisodes dataset split := by
  intro hmem
  obtain ⟨j, hj, heq⟩ := List.mem_filterMap.mp hmem
  obtain ⟨held, hheld, hindex⟩ := Option.map_eq_some_iff.mp heq
  apply split_disjoint h hi hj
  rw [episodeIndices, List.getElem?_map, List.getElem?_map, hrow, hheld, Option.map_some,
    Option.map_some, hindex]

omit [Field K] [LinearOrder K] [FloorRing K] in
private theorem rowsAt_eq {validation indices : List ℕ} {dataset other : List (DatasetRow K)}
    (h : List.Forall₂ (RowsAgree validation) dataset other)
    (hindices : ∀ i ∈ indices, ∀ row, dataset[i]? = some row → row.episodeIndex ∉ validation) :
    rowsAt other indices = rowsAt dataset indices := by
  refine List.filterMap_congr fun i hi => ?_
  by_cases hlt : i < dataset.length
  · have hlt' : i < other.length := h.length_eq ▸ hlt
    have hrow : dataset[i]? = some dataset[i] := List.getElem?_eq_getElem hlt
    rw [hrow, List.getElem?_eq_getElem hlt', Option.map_some, Option.map_some]
    exact congrArg some ((h.get hlt hlt').training (hindices i hi _ hrow))
  · have hle : dataset.length ≤ i := not_lt.mp hlt
    rw [List.getElem?_eq_none hle, List.getElem?_eq_none (h.length_eq ▸ hle)]

/-- Without weight on retrieved progress, no validation episode influences a training row. -/
theorem isolated_of_ignoresRetrieval (h : IgnoresRetrieval config) (valFraction : K)
    (randperm : ℕ → List ℕ) : Isolated torch config valFraction randperm := by
  intro episodes others dataset other split split' hdataset hother hsplit hsplit' hdiffer
  have hagree := rows_agree h hdiffer hdataset hother
  rw [episodeIndices_eq hagree, hsplit] at hsplit'
  obtain rfl := Except.ok.inj hsplit'
  exact rowsAt_eq hagree fun i hi row hrow => training_notMem hsplit hi hrow

/-- Without validation episodes there is nothing to vary. -/
theorem isolated_of_valFraction_zero (randperm : ℕ → List ℕ) :
    Isolated torch config 0 randperm := by
  intro episodes others dataset other split split' hdataset hother hsplit hsplit' hdiffer
  have hnone : split.validation = [] := by
    rw [splitIndicesByEpisode] at hsplit
    dsimp only at hsplit
    split_ifs at hsplit with _ _ hzero
    · obtain rfl := Except.ok.inj hsplit
      rfl
    · exact absurd (Or.inl rfl) hzero
  have hsame : others = episodes := by
    refine List.ext_getElem? fun i => hdiffer.same i ?_
    rw [validationEpisodes, hnone]
    exact List.not_mem_nil
  rw [hsame, hdataset] at hother
  obtain rfl := Except.ok.inj hother
  rw [hsplit] at hsplit'
  obtain rfl := Except.ok.inj hsplit'
  rfl

end SmolVlaQgf.ValidationIsolation
