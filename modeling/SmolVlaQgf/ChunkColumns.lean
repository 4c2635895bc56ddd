import SmolVlaQgf.ValidationIsolation

/-!
# The columns of the action-chunk dataset

`build_action_chunk_dataset` appends to six lists, one entry each for every chunk. The lists are
the columns of the rows of `buildActionChunkDataset`: they grow together, and the task features
only if they are used.
-/

namespace SmolVlaQgf.ChunkColumns
open ExactFloats Tensors CriticTargets CriticDataset ValidationIsolation FallibleTraversals

variable {K : Type}

/-! ## The lists and the loops -/

structure Columns (K : Type) where
  obsFeatures : List (List (PyFloat K))
  actionChunks : List (List (List (PyFloat K)))
  targets : List (PyFloat K)
  episodeIndices : List ℕ
  frameIndices : List ℕ
  taskFeatures : List (Tensor (PyFloat K))

def Columns.empty : Columns K := ⟨[], [], [], [], [], []⟩

structure Dataset (K : Type) where
  obsFeatures : List (List (PyFloat K))
  actionChunks : List (List (List (PyFloat K)))
  targets : List (PyFloat K)
  episodeIndices : List ℕ
  frameIndices : List ℕ
  taskFeatures : Option (List (Tensor (PyFloat K)))

/-- `range(0, stop, stride)` -/
def rangeBy (stop stride : ℕ) : List ℕ :=
  (List.range stop).filter fun start => decide (stride ∣ start)

def appendChunk (config : DatasetConfig K) (episodeIndex : ℕ) (states actions : Grid (PyFloat K))
    (returns : List (PyFloat K)) (taskFeatures : Option (Tensor (PyFloat K)))
    (columns : Columns K) (start : ℕ) : Columns K where
  obsFeatures := columns.obsFeatures ++ [states.rows.getD start []]
  actionChunks := columns.actionChunks ++
    [(actions.rows.drop start).take config.actionHorizon.toNat]
  targets := columns.targets ++ [returns.getD start .nan]
  episodeIndices := columns.episodeIndices ++ [episodeIndex]
  frameIndices := columns.frameIndices ++ [start]
  taskFeatures := columns.taskFeatures ++ taskFeatures.toList

section Build

variable [Field K] [LinearOrder K]

def appendEpisode (torch : TensorOps K) (config : DatasetConfig K) (retrieved : List (List K))
    (columns : Columns K) (entry : Episode K × ℕ) : Except TensorError (Columns K) := do
  let (episode, episodeIndex) := entry
  let states ← episode.obs.as2d config.obsKey
  let actions ← episode.action.as2d config.actionKey
  let successes := episode.success.flatten
  let taskFeatures ← episodeTaskFeatures torch config episode
  if states.rows.length ≠ actions.rows.length ∨ states.rows.length ≠ successes.length then
    throw (.valueError "state, action, and success tensors must have the same first dimension.")
  if (actions.rows.length : ℤ) < config.actionHorizon then
    return columns
  let returns ← successToGoTargets config.gamma successes
  let returns ← episodeTargets config episode (retrieved.getD episodeIndex []) returns
  return (rangeBy (actions.rows.length - config.actionHorizon.toNat + 1) config.stride.toNat).foldl
    (appendChunk config episodeIndex states actions returns taskFeatures) columns

/-- `build_action_chunk_dataset` -/
def buildDataset (torch : TensorOps K) (config : DatasetConfig K) (episodes : List (Episode K)) :
    Except TensorError (Dataset K) := do
  config.check
  let retrieved ← retrievedFor torch config episodes
  let columns ← episodes.zipIdx.foldlM (appendEpisode torch config retrieved) Columns.empty
  if columns.actionChunks.isEmpty then
    throw (.valueError
      "No action chunks were produced. Check horizon, stride, and rollout length.")
  stack (columns.obsFeatures.map fun features => [features.length])
  stack (columns.actionChunks.map fun chunk => [chunk.length, (chunk.headD []).length])
  if config.taskFeatureSource ≠ .none then
    stack (columns.taskFeatures.map Tensor.shape)
  return {
    obsFeatures := columns.obsFeatures
    actionChunks := columns.actionChunks
    targets := columns.targets
    episodeIndices := columns.episodeIndices
    frameIndices := columns.frameIndices
    taskFeatures :=
      if config.taskFeatureSource = .none then none else some columns.taskFeatures }

end Build

/-! ## Columns of rows -/

def Columns.append (columns : Columns K) (rows : List (DatasetRow K)) : Columns K where
  obsFeatures := columns.obsFeatures ++ rows.map DatasetRow.obsFeatures
  actionChunks := columns.actionChunks ++ rows.map DatasetRow.actionChunk
  targets := columns.targets ++ rows.map DatasetRow.target
  episodeIndices := columns.episodeIndices ++ rows.map DatasetRow.episodeIndex
  frameIndices := columns.frameIndices ++ rows.map DatasetRow.frameIndex
  taskFeatures := columns.taskFeatures ++ rows.filterMap DatasetRow.taskFeatures

@[simp] theorem Columns.append_nil (columns : Columns K) : columns.append [] = columns := by
  simp [Columns.append]

theorem Columns.append_append (columns : Columns K) (rows rows' : List (DatasetRow K)) :
    (columns.append rows).append rows' = columns.append (rows ++ rows') := by
  simp [Columns.append, List.filterMap_append]

theorem foldl_appendChunk (config : DatasetConfig K) (episodeIndex : ℕ)
    (states actions : Grid (PyFloat K)) (returns : List (PyFloat K))
    (taskFeatures : Option (Tensor (PyFloat K))) (columns : Columns K) (starts : List ℕ) :
    starts.foldl (appendChunk config episodeIndex states actions returns taskFeatures) columns =
      columns.append (starts.map
        (chunkRow config episodeIndex states actions returns taskFeatures)) := by
  induction starts generalizing columns with
  | nil => simp
  | cons start starts ih =>
    have hfirst : appendChunk config episodeIndex states actions returns taskFeatures columns
        start = columns.append
          [chunkRow config episodeIndex states actions returns taskFeatures start] := by
      cases taskFeatures <;> simp [appendChunk, Columns.append, chunkRow]
    rw [List.foldl_cons, ih, hfirst, Columns.append_append, List.map_cons, List.singleton_append]

theorem rangeBy_eq_chunkStarts (length horizon : ℕ) {stride : ℕ} (h : 0 < stride) :
    rangeBy (length - horizon + 1) stride = chunkStarts length horizon stride := by
  have hascending : (chunkStarts length horizon stride).Pairwise (· < ·) := by
    rw [chunkStarts, List.pairwise_map]
    exact List.pairwise_lt_range.imp fun hlt => Nat.mul_lt_mul_of_pos_right hlt h
  have hascending' : (rangeBy (length - horizon + 1) stride).Pairwise (· < ·) :=
    List.pairwise_lt_range.filter _
  apply List.Perm.eq_of_pairwise' hascending' hascending
  apply (List.perm_ext_iff_of_nodup hascending'.nodup hascending.nodup).mpr
  intro start
  simp only [rangeBy, chunkStarts, List.mem_filter, List.mem_range, decide_eq_true_eq,
    List.mem_map]
  constructor
  · rintro ⟨hlt, j, rfl⟩
    refine ⟨j, ?_, Nat.mul_comm _ _⟩
    rw [Nat.lt_succ_iff] at hlt ⊢
    rwa [Nat.le_div_iff_mul_le h, Nat.mul_comm]
  · rintro ⟨j, hj, rfl⟩
    refine ⟨?_, Dvd.intro_left j rfl⟩
    rw [Nat.lt_succ_iff] at hj ⊢
    rwa [Nat.le_div_iff_mul_le h] at hj

/-- A chunk starts early enough to end within its episode. -/
theorem add_le_of_mem_chunkStarts {length horizon stride start : ℕ} (hle : horizon ≤ length)
    (h : start ∈ chunkStarts length horizon stride) : start + horizon ≤ length := by
  obtain ⟨j, hj, rfl⟩ := List.mem_map.mp h
  have hmul : j * stride ≤ length - horizon := by
    rw [List.mem_range, Nat.lt_succ_iff] at hj
    exact (Nat.mul_le_mul_right _ hj).trans (Nat.div_mul_le_self _ _)
  omega

section Rows

variable [Field K] [LinearOrder K] {torch : TensorOps K} {config : DatasetConfig K}

theorem appendEpisode_eq (hstride : 1 ≤ config.stride) (retrieved : List (List K))
    (columns : Columns K) (episode : Episode K) (i : ℕ) :
    appendEpisode torch config retrieved columns (episode, i) =
      (episodeRows torch config i episode (retrieved.getD i [])).map columns.append := by
  have hpos : 0 < config.stride.toNat := by omega
  simp only [appendEpisode, episodeRows]
  cases episode.obs.as2d config.obsKey with
  | error e => rfl
  | ok states =>
    cases episode.action.as2d config.actionKey with
    | error e => rfl
    | ok actions =>
      cases episodeTaskFeatures torch config episode with
      | error e => rfl
      | ok features =>
        by_cases hlength : states.rows.length ≠ actions.rows.length ∨
            states.rows.length ≠ episode.success.flatten.length
        · simp only [bind, Except.bind, if_pos hlength]
          rfl
        · by_cases hshort : (actions.rows.length : ℤ) < config.actionHorizon
          · simp only [bind, Except.bind, if_neg hlength, if_pos hshort]
            exact congrArg Except.ok columns.append_nil.symm
          · simp only [bind, Except.bind, if_neg hlength, if_neg hshort]
            cases successToGoTargets config.gamma episode.success.flatten with
            | error e => rfl
            | ok returns =>
              dsimp only
              cases episodeTargets config episode (retrieved.getD i []) returns with
              | error e => rfl
              | ok targets =>
                simp only [foldl_appendChunk, rangeBy_eq_chunkStarts _ _ hpos]
                rfl

/-- The outer loop returns the columns of the rows of all episodes. -/
theorem foldlM_appendEpisode (hstride : 1 ≤ config.stride) {episodes : List (Episode K)}
    {retrieved : List (List K)} (hlength : retrieved.length = episodes.length) :
    episodes.zipIdx.foldlM (appendEpisode torch config retrieved) Columns.empty =
      (collectRows torch config episodes retrieved).map Columns.empty.append := by
  have hentries : episodes.zipIdx.zip retrieved =
      episodes.zipIdx.map fun entry => (entry, retrieved.getD entry.2 []) := by
    refine List.ext_getElem (by simp [hlength]) fun i hi hi' => ?_
    have hlt : i < retrieved.length := by simpa [hlength] using hi
    simp [List.getD_eq_getElem?_getD, hlt]
  have hloop := foldlM_eq_mapM (f := appendEpisode torch config retrieved)
    (g := fun entry : Episode K × ℕ =>
      episodeRows torch config entry.2 entry.1 (retrieved.getD entry.2 []))
    Columns.append_nil Columns.append_append episodes.zipIdx
    (fun entry _ columns => appendEpisode_eq hstride retrieved columns entry.1 entry.2)
    Columns.empty
  rw [hloop, collectRows, hentries, List.mapM_map]
  simp only [Function.comp_def]
  cases episodes.zipIdx.mapM fun entry =>
      episodeRows torch config entry.2 entry.1 (retrieved.getD entry.2 []) with
  | error e => rfl
  | ok rows => rfl

theorem isSome_episodeTaskFeatures {episode : Episode K} {features : Option (Tensor (PyFloat K))}
    (hsource : config.taskFeatureSource ≠ .none)
    (h : episodeTaskFeatures torch config episode = .ok features) : features.isSome := by
  rw [episodeTaskFeatures] at h
  split at h
  · exact absurd ‹_› hsource
  · split at h
    · obtain ⟨hashed, -, h⟩ := bind_eq_ok_iff.mp h
      obtain rfl := Except.ok.inj h
      rfl
    · cases h
  all_goals
    split at h
    · obtain rfl := Except.ok.inj h
      rfl
    · cases h

theorem isSome_taskFeatures (hsource : config.taskFeatureSource ≠ .none)
    {episodes : List (Episode K)} {retrieved : List (List K)} {rows : List (DatasetRow K)}
    (h : collectRows torch config episodes retrieved = .ok rows) :
    ∀ row ∈ rows, row.taskFeatures.isSome := by
  obtain ⟨parts, hparts, hrows⟩ := bind_eq_ok_iff.mp h
  obtain rfl := Except.ok.inj hrows
  intro row hrow
  obtain ⟨part, hpart, hrow⟩ := List.mem_flatten.mp hrow
  obtain ⟨entry, -, hentry⟩ := exists_of_mem_mapM hparts hpart
  cases episodeOutcome hentry with
  | short => simp at hrow
  | chunks _ _ _ hfeatures =>
    obtain ⟨start, -, rfl⟩ := List.mem_map.mp hrow
    exact isSome_episodeTaskFeatures hsource hfeatures

def datasetOf (config : DatasetConfig K) (rows : List (DatasetRow K)) : Dataset K where
  obsFeatures := rows.map DatasetRow.obsFeatures
  actionChunks := rows.map DatasetRow.actionChunk
  targets := rows.map DatasetRow.target
  episodeIndices := rows.map DatasetRow.episodeIndex
  frameIndices := rows.map DatasetRow.frameIndex
  taskFeatures :=
    if config.taskFeatureSource = .none then none
    else some (rows.filterMap DatasetRow.taskFeatures)

theorem one_le_of_check (h : config.check = .ok ()) :
    1 ≤ config.actionHorizon ∧ 1 ≤ config.stride := by
  rw [DatasetConfig.check] at h
  obtain ⟨hhorizon, h⟩ := guarded_eq_ok_iff.mp h
  obtain ⟨hstride, -⟩ := guarded_eq_ok_iff.mp h
  omega

omit [Field K] [LinearOrder K] in
theorem map_some_taskFeatures {rows : List (DatasetRow K)}
    (h : ∀ row ∈ rows, row.taskFeatures.isSome) :
    (rows.filterMap DatasetRow.taskFeatures).map some = rows.map DatasetRow.taskFeatures := by
  induction rows with
  | nil => rfl
  | cons row rows ih =>
    obtain ⟨features, hfeatures⟩ := Option.isSome_iff_exists.mp (h row List.mem_cons_self)
    rw [List.filterMap_cons_some hfeatures, List.map_cons, List.map_cons,
      ih fun other hother => h other (List.mem_cons_of_mem _ hother), hfeatures]

omit [Field K] [LinearOrder K] in
private theorem shapes_taskFeatures {rows : List (DatasetRow K)}
    (h : ∀ row ∈ rows, row.taskFeatures.isSome) :
    (rows.filterMap DatasetRow.taskFeatures).map Tensor.shape =
      rows.map fun row => (row.taskFeatures.map Tensor.shape).getD [] := by
  have hmap := congrArg (List.map fun features : Option (Tensor (PyFloat K)) =>
    (features.map Tensor.shape).getD []) (map_some_taskFeatures h)
  simpa [List.map_map, Function.comp_def] using hmap

/-- The loops build the columns of the rows, with the same errors. -/
theorem buildDataset_eq (torch : TensorOps K) (config : DatasetConfig K)
    (episodes : List (Episode K)) :
    buildDataset torch config episodes =
      (buildActionChunkDataset torch config episodes).map (datasetOf config) := by
  simp only [buildDataset, buildActionChunkDataset]
  cases hcheck : config.check with
  | error e => rfl
  | ok accepted =>
    cases hretrieved : retrievedFor torch config episodes with
    | error e => rfl
    | ok retrieved =>
      simp only [bind, Except.bind]
      rw [foldlM_appendEpisode (one_le_of_check hcheck).2 (length_retrievedFor hretrieved)]
      cases hrows : collectRows torch config episodes retrieved with
      | error e => rfl
      | ok rows =>
        simp only [Except.map, Columns.append, Columns.empty, List.nil_append, List.isEmpty_map]
        cases rows.isEmpty with
        | true => rfl
        | false =>
          simp only [stackRows, bind, Except.bind, List.map_map, Function.comp_def]
          cases stack (rows.map fun row => [row.obsFeatures.length]) with
          | error e => rfl
          | ok stacked =>
            cases stack (rows.map fun row =>
                [row.actionChunk.length, (row.actionChunk.headD []).length]) with
            | error e => rfl
            | ok stacked =>
              by_cases hsource : config.taskFeatureSource ≠ .none
              · simp only [if_pos hsource, shapes_taskFeatures (isSome_taskFeatures hsource hrows)]
                cases stack (rows.map fun row => (row.taskFeatures.map Tensor.shape).getD []) with
                | error e => rfl
                | ok stacked => rfl
              · simp only [if_neg hsource]
                rfl

end Rows

end SmolVlaQgf.ChunkColumns
