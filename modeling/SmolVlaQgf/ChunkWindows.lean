import SmolVlaQgf.ChunkColumns
import SmolVlaQgf.RetrievalLeak

/-!
# Chunk windows

For well-formed episodes `build_action_chunk_dataset` has one row for every window of
`action_horizon` steps that starts at a multiple of the stride, in the order of the episodes. A
window lies within one episode, and all columns of its row come from that episode and that step.
-/

namespace SmolVlaQgf.ChunkWindows
open ExactFloats Tensors CriticTargets CriticDataset ValidationIsolation FallibleTraversals
open ChunkColumns

variable {K : Type} [Field K] [LinearOrder K] {torch : TensorOps K} {config : DatasetConfig K}

/-! ## Episodes and windows -/

/-- An episode that can be read: its tensors have as many rows as it has flags, and the expected
widths. -/
structure WellFormed (torch : TensorOps K) (config : DatasetConfig K)
    (stateWidth actionWidth : ℕ) (featureShape : List ℕ) (episode : Episode K) : Prop where
  states : ∃ states, episode.obs.as2d config.obsKey = .ok states ∧ states.width = stateWidth
  actions : ∃ actions, episode.action.as2d config.actionKey = .ok actions ∧
    actions.width = actionWidth
  stateCount : size episode.obs = size episode.action
  flagCount : size episode.obs = episode.success.flatten.length
  features : ∃ features, episodeTaskFeatures torch config episode = .ok features ∧
    ∀ tensor ∈ features, tensor.shape = featureShape

/-- The windows of an episode: its position and the first step. -/
def windowsOf (config : DatasetConfig K) (entry : Episode K × ℕ) : List (ℕ × ℕ) :=
  if (size entry.1.action : ℤ) < config.actionHorizon then []
  else (List.range
      ((size entry.1.action - config.actionHorizon.toNat) / config.stride.toNat + 1)).map
    fun j => (entry.2, j * config.stride.toNat)

def windows (config : DatasetConfig K) (episodes : List (Episode K)) : List (ℕ × ℕ) :=
  episodes.zipIdx.flatMap (windowsOf config)

/-- The row of a window has the state, the actions, the target and the task features of that
episode from that step on. -/
structure RowAt (torch : TensorOps K) (config : DatasetConfig K) (episode : Episode K)
    (row : DatasetRow K) (window : ℕ × ℕ) : Prop where
  episodeIndex : row.episodeIndex = window.1
  frameIndex : row.frameIndex = window.2
  state : ∃ states, episode.obs.as2d config.obsKey = .ok states ∧
    states.rows[window.2]? = some row.obsFeatures
  chunkLength : row.actionChunk.length = config.actionHorizon.toNat
  chunk : ∃ actions, episode.action.as2d config.actionKey = .ok actions ∧
    ∀ m < config.actionHorizon.toNat, ∃ action, actions.rows[window.2 + m]? = some action ∧
      row.actionChunk[m]? = some action
  target : ∃ returns value, successToGoTargets config.gamma episode.success.flatten =
    .ok returns ∧ returns[window.2]? = some value ∧ row.target = .finite value
  features : episodeTaskFeatures torch config episode = .ok row.taskFeatures

/-! ## The rows of one episode -/

omit [Field K] [LinearOrder K] in
theorem le_of_mem_windowsOf {entry : Episode K × ℕ} {window : ℕ × ℕ}
    (h : window ∈ windowsOf config entry) :
    window.1 = entry.2 ∧ window.2 + config.actionHorizon.toNat ≤ size entry.1.action := by
  rw [windowsOf] at h
  split_ifs at h with hshort
  · simp at h
  · obtain ⟨j, hj, rfl⟩ := List.mem_map.mp h
    have hstart : j * config.stride.toNat ∈
        chunkStarts (size entry.1.action) config.actionHorizon.toNat config.stride.toNat :=
      List.mem_map.mpr ⟨j, hj, rfl⟩
    exact ⟨rfl, add_le_of_mem_chunkStarts (by omega) hstart⟩

omit [Field K] [LinearOrder K] in
private theorem exists_getElem? {α : Type} (xs : List α) {i : ℕ} (h : i < xs.length) :
    ∃ x, xs[i]? = some x := ⟨xs[i], List.getElem?_eq_getElem h⟩

variable {stateWidth actionWidth : ℕ} {featureShape : List ℕ}

theorem rowAt_chunkRow {episode : Episode K} {i start : ℕ} {states actions : Grid (PyFloat K)}
    {features : Option (Tensor (PyFloat K))} {returns : List K}
    (hstates : episode.obs.as2d config.obsKey = .ok states)
    (hactions : episode.action.as2d config.actionKey = .ok actions)
    (hfeatures : episodeTaskFeatures torch config episode = .ok features)
    (hreturns : successToGoTargets config.gamma episode.success.flatten = .ok returns)
    (hcount : states.rows.length = actions.rows.length)
    (hflags : states.rows.length = episode.success.flatten.length)
    (hhorizon : 1 ≤ config.actionHorizon)
    (hstart : start + config.actionHorizon.toNat ≤ actions.rows.length) :
    RowAt torch config episode
      (chunkRow config i states actions (returns.map PyFloat.finite) features start)
      (i, start) := by
  have hlt : start < states.rows.length := by omega
  have hreturnsLength := length_successToGoTargets hreturns
  constructor
  · rfl
  · rfl
  · refine ⟨states, hstates, ?_⟩
    simp [chunkRow, List.getD_eq_getElem?_getD, hlt]
  · simp only [chunkRow, List.length_take, List.length_drop]
    omega
  · refine ⟨actions, hactions, fun m hm => ?_⟩
    obtain ⟨action, haction⟩ := exists_getElem? actions.rows (i := start + m) (by omega)
    refine ⟨action, haction, ?_⟩
    simp [chunkRow, hm, haction]
  · obtain ⟨value, hvalue⟩ := exists_getElem? returns (i := start) (by omega)
    refine ⟨returns, value, hreturns, hvalue, ?_⟩
    simp [chunkRow, List.getD_eq_getElem?_getD, hvalue]
  · exact hfeatures

private theorem exists_successToGoTargets (h0 : 0 ≤ config.gamma) (h1 : config.gamma ≤ 1)
    (successes : List Bool) :
    ∃ returns, successToGoTargets config.gamma successes = .ok returns := by
  have hgamma : ¬(config.gamma < 0 ∨ 1 < config.gamma) := by simp [h0, h1]
  rw [successToGoTargets, if_neg hgamma]
  split
  · exact ⟨_, rfl⟩
  · exact ⟨_, rfl⟩

theorem exists_episodeRows (hmode : config.targetMode = .successToGo)
    (h0 : 0 ≤ config.gamma) (h1 : config.gamma ≤ 1) (hhorizon : 1 ≤ config.actionHorizon)
    {episode : Episode K}
    (h : WellFormed torch config stateWidth actionWidth featureShape episode) (i : ℕ)
    (retrieved : List K) :
    ∃ rows, episodeRows torch config i episode retrieved = .ok rows ∧
      List.Forall₂ (fun row window => window.1 = i ∧ RowAt torch config episode row window) rows
        (windowsOf config (episode, i)) := by
  obtain ⟨states, hstates, -⟩ := h.states
  obtain ⟨actions, hactions, -⟩ := h.actions
  obtain ⟨features, hfeatures, -⟩ := h.features
  have hstateCount := length_as2d hstates
  have hactionCount := length_as2d hactions
  have hcount : states.rows.length = actions.rows.length := by
    rw [hstateCount, hactionCount, h.stateCount]
  have hflags : states.rows.length = episode.success.flatten.length := by
    rw [hstateCount, h.flagCount]
  obtain ⟨returns, hreturns⟩ := exists_successToGoTargets h0 h1 episode.success.flatten
  have htargets : episodeTargets config episode retrieved returns =
      .ok (returns.map PyFloat.finite) := by
    rw [episodeTargets, hmode]
  have hchecked : ¬(states.rows.length ≠ actions.rows.length ∨
      states.rows.length ≠ episode.success.flatten.length) := by simp [← hcount, hflags]
  rw [episodeRows]
  simp only [hstates, hactions, hfeatures, hreturns, htargets, bind, Except.bind,
    if_neg hchecked]
  by_cases hshort : (actions.rows.length : ℤ) < config.actionHorizon
  · refine ⟨[], if_pos hshort, ?_⟩
    rw [windowsOf, if_pos (by rwa [hactionCount] at hshort)]
    exact .nil
  · refine ⟨_, if_neg hshort, ?_⟩
    rw [windowsOf, if_neg (by rwa [hactionCount] at hshort), chunkStarts, List.map_map,
      List.forall₂_map_left_iff, List.forall₂_map_right_iff, hactionCount, List.forall₂_same]
    intro j hj
    have hwindow : (i, j * config.stride.toNat) ∈ windowsOf config (episode, i) := by
      rw [windowsOf, if_neg (by rwa [hactionCount] at hshort)]
      exact List.mem_map.mpr ⟨j, hj, rfl⟩
    have hle := (le_of_mem_windowsOf hwindow).2
    rw [← hactionCount] at hle
    exact ⟨rfl,
      rowAt_chunkRow hstates hactions hfeatures hreturns hcount hflags hhorizon hle⟩

/-! ## The rows of all episodes -/

def Cut (torch : TensorOps K) (config : DatasetConfig K) (episodes : List (Episode K))
    (row : DatasetRow K) (window : ℕ × ℕ) : Prop :=
  ∃ episode, episodes[window.1]? = some episode ∧ RowAt torch config episode row window

private theorem exists_collectRows (hmode : config.targetMode = .successToGo)
    (h0 : 0 ≤ config.gamma) (h1 : config.gamma ≤ 1) (hhorizon : 1 ≤ config.actionHorizon)
    {episodes : List (Episode K)} {retrieved : List (List K)}
    (hlength : retrieved.length = episodes.length)
    (h : ∀ episode ∈ episodes,
      WellFormed torch config stateWidth actionWidth featureShape episode) :
    ∃ rows, collectRows torch config episodes retrieved = .ok rows ∧
      List.Forall₂ (Cut torch config episodes) rows (windows config episodes) := by
  have hparts : ∀ entry ∈ episodes.zipIdx.zip retrieved, ∃ rows,
      episodeRows torch config entry.1.2 entry.1.1 entry.2 = .ok rows ∧
        List.Forall₂ (Cut torch config episodes) rows (windowsOf config entry.1) := by
    intro entry hentry
    have hmem : entry.1 ∈ episodes.zipIdx := (List.of_mem_zip hentry).1
    have hepisode : episodes[entry.1.2]? = some entry.1.1 :=
      List.mem_zipIdx_iff_getElem?.mp hmem
    obtain ⟨rows, hrows, hwindows⟩ := exists_episodeRows hmode h0 h1 hhorizon
      (h entry.1.1 (List.mem_of_getElem? hepisode)) entry.1.2 entry.2
    refine ⟨rows, hrows, hwindows.imp fun row window hrow => ?_⟩
    exact ⟨entry.1.1, by rw [hrow.1, hepisode], hrow.2⟩
  obtain ⟨parts, hcollected, hwindows⟩ := exists_mapM hparts
  refine ⟨parts.flatten, ?_, ?_⟩
  · rw [collectRows, hcollected]
    rfl
  · have hfirst : (episodes.zipIdx.zip retrieved).map Prod.fst = episodes.zipIdx :=
      List.map_fst_zip (by simp [hlength])
    have hwindowsEq : windows config episodes = ((episodes.zipIdx.zip retrieved).map fun entry =>
        windowsOf config entry.1).flatten := by
      conv_lhs => rw [windows, ← hfirst, List.flatMap_map, List.flatMap_def]
    rw [hwindowsEq]
    apply List.rel_flatten
    rw [List.forall₂_map_right_iff]
    exact hwindows.flip

structure Shaped (config : DatasetConfig K) (stateWidth actionWidth : ℕ) (featureShape : List ℕ)
    (row : DatasetRow K) : Prop where
  state : row.obsFeatures.length = stateWidth
  chunk : [row.actionChunk.length, (row.actionChunk.headD []).length] =
    [config.actionHorizon.toNat, actionWidth]
  features : ∀ tensor ∈ row.taskFeatures, tensor.shape = featureShape

/-- The entries of a row of a well-formed episode have the expected widths. -/
theorem shaped_of_cut (hhorizon : 1 ≤ config.actionHorizon) {episodes : List (Episode K)}
    (h : ∀ episode ∈ episodes,
      WellFormed torch config stateWidth actionWidth featureShape episode)
    {row : DatasetRow K} {window : ℕ × ℕ} (hcut : Cut torch config episodes row window) :
    Shaped config stateWidth actionWidth featureShape row := by
  obtain ⟨episode, hepisode, hrow⟩ := hcut
  have hformed := h episode (List.mem_of_getElem? hepisode)
  constructor
  · obtain ⟨states, hstates, hstate⟩ := hrow.state
    obtain ⟨other, hother, hwidth⟩ := hformed.states
    obtain rfl := Except.ok.inj (hstates.symm.trans hother)
    rw [← hwidth]
    exact states.rectangular _ (List.mem_of_getElem? hstate)
  · obtain ⟨actions, hactions, hchunk⟩ := hrow.chunk
    obtain ⟨other, hother, hwidth⟩ := hformed.actions
    obtain rfl := Except.ok.inj (hactions.symm.trans hother)
    obtain ⟨action, haction, hfirst⟩ := hchunk 0 (by omega)
    have hhead : row.actionChunk.headD [] = action := by
      rw [List.headD_eq_head?_getD, List.head?_eq_getElem?, hfirst, Option.getD_some]
    rw [hhead, hrow.chunkLength, ← hwidth]
    rw [actions.rectangular _ (List.mem_of_getElem? haction)]
  · obtain ⟨features, hfeatures, hshape⟩ := hformed.features
    obtain rfl := Except.ok.inj (hrow.features.symm.trans hfeatures)
    exact hshape

private theorem stackRows_of_cut (hhorizon : 1 ≤ config.actionHorizon) {episodes : List (Episode K)}
    (h : ∀ episode ∈ episodes,
      WellFormed torch config stateWidth actionWidth featureShape episode)
    {retrieved : List (List K)} {rows : List (DatasetRow K)} (hne : rows ≠ [])
    (hcollected : collectRows torch config episodes retrieved = .ok rows)
    (hrows : ∀ row ∈ rows, ∃ window, Cut torch config episodes row window) :
    stackRows config rows = .ok () := by
  have hstack : ∀ (f : DatasetRow K → List ℕ) (shape : List ℕ),
      (∀ row ∈ rows, f row = shape) → stack (rows.map f) = .ok () := by
    intro f shape hshape
    have hsame : ∀ other ∈ rows.map f, other = shape := by
      intro other hother
      obtain ⟨row, hrow, rfl⟩ := List.mem_map.mp hother
      exact hshape row hrow
    exact stack_of_same (by simpa using hne) hsame
  have hshaped : ∀ row ∈ rows, Shaped config stateWidth actionWidth featureShape row := by
    intro row hrow
    obtain ⟨window, hcut⟩ := hrows row hrow
    exact shaped_of_cut hhorizon h hcut
  rw [stackRows, hstack _ [stateWidth] fun row hrow => by rw [(hshaped row hrow).state],
    hstack _ _ fun row hrow => (hshaped row hrow).chunk]
  by_cases hsource : config.taskFeatureSource ≠ .none
  · simp only [bind, Except.bind, if_pos hsource]
    refine hstack _ featureShape fun row hrow => ?_
    have hsome := isSome_taskFeatures hsource hcollected row hrow
    obtain ⟨tensor, htensor⟩ := Option.isSome_iff_exists.mp hsome
    rw [htensor]
    exact (hshaped row hrow).features tensor (by simp [htensor])
  · simp only [bind, Except.bind, if_neg hsource]
    rfl

theorem exists_rows (hmode : config.targetMode = .successToGo) (hcheck : config.check = .ok ())
    (h0 : 0 ≤ config.gamma) (h1 : config.gamma ≤ 1) {episodes : List (Episode K)}
    (h : ∀ episode ∈ episodes,
      WellFormed torch config stateWidth actionWidth featureShape episode)
    (hlong : ∃ episode ∈ episodes, config.actionHorizon ≤ size episode.action) :
    ∃ rows, buildActionChunkDataset torch config episodes = .ok rows ∧
      List.Forall₂ (Cut torch config episodes) rows (windows config episodes) := by
  have hhorizon := (one_le_of_check hcheck).1
  have hretrieved : retrievedFor torch config episodes = .ok (episodes.map fun _ => []) := by
    rw [retrievedFor, if_neg (by simp [hmode])]
  have hlength : (episodes.map fun _ => ([] : List K)).length = episodes.length :=
    List.length_map _
  obtain ⟨rows, hrows, hcut⟩ := exists_collectRows hmode h0 h1 hhorizon hlength h
  have hwindows : windows config episodes ≠ [] := by
    obtain ⟨episode, hepisode, hle⟩ := hlong
    obtain ⟨i, hi, rfl⟩ := List.mem_iff_getElem.mp hepisode
    have hmem : (i, 0) ∈ windows config episodes := by
      refine List.mem_flatMap.mpr ⟨(episodes[i], i), List.mem_zipIdx_iff_getElem?.mpr ?_, ?_⟩
      · exact List.getElem?_eq_getElem hi
      · rw [windowsOf, if_neg (not_lt.mpr hle)]
        exact List.mem_map.mpr ⟨0, by simp, by simp⟩
    exact List.ne_nil_of_mem hmem
  have hne : rows ≠ [] := by
    rintro rfl
    exact hwindows (List.forall₂_nil_left_iff.mp hcut)
  refine ⟨rows, ?_, hcut⟩
  have hstack := stackRows_of_cut hhorizon h hne hrows fun row hrow => by
    obtain ⟨p, hp, rfl⟩ := List.mem_iff_getElem.mp hrow
    exact ⟨_, hcut.get hp (hcut.length_eq ▸ hp)⟩
  rw [buildActionChunkDataset, hcheck, hretrieved]
  simp only [bind, Except.bind, hrows, hstack]
  cases rows with
  | nil => exact absurd rfl hne
  | cons row rows => rfl

/-! ## The columns -/

/-- The entries of the columns at a position are those of a window of an episode. -/
structure EntriesAt (torch : TensorOps K) (config : DatasetConfig K) (episode : Episode K)
    (dataset : Dataset K) (position : ℕ) (window : ℕ × ℕ) : Prop where
  state : ∃ states state, episode.obs.as2d config.obsKey = .ok states ∧
    states.rows[window.2]? = some state ∧ dataset.obsFeatures[position]? = some state
  chunk : ∃ actions chunk, episode.action.as2d config.actionKey = .ok actions ∧
    dataset.actionChunks[position]? = some chunk ∧
    chunk.length = config.actionHorizon.toNat ∧
    ∀ m < config.actionHorizon.toNat, ∃ action, actions.rows[window.2 + m]? = some action ∧
      chunk[m]? = some action
  target : ∃ returns value, successToGoTargets config.gamma episode.success.flatten =
      .ok returns ∧
    returns[window.2]? = some value ∧ dataset.targets[position]? = some (.finite value)
  features : ∀ column ∈ dataset.taskFeatures, ∃ tensor,
    episodeTaskFeatures torch config episode = .ok (some tensor) ∧
    column[position]? = some tensor

/-- All columns have one entry for every window, in order. -/
structure Complete (torch : TensorOps K) (config : DatasetConfig K) (episodes : List (Episode K))
    (dataset : Dataset K) : Prop where
  episodeIndices : dataset.episodeIndices = (windows config episodes).map Prod.fst
  frameIndices : dataset.frameIndices = (windows config episodes).map Prod.snd
  obsFeatures : dataset.obsFeatures.length = (windows config episodes).length
  actionChunks : dataset.actionChunks.length = (windows config episodes).length
  targets : dataset.targets.length = (windows config episodes).length
  taskFeatures : ∀ column ∈ dataset.taskFeatures,
    column.length = (windows config episodes).length
  entries : ∀ (position : ℕ) window, (windows config episodes)[position]? = some window →
    ∃ episode, episodes[window.1]? = some episode ∧
      EntriesAt torch config episode dataset position window

private theorem taskFeatures_datasetOf {episodes : List (Episode K)} {rows : List (DatasetRow K)}
    (h : List.Forall₂ (Cut torch config episodes) rows (windows config episodes))
    {column : List (Tensor (PyFloat K))}
    (hcolumn : column ∈ (datasetOf config rows).taskFeatures) :
    column.map some = rows.map DatasetRow.taskFeatures := by
  simp only [datasetOf] at hcolumn
  split_ifs at hcolumn with hsource
  · simp at hcolumn
  · obtain rfl := Option.some.inj hcolumn
    refine map_some_taskFeatures fun row hrow => ?_
    obtain ⟨p, hp, rfl⟩ := List.mem_iff_getElem.mp hrow
    obtain ⟨episode, -, hcut⟩ := h.get hp (h.length_eq ▸ hp)
    exact isSome_episodeTaskFeatures hsource hcut.features

private theorem map_rows_of_cut {episodes : List (Episode K)} {rows : List (DatasetRow K)}
    (h : List.Forall₂ (Cut torch config episodes) rows (windows config episodes))
    {f : DatasetRow K → ℕ} {g : ℕ × ℕ → ℕ}
    (heq : ∀ row window, Cut torch config episodes row window → f row = g window) :
    rows.map f = (windows config episodes).map g := by
  rw [← List.forall₂_eq_eq_eq, List.forall₂_map_left_iff, List.forall₂_map_right_iff]
  exact h.imp heq

theorem entriesAt_datasetOf {rows : List (DatasetRow K)} {episode : Episode K} {window : ℕ × ℕ}
    {position : ℕ} (hlt : position < rows.length)
    (hrow : RowAt torch config episode rows[position] window)
    (hcolumns : ∀ column ∈ (datasetOf config rows).taskFeatures,
      column.map some = rows.map DatasetRow.taskFeatures) :
    EntriesAt torch config episode (datasetOf config rows) position window := by
  constructor
  · obtain ⟨states, hstates, hstate⟩ := hrow.state
    exact ⟨states, _, hstates, hstate, by simp [datasetOf, hlt]⟩
  · obtain ⟨actions, hactions, hchunk⟩ := hrow.chunk
    exact ⟨actions, _, hactions, by simp [datasetOf, hlt], hrow.chunkLength, hchunk⟩
  · obtain ⟨returns, value, hreturns, hvalue, htarget⟩ := hrow.target
    exact ⟨returns, value, hreturns, hvalue, by simp [datasetOf, hlt, htarget]⟩
  · intro column hmem
    have hentry := congrArg (·[position]?) (hcolumns column hmem)
    simp only [List.getElem?_map, List.getElem?_eq_getElem hlt, Option.map_some] at hentry
    obtain ⟨tensor, htensor, hsome⟩ := Option.map_eq_some_iff.mp hentry
    exact ⟨tensor, by rw [hrow.features, hsome], htensor⟩

theorem complete_datasetOf {episodes : List (Episode K)} {rows : List (DatasetRow K)}
    (h : List.Forall₂ (Cut torch config episodes) rows (windows config episodes)) :
    Complete torch config episodes (datasetOf config rows) := by
  constructor
  · refine map_rows_of_cut h fun row window hcut => ?_
    obtain ⟨episode, -, hrow⟩ := hcut
    exact hrow.episodeIndex
  · refine map_rows_of_cut h fun row window hcut => ?_
    obtain ⟨episode, -, hrow⟩ := hcut
    exact hrow.frameIndex
  · simp [datasetOf, h.length_eq]
  · simp [datasetOf, h.length_eq]
  · simp [datasetOf, h.length_eq]
  · intro column hmem
    have hlength := congrArg List.length (taskFeatures_datasetOf h hmem)
    simpa [h.length_eq] using hlength
  · intro position window hwindow
    obtain ⟨hlt, rfl⟩ := List.getElem?_eq_some_iff.mp hwindow
    have hlt' : position < rows.length := h.length_eq ▸ hlt
    obtain ⟨episode, hepisode, hrow⟩ := h.get hlt' hlt
    exact ⟨episode, hepisode,
      entriesAt_datasetOf hlt' hrow fun column hmem => taskFeatures_datasetOf h hmem⟩

/-- Every window of every well-formed episode has its row, and every row is one of them. -/
theorem chunk_windows_complete (hmode : config.targetMode = .successToGo)
    (hcheck : config.check = .ok ()) (h0 : 0 ≤ config.gamma) (h1 : config.gamma ≤ 1)
    {episodes : List (Episode K)}
    (h : ∀ episode ∈ episodes,
      WellFormed torch config stateWidth actionWidth featureShape episode)
    (hlong : ∃ episode ∈ episodes, config.actionHorizon ≤ size episode.action) :
    ∃ dataset, buildDataset torch config episodes = .ok dataset ∧
      Complete torch config episodes dataset := by
  obtain ⟨rows, hrows, hcut⟩ := exists_rows hmode hcheck h0 h1 h hlong
  refine ⟨datasetOf config rows, ?_, complete_datasetOf hcut⟩
  rw [buildDataset_eq, hrows]
  rfl

/-- Two windows of an episode of three steps, and none of an episode of one step. -/
theorem three_steps_and_one :
    ∃ dataset, buildDataset RetrievalLeak.oneAxis (RetrievalLeak.defaultConfig .successToGo)
        [RetrievalLeak.steadyEpisode 3 true, RetrievalLeak.steadyEpisode 1 false] = .ok dataset ∧
      Complete RetrievalLeak.oneAxis (RetrievalLeak.defaultConfig .successToGo)
        [RetrievalLeak.steadyEpisode 3 true, RetrievalLeak.steadyEpisode 1 false] dataset := by
  have haccepted := RetrievalLeak.accepted_defaultConfig .successToGo
  have hformed : ∀ episode ∈ [RetrievalLeak.steadyEpisode 3 true,
      RetrievalLeak.steadyEpisode 1 false], WellFormed RetrievalLeak.oneAxis
        (RetrievalLeak.defaultConfig .successToGo) 1 1 [] episode := by
    intro episode hepisode
    have hsteady : ∃ n success, episode = RetrievalLeak.steadyEpisode n success := by
      rcases List.mem_cons.mp hepisode with rfl | hepisode
      · exact ⟨3, true, rfl⟩
      · exact ⟨1, false, List.mem_singleton.mp hepisode⟩
    obtain ⟨n, success, rfl⟩ := hsteady
    exact ⟨⟨_, rfl, rfl⟩, ⟨_, rfl, rfl⟩, rfl,
      by simp [RetrievalLeak.steadyEpisode, size, Tensor.flatten], ⟨none, rfl, by simp⟩⟩
  exact chunk_windows_complete rfl haccepted.check haccepted.gamma.1 haccepted.gamma.2 hformed
    ⟨_, List.mem_cons_self,
      by simp [RetrievalLeak.defaultConfig, RetrievalLeak.steadyEpisode, size]⟩

end SmolVlaQgf.ChunkWindows
