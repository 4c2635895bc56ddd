import SmolVlaQgf.ChunkWindows
import SmolVlaQgf.CollectedRollouts
import SmolVlaQgf.DiscoveredEpisodes
import SmolVlaQgf.SuccessToGo

/-!
# The dataset of a collection

A trainer discovers the files of a collection, loads them in the order of their names and cuts
them into action chunks. Its rows are the windows of the runs of the policy, in the order in which
they were collected.
-/

namespace SmolVlaQgf.CollectedDataset
open ChunkWindows CollectedRollouts CriticDataset CriticTargets DecimalText DiscoveredEpisodes
open EpisodeDataset ExactFloats FallibleTraversals FieldText FileTrees OrderedTables
open RolloutCollection StepInfos SuccessToGo Tensors

variable {K W O E B : Type}

/-! ## Loading -/

/-- `discover_episode_files` of a directory. -/
def discovered (tree : FileTree Text (Stored K)) (dataDir : List Text) : List Path :=
  discoverEpisodeFiles ((tree.below dataDir).map Prod.fst)

/-- `torch.load` of a file that the collector has written. -/
def loadEpisode (tree : FileTree Text (Stored K)) (path : Path) : Option (CollectedEpisode K) :=
  match tree.node path with
  | some (.file (.episode episode)) => some episode
  | _ => none

/-- `load_episode_files` -/
def loadEpisodeFiles (tree : FileTree Text (Stored K)) (paths : List Path) :
    Option (List (CollectedEpisode K)) :=
  paths.mapM (loadEpisode tree)

def entry (episode : CollectedEpisode K) : String → Option (Tensor (PyFloat K))
  | "state" => some episode.state
  | "action_policy" => some episode.actionPolicy
  | "action_env" => some episode.actionEnv
  | "reward" => some (.vector episode.reward)
  | _ => none

/-- What the dataset reads of an episode; the keys of the state and the action have to exist. -/
def readEpisode (config : DatasetConfig K) (episode : CollectedEpisode K) : Option (Episode K) := do
  let obs ← entry episode config.obsKey
  let action ← entry episode config.actionKey
  return {
    obs, action
    success := .vector episode.success
    progress := entry episode config.progressKey
    taskKey := ⟨some episode.taskGroup, some episode.taskId, some episode.task⟩
    taskTokens := episode.taskTokens.tokens
    taskAttentionMask := episode.taskTokens.attentionMask
    taskFeatures := entry episode config.taskFeatureKey }

/-! ## The names of the files -/

private theorem append_lt_append_of_length {a b : Text} (hlength : a.length = b.length) (h : a < b)
    (s t : Text) : a ++ s < b ++ t := by
  induction a generalizing b with
  | nil =>
    obtain rfl := List.length_eq_zero_iff.mp hlength.symm
    exact absurd h (List.lt_irrefl _)
  | cons c a ih =>
    cases b with
    | nil => simp at hlength
    | cons d b =>
      rw [List.cons_append, List.cons_append, List.cons_lt_cons_iff]
      rcases List.cons_lt_cons_iff.mp h with hlt | ⟨rfl, hrest⟩
      · exact Or.inl hlt
      · exact Or.inr ⟨rfl, ih (by simpa using hlength) hrest⟩

private theorem episodeFile_lt {m n : ℕ} (hmn : m < n) (hn : n < 10 ^ 6) :
    episodeFile m < episodeFile n := by
  have hm : m < 10 ^ 6 := hmn.trans hn
  have hpadded : paddedDecimal 6 m < paddedDecimal 6 n := by
    rw [paddedDecimal_lt_iff, Nat.mod_eq_of_lt hm, Nat.mod_eq_of_lt hn]
    exact hmn
  rw [episodeFile, episodeFile, zeroFilled, zeroFilled, if_pos hm, if_pos hn]
  exact List.append_left_lt (append_lt_append_of_length (by simp) hpadded _ _)

private theorem pathText_concat (dir : Path) (hdir : dir ≠ []) (name : Text) :
    pathText (dir ++ [name]) = pathText dir ++ '/' :: name := by
  induction dir with
  | nil => exact absurd rfl hdir
  | cons first rest ih =>
    cases rest with
    | nil => simp [pathText, List.intercalate]
    | cons second rest =>
      have hrest := ih (by simp)
      rw [pathText, pathText, List.cons_append, List.cons_append] at *
      rw [List.intercalate_cons_cons, List.intercalate_cons_cons]
      simpa using hrest

private theorem pathText_episodePath_lt (args : CollectArgs) {m n : ℕ} (hmn : m < n)
    (hn : n < 10 ^ 6) :
    pathText (args.episodePath m) < pathText (args.episodePath n) := by
  have hdir : args.episodesDir ≠ [] := by simp [CollectArgs.episodesDir]
  rw [CollectArgs.episodePath, CollectArgs.episodePath, pathText_concat _ hdir,
    pathText_concat _ hdir]
  apply List.append_left_lt
  rw [List.cons_lt_cons_iff]
  exact Or.inr ⟨rfl, episodeFile_lt hmn hn⟩

private theorem isEpisodeTensor_episodeFile (index : ℕ) :
    isEpisodeTensor (episodeFile index) = true := by
  rw [episodeFile, isEpisodeTensor, suffix?_append, Option.any_some, List.isSuffixOf_iff_suffix]
  exact List.suffix_append _ _

private theorem isTransitionTable_episodeFile (index : ℕ) :
    isTransitionTable (episodeFile index) = false := by
  rw [isTransitionTable, beq_eq_false_iff_ne]
  intro hname
  have hhead : some 'e' = some 't' := congrArg List.head? hname
  exact absurd hhead (by decide)

private theorem episodePath_injOn (args : CollectArgs) {m n : ℕ} (hm : m < 10 ^ 6) (hn : n < 10 ^ 6)
    (h : args.episodePath m = args.episodePath n) : m = n := by
  rcases lt_trichotomy m n with hlt | heq | hgt
  · have hless := pathText_episodePath_lt args hlt hn
    rw [h] at hless
    exact absurd hless (List.lt_irrefl _)
  · exact heq
  · have hless := pathText_episodePath_lt args hgt hm
    rw [h] at hless
    exact absurd hless (List.lt_irrefl _)

private theorem below_episodePath (args : CollectArgs) (index : ℕ) :
    Below args.outputDir (args.episodePath index) := by
  refine ⟨?_, ?_⟩
  · rw [CollectArgs.episodePath, CollectArgs.episodesDir, List.append_assoc]
    exact List.prefix_append _ _
  · intro h
    have hlength := congrArg List.length h
    simp [CollectArgs.episodePath, CollectArgs.episodesDir] at hlength

/-! ## Discovery -/

section Discovery

variable {tree base : FileTree Text (Stored K)} {args : CollectArgs} {dataDir : List Text}
  {saved : List (CollectedEpisode K)}

/-- Nothing is discovered exactly if no name below the directory matches. -/
theorem discovered_eq_nil_iff : discovered tree dataDir = [] ↔
    ∀ path, Below dataDir path → tree.node path ≠ none →
      path.getLast?.any isEpisodeTensor = false ∧ path.getLast?.any isTransitionTable = false := by
  have hnil : discovered tree dataDir = [] ↔
      rglob isEpisodeTensor ((tree.below dataDir).map Prod.fst) = [] ∧
        rglob isTransitionTable ((tree.below dataDir).map Prod.fst) = [] := by
    rw [discovered, discoverEpisodeFiles, ← List.append_eq_nil_iff,
      ← List.length_eq_zero_iff, List.length_mergeSort, List.length_eq_zero_iff]
  rw [hnil, rglob, rglob, List.filter_eq_nil_iff, List.filter_eq_nil_iff]
  constructor
  · rintro ⟨htensor, htable⟩ path hbelow hnode
    have hpath := FileTree.mem_keys_below.mpr ⟨hbelow, hnode⟩
    exact ⟨Bool.eq_false_iff.mpr (htensor path hpath), Bool.eq_false_iff.mpr (htable path hpath)⟩
  · intro h
    refine ⟨fun path hpath => ?_, fun path hpath => ?_⟩
    · obtain ⟨hbelow, hnode⟩ := FileTree.mem_keys_below.mp hpath
      exact Bool.eq_false_iff.mp (h path hbelow hnode).1
    · obtain ⟨hbelow, hnode⟩ := FileTree.mem_keys_below.mp hpath
      exact Bool.eq_false_iff.mp (h path hbelow hnode).2

/-- The directories that the collector makes match no pattern. -/
theorem discovered_mkdirs (h : discovered tree args.outputDir = [])
    (hmade : FileTree.mkdirs args.episodesDir tree = .ok base) :
    discovered base args.outputDir = [] := by
  rw [discovered_eq_nil_iff] at h ⊢
  intro path hbelow hnode
  rcases FileTree.addsDirectories_of_mkdirs hmade path with hsame | ⟨hinitial, -, -⟩
  · exact h path hbelow (hsame ▸ hnode)
  · obtain ⟨rest, rfl⟩ := hbelow.1
    rw [CollectArgs.episodesDir, List.prefix_append_right_inj] at hinitial
    rcases List.prefix_cons_iff.mp hinitial with rfl | ⟨after, rfl, hafter⟩
    · exact absurd (List.append_nil _) hbelow.2
    · obtain rfl := List.prefix_nil.mp hafter
      rw [List.getLast?_concat]
      decide

private theorem keys_savedEntries (args : CollectArgs) (saved : List (CollectedEpisode K)) :
    (savedEntries args saved).map Prod.fst = (List.range saved.length).map args.episodePath := by
  have hindices : saved.zipIdx.map Prod.snd = List.range saved.length := by
    rw [List.zipIdx_map_snd, List.range_eq_range']
  rw [savedEntries, ← hindices, List.map_map, List.map_map]
  rfl

private theorem nodup_savedEntries (hcount : saved.length ≤ 10 ^ 6) :
    ((savedEntries args saved).map Prod.fst).Nodup := by
  rw [keys_savedEntries]
  refine List.Nodup.map_on (fun m hm n hn h => ?_) List.nodup_range
  rw [List.mem_range] at hm hn
  exact episodePath_injOn args (by omega) (by omega) h

/-- A trainer finds the files of a collection in the order of the collection. -/
theorem discovered_putAll (hclean : discovered base args.outputDir = [])
    (hcount : saved.length ≤ 10 ^ 6) :
    discovered (base.putAll (savedEntries args saved)) args.outputDir =
      (List.range saved.length).map args.episodePath := by
  have hkeys : ∀ path ∈ (savedEntries args saved).map Prod.fst,
      ∃ index < saved.length, path = args.episodePath index := by
    intro path hpath
    rw [keys_savedEntries] at hpath
    obtain ⟨index, hindex, rfl⟩ := List.mem_map.mp hpath
    exact ⟨index, List.mem_range.mp hindex, rfl⟩
  have hnew : ∀ path ∈ (base.below args.outputDir).map Prod.fst,
      ∀ other ∈ (savedEntries args saved).map Prod.fst, path ≠ other := by
    rintro path hpath other hother rfl
    obtain ⟨index, -, rfl⟩ := hkeys path hother
    obtain ⟨hbelow, hnode⟩ := FileTree.mem_keys_below.mp hpath
    have hnot := (discovered_eq_nil_iff.mp hclean _ hbelow hnode).1
    rw [CollectArgs.episodePath, List.getLast?_concat, Option.any_some,
      isEpisodeTensor_episodeFile] at hnot
    cases hnot
  have hbelow : (base.putAll (savedEntries args saved)).below args.outputDir =
      base.below args.outputDir ++ savedEntries args saved := by
    rw [FileTree.below_putAll, foldl_assign_of_nodup]
    · rw [List.map_append, List.nodup_append]
      exact ⟨FileTree.nodup_below _ _, nodup_savedEntries hcount, hnew⟩
    · intro entry hentry
      obtain ⟨index, -, hpath⟩ := hkeys entry.1 (List.mem_map_of_mem hentry)
      rw [hpath]
      exact below_episodePath args index
  have hold := discovered_eq_nil_iff.mp hclean
  rw [discovered, hbelow, List.map_append, discoverEpisodeFiles, rglob_append, rglob_append,
    keys_savedEntries]
  have htensors : rglob isEpisodeTensor ((base.below args.outputDir).map Prod.fst) = [] := by
    refine List.filter_eq_nil_iff.mpr fun path hpath => ?_
    obtain ⟨hbelow, hnode⟩ := FileTree.mem_keys_below.mp hpath
    exact Bool.eq_false_iff.mp (hold path hbelow hnode).1
  have htables : rglob isTransitionTable ((base.below args.outputDir).map Prod.fst) = [] := by
    refine List.filter_eq_nil_iff.mpr fun path hpath => ?_
    obtain ⟨hbelow, hnode⟩ := FileTree.mem_keys_below.mp hpath
    exact Bool.eq_false_iff.mp (hold path hbelow hnode).2
  have hfound : rglob isEpisodeTensor ((List.range saved.length).map args.episodePath) =
      (List.range saved.length).map args.episodePath := by
    refine List.filter_eq_self.mpr fun path hpath => ?_
    obtain ⟨index, -, rfl⟩ := List.mem_map.mp hpath
    rw [CollectArgs.episodePath, List.getLast?_concat]
    exact isEpisodeTensor_episodeFile index
  have hnone : rglob isTransitionTable ((List.range saved.length).map args.episodePath) = [] := by
    refine List.filter_eq_nil_iff.mpr fun path hpath => ?_
    obtain ⟨index, -, rfl⟩ := List.mem_map.mp hpath
    rw [CollectArgs.episodePath, List.getLast?_concat, Option.any_some,
      isTransitionTable_episodeFile]
    exact Bool.false_ne_true
  rw [htensors, htables, hfound, hnone, List.nil_append, List.nil_append, List.append_nil]
  apply List.mergeSort_of_pairwise
  rw [List.pairwise_map]
  refine List.Pairwise.imp_of_mem (fun {m n} _ hn hmn => ?_) List.pairwise_lt_range
  rw [List.mem_range] at hn
  exact decide_eq_true (le_of_lt (pathText_episodePath_lt args hmn (by omega)))

private theorem loadEpisodeFiles_putAll (hcount : saved.length ≤ 10 ^ 6) :
    loadEpisodeFiles (base.putAll (savedEntries args saved))
      ((List.range saved.length).map args.episodePath) = some saved := by
  apply mapM_eq_some
  apply List.ext_getElem
  · simp
  · intro index hindex _
    have hlt : index < saved.length := by simpa using hindex
    have hmem : (args.episodePath index, Node.file (Stored.episode saved[index])) ∈
        savedEntries args saved :=
      List.mem_map.mpr ⟨(saved[index], index), List.mem_zipIdx_iff_getElem?.mpr
        (List.getElem?_eq_getElem hlt), rfl⟩
    simp [loadEpisode, FileTree.node_putAll_of_mem (nodup_savedEntries hcount) hmem]

end Discovery

/-! ## Vectors -/

/-- The states and the actions of a batch are vectors of fixed widths. -/
structure Documented (simulator : Simulator K W O E B) (stateWidth actionWidth : ℕ) : Prop where
  state : ∀ batch states, simulator.state batch = some states →
    ∀ state ∈ states, ∃ values, state = .vector values ∧ values.length = stateWidth
  action : ∀ batch world actions world',
    simulator.selectAction batch world = .ok (actions, world') →
      ∀ action ∈ actions, ∃ values, action = .vector values ∧ values.length = actionWidth

section Vectors

variable {simulator : Simulator K W O E B} {env : E} {s t : Recording K W O}
  {records : List (StepRecord K)} {stateWidth actionWidth : ℕ}

/-- A step records the state that the policy has seen and an action that it has selected. -/
theorem performStep_spec {p : Performed K W O} (h : performStep simulator env s = .ok p) :
    ∃ batch states actions world, simulator.state batch = some states ∧
      p.record.state ∈ states ∧ simulator.selectAction batch s.world = .ok (actions, world) ∧
      p.record.policyAction ∈ actions := by
  obtain ⟨descriptions, -, h⟩ := bind_eq_ok_iff.mp h
  obtain ⟨batch, -, h⟩ := bind_eq_ok_iff.mp h
  obtain ⟨states, hstates, h⟩ := bind_eq_ok_iff.mp h
  obtain ⟨state, hstate, h⟩ := bind_eq_ok_iff.mp h
  obtain ⟨task, -, h⟩ := bind_eq_ok_iff.mp h
  obtain ⟨⟨actions, world⟩, hactions, h⟩ := bind_eq_ok_iff.mp h
  obtain ⟨envActions, -, h⟩ := bind_eq_ok_iff.mp h
  obtain ⟨⟨result, world'⟩, -, h⟩ := bind_eq_ok_iff.mp h
  obtain ⟨stepSuccesses, -, h⟩ := bind_eq_ok_iff.mp h
  obtain ⟨taskDesc, -, h⟩ := bind_eq_ok_iff.mp h
  obtain ⟨policyAction, hpolicy, h⟩ := bind_eq_ok_iff.mp h
  obtain ⟨envAction, -, h⟩ := bind_eq_ok_iff.mp h
  obtain ⟨success, -, h⟩ := bind_eq_ok_iff.mp h
  cases h
  refine ⟨batch, states, actions, world, ?_, mem_of_firstEntry hstate, hactions,
    mem_of_firstEntry hpolicy⟩
  cases hfound : simulator.state batch with
  | none =>
    rw [hfound] at hstates
    cases hstates
  | some found =>
    rw [hfound] at hstates
    exact congrArg some (Except.ok.inj hstates)

theorem vectors_of_trajectory (hdocumented : Documented simulator stateWidth actionWidth)
    (h : Trajectory simulator env s records t) {record : StepRecord K}
    (hrecord : record ∈ records) :
    (∃ values, record.state = .vector values ∧ values.length = stateWidth) ∧
      ∃ values, record.policyAction = .vector values ∧ values.length = actionWidth := by
  induction h with
  | nil => simp at hrecord
  | cons hstep _ ih =>
    rcases List.mem_cons.mp hrecord with rfl | hrecord
    · obtain ⟨batch, states, actions, world, hstates, hstate, hactions, haction⟩ :=
        performStep_spec hstep
      exact ⟨hdocumented.state batch states hstates _ hstate,
        hdocumented.action batch _ actions world hactions _ haction⟩
    · exact ih hrecord

theorem stackTensors_vectors {S : Type} {tensors : List (Tensor S)} {tensor : Tensor S} {width : ℕ}
    (hvectors : ∀ tensor ∈ tensors, ∃ values, tensor = .vector values ∧ values.length = width)
    (h : stackTensors tensors = .ok tensor) :
    ∃ grid, tensor = .matrix grid ∧ grid.rows.map .vector = tensors ∧ grid.width = width := by
  obtain ⟨_, hstack, h⟩ := bind_eq_ok_iff.mp h
  have hrows : tensors.map vector? = (tensors.map Tensor.flatten).map some := by
    rw [List.map_map]
    refine List.map_congr_left fun tensor htensor => ?_
    obtain ⟨values, rfl, -⟩ := hvectors tensor htensor
    rfl
  have hflat : (tensors.map Tensor.flatten).map Tensor.vector = tensors := by
    rw [List.map_map]
    refine (List.map_congr_left fun tensor htensor => ?_).trans (List.map_id _)
    obtain ⟨values, rfl, -⟩ := hvectors tensor htensor
    rfl
  have hvectors? : vectors? tensors = some (tensors.map Tensor.flatten) := mapM_eq_some hrows
  rw [hvectors?] at h
  dsimp only at h
  split_ifs at h with hwidth
  cases h
  refine ⟨_, rfl, hflat, ?_⟩
  cases tensors with
  | nil => cases hstack
  | cons first rest =>
    obtain ⟨values, rfl, hlength⟩ := hvectors first List.mem_cons_self
    exact hlength

end Vectors

/-! ## Rows -/

section Rows

variable [Field K] [LinearOrder K] {torch : TensorOps K} {config : DatasetConfig K}
  {simulator : Simulator K W O E B} {stateWidth actionWidth : ℕ} {args : CollectArgs}

/-- The arguments with which `train_critic.py` reads a collection by default. -/
structure ReadsCollection (config : DatasetConfig K) : Prop where
  check : config.check = .ok ()
  obsKey : config.obsKey = "state"
  actionKey : config.actionKey = "action_policy"
  targetMode : config.targetMode = .successToGo
  taskFeatureSource : config.taskFeatureSource = .none
  gamma : 0 ≤ config.gamma ∧ config.gamma ≤ 1

def runWindows (config : DatasetConfig K) (runs : List (List (StepRecord K))) : List (ℕ × ℕ) :=
  runs.zipIdx.flatMap fun run =>
    if (run.1.length : ℤ) < config.actionHorizon then []
    else (List.range ((run.1.length - config.actionHorizon.toNat) / config.stride.toNat + 1)).map
      fun j => (run.2, j * config.stride.toNat)

/-- The row of a window of a run: the state of its first step, the actions of the policy from there
on, and the discount of the distance to the first success. -/
structure RowOfRun (config : DatasetConfig K) (records : List (StepRecord K))
    (row : DatasetRow K) (start : ℕ) : Prop where
  frameIndex : row.frameIndex = start
  state : (records[start]?).map StepRecord.state = some (.vector row.obsFeatures)
  chunkLength : row.actionChunk.length = config.actionHorizon.toNat
  chunk : ∀ m < config.actionHorizon.toNat, (records[start + m]?).map StepRecord.policyAction =
    (row.actionChunk[m]?).map .vector
  success : ∀ first, FirstSuccess (records.map StepRecord.success) first →
    row.target = .finite (config.gamma ^ (first - start))
  failure : (∀ record ∈ records, record.success = false) → row.target = .finite 0

structure ReadsRun (config : DatasetConfig K) (stateWidth actionWidth : ℕ)
    (records : List (StepRecord K)) (episode : Episode K) : Prop where
  obs : ∃ grid, episode.obs = .matrix grid ∧ grid.width = stateWidth ∧
    grid.rows.map Tensor.vector = records.map StepRecord.state
  action : ∃ grid, episode.action = .matrix grid ∧ grid.width = actionWidth ∧
    grid.rows.map Tensor.vector = records.map StepRecord.policyAction
  success : episode.success = .vector (records.map StepRecord.success)

omit [Field K] [LinearOrder K] in
theorem ReadsRun.size_obs {records : List (StepRecord K)} {episode : Episode K}
    (h : ReadsRun config stateWidth actionWidth records episode) :
    ValidationIsolation.size episode.obs = records.length := by
  obtain ⟨grid, hobs, -, hrows⟩ := h.obs
  rw [hobs]
  simpa [ValidationIsolation.size] using congrArg List.length hrows

omit [Field K] [LinearOrder K] in
theorem ReadsRun.size_action {records : List (StepRecord K)} {episode : Episode K}
    (h : ReadsRun config stateWidth actionWidth records episode) :
    ValidationIsolation.size episode.action = records.length := by
  obtain ⟨grid, haction, -, hrows⟩ := h.action
  rw [haction]
  simpa [ValidationIsolation.size] using congrArg List.length hrows

omit [Field K] [LinearOrder K] in
theorem readEpisode_of_holds
    (hconfig : config.obsKey = "state" ∧ config.actionKey = "action_policy")
    (hdocumented : Documented simulator stateWidth actionWidth) {job : Job E} {seed : ℤ}
    {records : List (StepRecord K)} {episode : CollectedEpisode K}
    (hrollout : IsRollout simulator job seed records) (hholds : Holds job seed records episode) :
    ∃ read, readEpisode config episode = some read ∧
      ReadsRun config stateWidth actionWidth records read := by
  obtain ⟨world, start, finish, -, htrajectory, -⟩ := hrollout
  have hread : readEpisode config episode = some {
      obs := episode.state
      action := episode.actionPolicy
      success := .vector episode.success
      progress := entry episode config.progressKey
      taskKey := ⟨some episode.taskGroup, some episode.taskId, some episode.task⟩
      taskTokens := episode.taskTokens.tokens
      taskAttentionMask := episode.taskTokens.attentionMask
      taskFeatures := entry episode config.taskFeatureKey } := by
    rw [readEpisode, hconfig.1, hconfig.2]
    rfl
  refine ⟨_, hread, ?_, ?_, congrArg Tensor.vector hholds.success⟩
  · obtain ⟨grid, hgrid, hrows, hwidth⟩ := stackTensors_vectors (fun tensor htensor => by
      obtain ⟨record, hrecord, rfl⟩ := List.mem_map.mp htensor
      exact (vectors_of_trajectory hdocumented htrajectory hrecord).1) hholds.state
    exact ⟨grid, hgrid, hwidth, hrows⟩
  · obtain ⟨grid, hgrid, hrows, hwidth⟩ := stackTensors_vectors (fun tensor htensor => by
      obtain ⟨record, hrecord, rfl⟩ := List.mem_map.mp htensor
      exact (vectors_of_trajectory hdocumented htrajectory hrecord).2) hholds.actionPolicy
    exact ⟨grid, hgrid, hwidth, hrows⟩

theorem ReadsRun.wellFormed (hsource : config.taskFeatureSource = .none)
    {records : List (StepRecord K)} {episode : Episode K}
    (h : ReadsRun config stateWidth actionWidth records episode) :
    WellFormed torch config stateWidth actionWidth [] episode where
  states := by
    obtain ⟨grid, hobs, hwidth, -⟩ := h.obs
    exact ⟨grid, by rw [hobs]; rfl, hwidth⟩
  actions := by
    obtain ⟨grid, haction, hwidth, -⟩ := h.action
    exact ⟨grid, by rw [haction]; rfl, hwidth⟩
  stateCount := h.size_obs.trans h.size_action.symm
  flagCount := by
    rw [h.size_obs, h.success]
    simp [Tensor.flatten]
  features := by
    refine ⟨none, ?_, by simp⟩
    rw [episodeTaskFeatures, hsource]

theorem ReadsRun.rowOfRun (hgamma : 0 ≤ config.gamma ∧ config.gamma ≤ 1)
    {records : List (StepRecord K)} {episode : Episode K}
    (h : ReadsRun config stateWidth actionWidth records episode) {row : DatasetRow K}
    {window : ℕ × ℕ} (hrow : RowAt torch config episode row window) :
    RowOfRun config records row window.2 := by
  have hflags : episode.success.flatten = records.map StepRecord.success := by
    rw [h.success]
    rfl
  constructor
  · exact hrow.frameIndex
  · obtain ⟨grid, hobs, -, hrows⟩ := h.obs
    obtain ⟨states, hstates, hstate⟩ := hrow.state
    rw [hobs] at hstates
    obtain rfl : grid = states := Except.ok.inj hstates
    rw [← List.getElem?_map, ← hrows, List.getElem?_map, hstate]
    rfl
  · exact hrow.chunkLength
  · obtain ⟨grid, haction, -, hrows⟩ := h.action
    obtain ⟨actions, hactions, hchunk⟩ := hrow.chunk
    rw [haction] at hactions
    obtain rfl : grid = actions := Except.ok.inj hactions
    intro m hm
    obtain ⟨action, hentry, hrowEntry⟩ := hchunk m hm
    rw [← List.getElem?_map, ← hrows, List.getElem?_map, hentry, hrowEntry]
  · intro first hfirst
    obtain ⟨returns, value, hreturns, hvalue, htarget⟩ := hrow.target
    rw [hflags, successToGoTargets_of_first hgamma.1 hgamma.2 hfirst] at hreturns
    obtain rfl := Except.ok.inj hreturns
    rw [htarget]
    obtain ⟨hlt, hget⟩ := List.getElem?_eq_some_iff.mp hvalue
    simp only [List.getElem_map, List.getElem_range] at hget
    rw [hget]
  · intro hfailed
    obtain ⟨returns, value, hreturns, hvalue, htarget⟩ := hrow.target
    rw [hflags, successToGoTargets_of_none hgamma.1 hgamma.2 (by simpa using hfailed)] at hreturns
    obtain rfl := Except.ok.inj hreturns
    rw [htarget]
    obtain ⟨hlt, hget⟩ := List.getElem?_eq_some_iff.mp hvalue
    simp only [List.getElem_map] at hget
    rw [hget]

omit [Field K] [LinearOrder K] in
private theorem windows_eq_runWindows {runs : List (List (StepRecord K))}
    {episodes : List (Episode K)}
    (h : List.Forall₂ (ReadsRun config stateWidth actionWidth) runs episodes) :
    windows config episodes = runWindows config runs := by
  have hindexed : ∀ start, List.Forall₂ (fun run entry => run.2 = entry.2 ∧
      run.1.length = ValidationIsolation.size entry.1.action) (runs.zipIdx start)
        (episodes.zipIdx start) := by
    induction h with
    | nil => exact fun start => .nil
    | cons hfirst _ ih => exact fun start => .cons ⟨rfl, hfirst.size_action.symm⟩ (ih (start + 1))
  rw [windows, runWindows, List.flatMap_def, List.flatMap_def]
  congr 1
  rw [← List.forall₂_eq_eq_eq, List.forall₂_map_left_iff, List.forall₂_map_right_iff]
  refine (hindexed 0).flip.imp fun entry run hrun => ?_
  rw [windowsOf, hrun.1, hrun.2]

def CutFromRuns (config : DatasetConfig K) (runs : List (List (StepRecord K)))
    (row : DatasetRow K) (window : ℕ × ℕ) : Prop :=
  row.episodeIndex = window.1 ∧
    ∃ records, runs[window.1]? = some records ∧ RowOfRun config records row window.2

/-- The rows of episodes that hold runs are the windows of the runs. -/
theorem rows_of_runs (hconfig : ReadsCollection config) {runs : List (List (StepRecord K))}
    {episodes : List (Episode K)}
    (h : List.Forall₂ (ReadsRun config stateWidth actionWidth) runs episodes)
    (hlong : ∃ records ∈ runs, config.actionHorizon ≤ records.length) :
    ∃ rows, buildActionChunkDataset torch config episodes = .ok rows ∧
      List.Forall₂ (CutFromRuns config runs) rows (runWindows config runs) := by
  have hformed : ∀ episode ∈ episodes,
      WellFormed torch config stateWidth actionWidth [] episode := by
    intro episode hepisode
    obtain ⟨i, hi, rfl⟩ := List.mem_iff_getElem.mp hepisode
    exact (h.get (h.length_eq ▸ hi) hi).wellFormed hconfig.taskFeatureSource
  have hlongEpisode : ∃ episode ∈ episodes,
      config.actionHorizon ≤ ValidationIsolation.size episode.action := by
    obtain ⟨records, hrecords, hle⟩ := hlong
    obtain ⟨i, hi, rfl⟩ := List.mem_iff_getElem.mp hrecords
    have hi' : i < episodes.length := h.length_eq ▸ hi
    have hsize : ValidationIsolation.size episodes[i].action = runs[i].length :=
      (h.get hi hi').size_action
    exact ⟨episodes[i], List.getElem_mem hi', by rwa [hsize]⟩
  obtain ⟨rows, hrows, hcut⟩ := exists_rows hconfig.targetMode hconfig.check hconfig.gamma.1
    hconfig.gamma.2 hformed hlongEpisode
  rw [windows_eq_runWindows h] at hcut
  refine ⟨rows, hrows, hcut.imp fun row window hrow => ?_⟩
  obtain ⟨episode, hepisode, hrowAt⟩ := hrow
  obtain ⟨hi', rfl⟩ := List.getElem?_eq_some_iff.mp hepisode
  have hi : window.1 < runs.length := h.length_eq ▸ hi'
  exact ⟨hrowAt.episodeIndex, runs[window.1], List.getElem?_eq_getElem hi,
    (h.get hi hi').rowOfRun hconfig.gamma hrowAt⟩

end Rows

/-! ## From the collection to the dataset -/

section Collection

variable [Field K] [LinearOrder K] {torch : TensorOps K} {config : DatasetConfig K}
  {simulator : Simulator K W O E B} {stateWidth actionWidth : ℕ} {args : CollectArgs}
  {envs : List (String × List (ℤ × E))} {world : W} {tree tree' : FileTree Text (Stored K)}
  {outcome : Except CollectError Unit}

def KeptIn (simulator : Simulator K W O E B) (args : CollectArgs) (index : ℕ)
    (records : List (StepRecord K)) (episode : CollectedEpisode K) : Prop :=
  ∃ job, IsRollout simulator job (args.seed + index) records ∧
    Holds job (args.seed + index) records episode

/-- What is learned from the output directory of a collection: the episodes of the first planned
tasks in their order, all of them unless there was an error, and the windows of the runs of the
policy that they hold. -/
def LearnedFrom (torch : TensorOps K) (config : DatasetConfig K) (simulator : Simulator K W O E B)
    (args : CollectArgs) (envs : List (String × List (ℤ × E))) (outcome : Except CollectError Unit)
    (tree : FileTree Text (Stored K)) : Prop :=
  ∃ saved runs episodes,
    loadEpisodeFiles tree (discovered tree args.outputDir) = some saved ∧
    saved.map taskOf <+: plannedTasks args envs ∧
    (outcome = .ok () → saved.map taskOf = plannedTasks args envs) ∧
    List.Forall₂ (fun entry records => KeptIn simulator args entry.2 records entry.1)
      saved.zipIdx runs ∧
    saved.mapM (readEpisode config) = some episodes ∧
    ((∃ records ∈ runs, config.actionHorizon ≤ records.length) →
      ∃ rows, buildActionChunkDataset torch config episodes = .ok rows ∧
        List.Forall₂ (CutFromRuns config runs) rows (runWindows config runs))

end Collection

/-! ## Two episodes of two steps -/

/-- An environment that succeeds in its second step; the observation is the number of steps. -/
def twoSteps : Simulator ℚ ℕ ℕ Unit ℕ where
  numEnvs := fun _ => 1
  maxEpisodeSteps := fun _ _ => .ok [3]
  call := fun _ _ _ => .ok ["reach"]
  resetPolicy := id
  reset := fun _ _ _ => .ok (0, 0)
  preprocess := fun observation _ => .ok observation
  state := fun batch => some [.vector [.finite (batch : ℚ)]]
  languageTokens := fun _ => none
  languageAttentionMask := fun _ => none
  selectAction := fun _ world => .ok ([.vector [.finite 1]], world)
  postprocess := .ok
  step := fun _ _ world => .ok (⟨world + 1, .finite 0, decide (world = 1), false,
    ⟨none, some (.array [decide (world = 1)])⟩⟩, world + 1)

private theorem documented_twoSteps : Documented twoSteps 1 1 where
  state := by simp [twoSteps]
  action := by
    intro batch world actions world' h action haction
    obtain ⟨rfl, -⟩ := Prod.mk.inj (Except.ok.inj h)
    exact ⟨_, List.mem_singleton.mp haction, rfl⟩

def outArgs : CollectArgs := ⟨["out".toList], 2, 1, 1000⟩

def twoEpisodes : Except CollectError Unit × FileTree Text (Stored ℚ) :=
  collectMain twoSteps outArgs [("suite", [(0, ())])] 0 ⟨[], List.nodup_nil⟩

end SmolVlaQgf.CollectedDataset
