import SmolVlaQgf.RolloutCollection

/-!
# What a collection has written

Whether the collection ends or is cut short by an error, the files in the episode directory are
those of the first episodes of the plan, and each holds the columns of one run of the policy from
the reset with its seed.
-/

namespace SmolVlaQgf.CollectedRollouts
open BreakingLoops DecimalText EpisodeDataset ExactFloats FieldText FileTrees RolloutCollection
open StepInfos Tensors

variable {K W O E B : Type} {simulator : Simulator K W O E B} {env : E}
  {s t : Recording K W O} {records : List (StepRecord K)}

/-! ## Runs of the policy -/

inductive Trajectory (simulator : Simulator K W O E B) (env : E) :
    Recording K W O → List (StepRecord K) → Recording K W O → Prop
  | nil (s : Recording K W O) : Trajectory simulator env s [] s
  | cons {s t : Recording K W O} {p : Performed K W O} {records : List (StepRecord K)}
      (hstep : performStep simulator env s = .ok p)
      (rest : Trajectory simulator env (s.append p) records t) :
      Trajectory simulator env s (p.record :: records) t

/-- A run goes on until a step is done, but not beyond a number of steps. -/
structure Ends (maxSteps : ℕ) (records : List (StepRecord K)) : Prop where
  length : records.length ≤ maxSteps
  goesOn : ∀ record ∈ records.dropLast, record.done = false
  stops : records.length < maxSteps → ∃ last, records.getLast? = some last ∧ last.done = true

structure Columns (s : Recording K W O) (records : List (StepRecord K)) : Prop where
  states : s.states = records.map StepRecord.state
  policyActions : s.policyActions = records.map StepRecord.policyAction
  envActions : s.envActions = records.map StepRecord.envAction
  rewards : s.rewards = records.map StepRecord.reward
  successes : s.successes = records.map StepRecord.success
  dones : s.dones = records.map StepRecord.done

theorem Columns.append (h : Columns s records) (p : Performed K W O) :
    Columns (s.append p) (records ++ [p.record]) := by
  constructor
  · simp [Recording.append, h.states]
  · simp [Recording.append, h.policyActions]
  · simp [Recording.append, h.envActions]
  · simp [Recording.append, h.rewards]
  · simp [Recording.append, h.successes]
  · simp [Recording.append, h.dones]

theorem Trajectory.columns (h : Trajectory simulator env s records t)
    {earlier : List (StepRecord K)} (hs : Columns s earlier) : Columns t (earlier ++ records) := by
  induction h generalizing earlier with
  | nil => simpa using hs
  | cons hstep rest ih => simpa using ih (hs.append _)

/-- A step of the loop is a step of the policy, and the loop goes on unless it is done. -/
theorem rolloutStep_cases {step : ForInStep (Recording K W O)}
    (h : rolloutStep simulator env s = .ok step) :
    ∃ p, performStep simulator env s = .ok p ∧
      step = if p.record.done then .done (s.append p) else .yield (s.append p) := by
  rw [rolloutStep] at h
  cases hstep : performStep simulator env s with
  | error error =>
    rw [hstep] at h
    cases h
  | ok p =>
    rw [hstep] at h
    exact ⟨p, rfl, (Except.ok.inj h).symm⟩

private theorem trajectory_of_loop {n : ℕ} (h : loop (rolloutStep simulator env) n s = .ok t) :
    ∃ records, Trajectory simulator env s records t ∧ Ends n records := by
  induction n generalizing s with
  | zero =>
    cases h
    exact ⟨[], .nil _, by simp, by simp, by simp⟩
  | succ n ih =>
    obtain hdone | ⟨u, hyield, hrest⟩ := loop_cases h
    · obtain ⟨p, hstep, hcase⟩ := rolloutStep_cases hdone
      split_ifs at hcase with hlast
      cases hcase
      exact ⟨[p.record], .cons hstep (.nil _), by simp, by simp, fun _ => ⟨p.record, rfl, hlast⟩⟩
    · obtain ⟨p, hstep, hcase⟩ := rolloutStep_cases hyield
      split_ifs at hcase with hlast
      cases hcase
      obtain ⟨records, htrajectory, hends⟩ := ih hrest
      refine ⟨p.record :: records, .cons hstep htrajectory, ?_, ?_, ?_⟩
      · simpa using hends.length
      · intro record hrecord
        cases records with
        | nil => simp at hrecord
        | cons first records =>
          rcases List.mem_cons.mp hrecord with rfl | hrecord
          · simpa using hlast
          · exact hends.goesOn record hrecord
      · intro hlt
        obtain ⟨last, hgetLast, hdone⟩ := hends.stops (by simpa using hlt)
        refine ⟨last, ?_, hdone⟩
        cases records with
        | nil => simp at hgetLast
        | cons first records => simpa using hgetLast

/-- A run of the policy in the environment of a task, from the reset with a seed. -/
def IsRollout (simulator : Simulator K W O E B) (job : Job E) (seed : ℤ)
    (records : List (StepRecord K)) : Prop :=
  ∃ world start finish, startRecording simulator job.env seed world = .ok start ∧
    Trajectory simulator job.env start records finish ∧ Ends job.maxSteps.toNat records

structure Holds (job : Job E) (seed : ℤ) (records : List (StepRecord K))
    (episode : CollectedEpisode K) : Prop where
  state : stackTensors (records.map StepRecord.state) = .ok episode.state
  actionPolicy : stackTensors (records.map StepRecord.policyAction) = .ok episode.actionPolicy
  actionEnv : stackTensors (records.map StepRecord.envAction) = .ok episode.actionEnv
  reward : episode.reward = records.map StepRecord.reward
  success : episode.success = records.map StepRecord.success
  done : episode.done = records.map StepRecord.done
  taskGroup : episode.taskGroup = job.taskGroup
  taskId : episode.taskId = job.taskId
  seed : episode.seed = seed

private theorem columns_of_startRecording {seed : ℤ} {world : W}
    (h : startRecording simulator env seed world = .ok s) : Columns s [] := by
  obtain ⟨_, -, h⟩ := bind_eq_ok_iff.mp h
  obtain ⟨_, -, h⟩ := bind_eq_ok_iff.mp h
  obtain ⟨_, -, h⟩ := bind_eq_ok_iff.mp h
  cases h
  exact ⟨rfl, rfl, rfl, rfl, rfl, rfl⟩

private theorem holds_of_episodeOf {job : Job E} {seed : ℤ} {episode : CollectedEpisode K}
    (hcolumns : Columns s records) (h : episodeOf job seed s = .ok episode) :
    Holds job seed records episode := by
  obtain ⟨state, hstate, h⟩ := bind_eq_ok_iff.mp h
  obtain ⟨actionPolicy, hpolicy, h⟩ := bind_eq_ok_iff.mp h
  obtain ⟨actionEnv, henv, h⟩ := bind_eq_ok_iff.mp h
  cases h
  exact {
    state := hcolumns.states ▸ hstate
    actionPolicy := hcolumns.policyActions ▸ hpolicy
    actionEnv := hcolumns.envActions ▸ henv
    reward := hcolumns.rewards
    success := hcolumns.successes
    done := hcolumns.dones
    taskGroup := rfl
    taskId := rfl
    seed := rfl }

private theorem collectEpisode_spec {job : Job E} {seed : ℤ} {world world' : W}
    {episode : CollectedEpisode K}
    (h : collectEpisode simulator job seed world = .ok (episode, world')) :
    ∃ records, IsRollout simulator job seed records ∧ Holds job seed records episode := by
  obtain ⟨start, hstart, h⟩ := bind_eq_ok_iff.mp h
  obtain ⟨finish, hloop, h⟩ := bind_eq_ok_iff.mp h
  obtain ⟨collected, hcollected, h⟩ := bind_eq_ok_iff.mp h
  cases h
  obtain ⟨records, htrajectory, hends⟩ := trajectory_of_loop hloop
  have hcolumns := htrajectory.columns (columns_of_startRecording hstart)
  exact ⟨records, ⟨world, start, finish, hstart, htrajectory, hends⟩,
    holds_of_episodeOf hcolumns hcollected⟩

/-! ## Files -/

def savedEntries (args : CollectArgs) (saved : List (CollectedEpisode K)) :
    List (List Text × Node (Stored K)) :=
  saved.zipIdx.map fun entry => (args.episodePath entry.2, .file (.episode entry.1))

private theorem savedEntries_concat (args : CollectArgs) (saved : List (CollectedEpisode K))
    (episode : CollectedEpisode K) :
    savedEntries args (saved ++ [episode]) =
      savedEntries args saved ++ [(args.episodePath saved.length, .file (.episode episode))] := by
  simp [savedEntries, List.zipIdx_append]

def taskOf (episode : CollectedEpisode K) : String × ℤ := (episode.taskGroup, episode.taskId)

/-- An episode holds a run of the policy with the seed of its index. -/
def FromRun (simulator : Simulator K W O E B) (args : CollectArgs) (index : ℕ)
    (episode : CollectedEpisode K) : Prop :=
  ∃ job records, IsRollout simulator job (args.seed + index) records ∧
    Holds job (args.seed + index) records episode

/-- The state of a collection that started in a tree and has saved some episodes. -/
structure Saved (simulator : Simulator K W O E B) (args : CollectArgs)
    (base : FileTree Text (Stored K)) (c : Collection K W) (saved : List (CollectedEpisode K)) :
    Prop where
  index : c.episodeIndex = saved.length
  tree : c.tree = base.putAll (savedEntries args saved)
  runs : ∀ index episode, saved[index]? = some episode → FromRun simulator args index episode

/-- A computation saves episodes of the planned tasks in their order, and all of them unless it
raises. -/
def Saves (simulator : Simulator K W O E B) (args : CollectArgs)
    (base : FileTree Text (Stored K)) (plan : List (String × ℤ)) (x : Collect K W Unit) : Prop :=
  ∀ c saved, Saved simulator args base c saved →
    ∃ more, Saved simulator args base (x c).2 (saved ++ more) ∧ more.map taskOf <+: plan ∧
      ∀ u, (x c).1 = .ok u → more.map taskOf = plan

variable {args : CollectArgs} {base : FileTree Text (Stored K)} {c : Collection K W}
  {saved : List (CollectedEpisode K)}

theorem Saved.putNext (h : Saved simulator args base c saved) {episode : CollectedEpisode K}
    (hrun : FromRun simulator args saved.length episode) (world : W) :
    Saved simulator args base
      ⟨world, c.tree.put (args.episodePath c.episodeIndex) (.file (.episode episode)),
        c.episodeIndex + 1⟩ (saved ++ [episode]) where
  index := by simp [h.index]
  tree := by
    rw [savedEntries_concat, FileTree.putAll, List.foldl_append, h.tree, h.index]
    rfl
  runs := by
    intro index other hother
    rcases lt_trichotomy index saved.length with hlt | rfl | hgt
    · exact h.runs index other (by rwa [List.getElem?_append_left hlt] at hother)
    · obtain rfl : episode = other := by simpa using hother
      exact hrun
    · rw [List.getElem?_eq_none (by simp; omega)] at hother
      cases hother

private theorem collectOne_saves (job : Job E) :
    Saves simulator args base [(job.taskGroup, job.taskId)] (collectOne simulator args job) := by
  intro c saved hsaved
  rw [collectOne]
  cases hcollect : collectEpisode simulator job (args.seed + c.episodeIndex) c.world with
  | error error => exact ⟨[], by simpa using hsaved, List.nil_prefix, by simp⟩
  | ok result =>
    obtain ⟨episode, world⟩ := result
    dsimp only
    obtain ⟨records, hrollout, hholds⟩ := collectEpisode_spec hcollect
    cases hwrite : c.tree.writeFile (args.episodePath c.episodeIndex) (.episode episode) with
    | error error =>
      exact ⟨[], by simpa using ⟨hsaved.index, hsaved.tree, hsaved.runs⟩, List.nil_prefix, by simp⟩
    | ok tree =>
      have htask : [episode].map taskOf = [(job.taskGroup, job.taskId)] := by
        simp [taskOf, hholds.taskGroup, hholds.taskId]
      refine ⟨[episode], ?_, htask ▸ List.prefix_rfl, fun _ _ => htask⟩
      rw [FileTree.eq_put_of_writeFile hwrite]
      rw [hsaved.index] at hrollout hholds
      exact hsaved.putNext ⟨job, records, hrollout, hholds⟩ world

private theorem forItems_saves {ι : Type} {body : ι → Collect K W Unit}
    {plan : ι → List (String × ℤ)}
    (hbody : ∀ item, Saves simulator args base (plan item) (body item)) (items : List ι) :
    Saves simulator args base (items.flatMap plan) (forItems body items) := by
  induction items with
  | nil =>
    intro c saved hsaved
    exact ⟨[], by simpa [forItems] using hsaved, List.nil_prefix, fun _ _ => rfl⟩
  | cons item items ih =>
    intro c saved hsaved
    obtain ⟨first, hfirst, hinitial, hall⟩ := hbody item c saved hsaved
    rw [forItems]
    rcases hitem : body item c with ⟨outcome, c'⟩
    rw [hitem] at hfirst hall
    cases outcome with
    | error error =>
      exact ⟨first, hfirst, hinitial.trans (List.prefix_append _ _), by simp⟩
    | ok u =>
      obtain ⟨rest, hrest, hinitial', hall'⟩ := ih c' (saved ++ first) hfirst
      have htasks := hall u rfl
      refine ⟨first ++ rest, by rwa [← List.append_assoc], ?_, ?_⟩
      · rw [List.map_append, htasks, List.flatMap_cons]
        exact (List.prefix_append_right_inj _).mpr hinitial'
      · intro v hv
        rw [List.map_append, htasks, List.flatMap_cons, hall' v hv]

/-- The tasks of the episodes in the order of the loops. -/
def plannedTasks (args : CollectArgs) (envs : List (String × List (ℤ × E))) :
    List (String × ℤ) :=
  envs.flatMap fun group => group.2.flatMap fun task =>
    List.replicate args.nEpisodes.toNat (group.1, task.1)

private theorem collectTask_saves (taskGroup : String) (task : ℤ × E) :
    Saves simulator args base (List.replicate args.nEpisodes.toNat (taskGroup, task.1))
      (collectTask simulator args taskGroup task) := by
  intro c saved hsaved
  rw [collectTask]
  cases hmax : (simulator.maxEpisodeSteps task.2 c.world).bind (firstEntry .indexError) with
  | error error => exact ⟨[], by simpa using hsaved, List.nil_prefix, by simp⟩
  | ok maxSteps =>
    have hplan : List.replicate args.nEpisodes.toNat (taskGroup, task.1) =
        (List.range args.nEpisodes.toNat).flatMap fun _ => [(taskGroup, task.1)] := by
      rw [← List.map_eq_flatMap, List.map_const', List.length_range]
    rw [hplan]
    exact forItems_saves (fun _ => collectOne_saves ⟨taskGroup, task.1, task.2, maxSteps⟩) _ c saved
      hsaved

private theorem collectRollouts_saves (envs : List (String × List (ℤ × E))) :
    Saves simulator args base (plannedTasks args envs) (collectRollouts simulator args envs) := by
  have hgroup : ∀ group : String × List (ℤ × E), Saves simulator args base
      (group.2.flatMap fun task => List.replicate args.nEpisodes.toNat (group.1, task.1))
      (forItems (collectTask simulator args group.1) group.2) :=
    fun group => forItems_saves (collectTask_saves group.1) group.2
  exact forItems_saves hgroup envs

/-- What `main` has written, unless it fails before the first environment. -/
theorem collectMain_cases {envs : List (String × List (ℤ × E))} {world : W}
    {tree tree' : FileTree Text (Stored K)} {outcome : Except CollectError Unit}
    (h : collectMain simulator args envs world tree = (outcome, tree')) :
    (∃ error, outcome = .error error) ∧ tree' = tree ∨
      ∃ base saved, FileTree.mkdirs args.episodesDir tree = .ok base ∧
        tree' = base.putAll (savedEntries args saved) ∧
        (∀ index episode, saved[index]? = some episode → FromRun simulator args index episode) ∧
        saved.map taskOf <+: plannedTasks args envs ∧
        (outcome = .ok () → saved.map taskOf = plannedTasks args envs) := by
  rw [collectMain] at h
  split_ifs at h with hbatch
  · cases h
    exact Or.inl ⟨⟨_, rfl⟩, rfl⟩
  · cases hmade : FileTree.mkdirs args.episodesDir tree with
    | error error =>
      rw [hmade] at h
      cases h
      exact Or.inl ⟨⟨_, rfl⟩, rfl⟩
    | ok base =>
      rw [hmade] at h
      cases h
      have hstart : Saved simulator args base ⟨world, base, 0⟩ [] := ⟨rfl, rfl, by simp⟩
      obtain ⟨saved, hsaved, hinitial, hall⟩ := collectRollouts_saves envs _ _ hstart
      rw [List.nil_append] at hsaved
      exact Or.inr ⟨base, saved, rfl, hsaved.tree, hsaved.runs, hinitial, hall ()⟩

end SmolVlaQgf.CollectedRollouts
