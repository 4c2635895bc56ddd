import SmolVlaQgf.BreakingLoops
import SmolVlaQgf.CriticTargets
import SmolVlaQgf.EpisodeDataset
import SmolVlaQgf.FileTrees
import SmolVlaQgf.StepInfos

/-!
# The collection of rollouts

`collect_rollouts.py` follows the policy through the episodes of every task and writes a file
after each of them. The environments, the policy and the processors are parameters. An error ends
the collection, but the files that have been written remain.
-/

namespace SmolVlaQgf.RolloutCollection
open BreakingLoops CriticTargets DecimalText EpisodeDataset ExactFloats FieldText FileTrees
  StepInfos Tensors

variable {K W O E B α : Type}

/-! ## The environments and the policy -/

inductive CollectError where
  | valueError (message : String)
  | indexError
  | keyError
  | typeError
  | tensor (error : TensorError)
  | file (error : FileError)
  | environment

/-- The exceptions of `env.call`; the first one is an `AttributeError` or a
`NotImplementedError`. -/
inductive CallError where
  | unsupported
  | raised (error : CollectError)

/-- What `env.step` returns for its only environment. -/
structure StepResult (K O : Type) where
  observation : O
  reward : PyFloat K
  terminated : Bool
  truncated : Bool
  info : StepInfo

/-- The environments, the policy and the processors. A tensor of a batch is the list of its entries
along the first axis. -/
structure Simulator (K W O E B : Type) where
  numEnvs : E → ℕ
  maxEpisodeSteps : E → W → Except CollectError (List ℤ)
  call : E → String → W → Except CallError (List String)
  resetPolicy : W → W
  reset : E → ℤ → W → Except CollectError (O × W)
  /-- `preprocess_observation`, `env_preprocessor` and `preprocessor`. -/
  preprocess : O → List String → Except CollectError B
  /-- `policy_batch[OBS_STATE]` -/
  state : B → Option (List (Tensor (PyFloat K)))
  languageTokens : B → Option (List (Tensor ℤ))
  languageAttentionMask : B → Option (List (Tensor Bool))
  selectAction : B → W → Except CollectError (List (Tensor (PyFloat K)) × W)
  /-- `postprocessor` and `env_postprocessor`. -/
  postprocess : List (Tensor (PyFloat K)) → Except CollectError (List (Tensor (PyFloat K)))
  step : E → List (Tensor (PyFloat K)) → W → Except CollectError (StepResult K O × W)

/-- `table[key]` -/
def lookup : Option α → Except CollectError α
  | none => .error .keyError
  | some value => .ok value

/-- `_task_descriptions` -/
def taskDescriptions (simulator : Simulator K W O E B) (env : E) (world : W) :
    Except CollectError (List String) :=
  match simulator.call env "task_description" world with
  | .ok descriptions => .ok descriptions
  | .error (.raised error) => .error error
  | .error .unsupported =>
      match simulator.call env "task" world with
      | .ok tasks => .ok tasks
      | .error (.raised error) => .error error
      | .error .unsupported => .ok (List.replicate (simulator.numEnvs env) "")

/-- `_extract_successes`; the callers need a list. -/
def extractSuccesses (info : StepInfo) (numEnvs : ℕ) : Except CollectError (List Bool) :=
  match info.finalInfo with
  | some (.dict (some (.array values))) => .ok values
  | some (.dict (some (.sequence values))) => .ok values
  | some (.dict (some (.arrayScalar _))) => .error .typeError
  | some (.dict (some (.scalar _))) => .error .typeError
  | _ =>
      match info.isSuccess with
      | some (.array values) => .ok values
      | some (.arrayScalar _) => .error .typeError
      | some (.sequence values) => .ok (List.replicate numEnvs !values.isEmpty)
      | some (.scalar value) => .ok (List.replicate numEnvs value)
      | none => .ok (List.replicate numEnvs false)

/-! ## Stacks -/

def vector? {S : Type} : Tensor S → Option (List S)
  | .vector values => some values
  | _ => none

def vectors? {S : Type} (tensors : List (Tensor S)) : Option (List (List S)) :=
  tensors.mapM vector?

/-- `torch.stack` -/
def stackTensors {S : Type} (tensors : List (Tensor S)) : Except CollectError (Tensor S) := do
  (stack (tensors.map Tensor.shape)).mapError .tensor
  match vectors? tensors, (tensors.map Tensor.shape).headD [] with
  | some rows, _ =>
      if h : ∀ row ∈ rows, row.length = (rows.headD []).length then
        return .matrix ⟨(rows.headD []).length, rows, h⟩
      else throw (.tensor .runtimeError)
  | none, [] => return .vector (tensors.flatMap Tensor.flatten)
  | none, shape => return .other (tensors.length :: shape) (tensors.flatMap Tensor.flatten)

/-! ## One episode -/

/-- What the collector appends to its lists in a step. -/
structure StepRecord (K : Type) where
  state : Tensor (PyFloat K)
  policyAction : Tensor (PyFloat K)
  envAction : Tensor (PyFloat K)
  reward : PyFloat K
  success : Bool
  done : Bool

/-- The tokens and the mask of the first batch that has some. -/
structure TaskTokens where
  tokens : Option (Tensor ℤ)
  attentionMask : Option (Tensor Bool)

structure Recording (K W O : Type) where
  world : W
  observation : O
  done : Bool
  states : List (Tensor (PyFloat K))
  policyActions : List (Tensor (PyFloat K))
  envActions : List (Tensor (PyFloat K))
  rewards : List (PyFloat K)
  successes : List Bool
  dones : List Bool
  taskDesc : String
  task : TaskTokens

structure Performed (K W O : Type) where
  world : W
  observation : O
  record : StepRecord K
  taskDesc : String
  task : TaskTokens

def taskTokens (simulator : Simulator K W O E B) (batch : B) (task : TaskTokens) :
    Except CollectError TaskTokens :=
  match task.tokens, simulator.languageTokens batch with
  | none, some tokens => do
      let tokens ← firstEntry .indexError tokens
      let mask ← lookup (simulator.languageAttentionMask batch)
      let mask ← firstEntry .indexError mask
      return ⟨some tokens, some mask⟩
  | _, _ => .ok task

/-- `task_desc` after the successes of a step. -/
def describe (simulator : Simulator K W O E B) (env : E) (s : Recording K W O) (world : W)
    (stepSuccesses : List Bool) : Except CollectError String :=
  if s.successes.isEmpty && stepSuccesses.any id then do
    let descriptions ← taskDescriptions simulator env world
    firstEntry .indexError descriptions
  else .ok s.taskDesc

/-- The body of the step loop up to the appends. -/
def performStep (simulator : Simulator K W O E B) (env : E) (s : Recording K W O) :
    Except CollectError (Performed K W O) := do
  let descriptions ← taskDescriptions simulator env s.world
  let batch ← simulator.preprocess s.observation descriptions
  let states ← lookup (simulator.state batch)
  let state ← firstEntry .indexError states
  let task ← taskTokens simulator batch s.task
  let (policyActions, world) ← simulator.selectAction batch s.world
  let envActions ← simulator.postprocess policyActions
  let (result, world) ← simulator.step env envActions world
  let stepSuccesses ← extractSuccesses result.info (simulator.numEnvs env)
  let taskDesc ← describe simulator env s world stepSuccesses
  let policyAction ← firstEntry .indexError policyActions
  let envAction ← firstEntry .indexError envActions
  let success ← firstEntry .indexError stepSuccesses
  return {
    world, observation := result.observation, taskDesc, task
    record := {
      state, policyAction, envAction, success
      reward := result.reward
      done := result.terminated || result.truncated || s.done } }

def Recording.append (s : Recording K W O) (p : Performed K W O) : Recording K W O where
  world := p.world
  observation := p.observation
  done := p.record.done
  states := s.states ++ [p.record.state]
  policyActions := s.policyActions ++ [p.record.policyAction]
  envActions := s.envActions ++ [p.record.envAction]
  rewards := s.rewards ++ [p.record.reward]
  successes := s.successes ++ [p.record.success]
  dones := s.dones ++ [p.record.done]
  taskDesc := p.taskDesc
  task := p.task

def rolloutStep (simulator : Simulator K W O E B) (env : E) (s : Recording K W O) :
    Except CollectError (ForInStep (Recording K W O)) := do
  let p ← performStep simulator env s
  return if p.record.done then .done (s.append p) else .yield (s.append p)

/-- The variables after the reset of an episode. -/
def startRecording (simulator : Simulator K W O E B) (env : E) (seed : ℤ) (world : W) :
    Except CollectError (Recording K W O) := do
  let (observation, world) ← simulator.reset env seed (simulator.resetPolicy world)
  let descriptions ← taskDescriptions simulator env world
  let taskDesc ← firstEntry .indexError descriptions
  return {
    world, observation, taskDesc
    done := false
    states := []
    policyActions := []
    envActions := []
    rewards := []
    successes := []
    dones := []
    task := ⟨none, none⟩ }

structure CollectedEpisode (K : Type) where
  state : Tensor (PyFloat K)
  actionPolicy : Tensor (PyFloat K)
  actionEnv : Tensor (PyFloat K)
  reward : List (PyFloat K)
  success : List Bool
  done : List Bool
  task : String
  taskGroup : String
  taskId : ℤ
  seed : ℤ
  taskTokens : TaskTokens

/-- The place of an episode among the tasks. -/
structure Job (E : Type) where
  taskGroup : String
  taskId : ℤ
  env : E
  maxSteps : ℤ

def episodeOf (job : Job E) (seed : ℤ) (s : Recording K W O) :
    Except CollectError (CollectedEpisode K) := do
  let state ← stackTensors s.states
  let actionPolicy ← stackTensors s.policyActions
  let actionEnv ← stackTensors s.envActions
  return {
    state, actionPolicy, actionEnv, seed
    reward := s.rewards
    success := s.successes
    done := s.dones
    task := s.taskDesc
    taskGroup := job.taskGroup
    taskId := job.taskId
    taskTokens := if s.task.tokens.isSome && s.task.attentionMask.isSome then s.task
      else ⟨none, none⟩ }

def collectEpisode (simulator : Simulator K W O E B) (job : Job E) (seed : ℤ) (world : W) :
    Except CollectError (CollectedEpisode K × W) := do
  let start ← startRecording simulator job.env seed world
  let finish ← loop (rolloutStep simulator job.env) job.maxSteps.toNat start
  let episode ← episodeOf job seed finish
  return (episode, finish.world)

/-! ## All episodes -/

/-- What the files of an output directory hold. -/
inductive Stored (K : Type) where
  | episode (episode : CollectedEpisode K)
  | foreign

structure Collection (K W : Type) where
  world : W
  tree : FileTree Text (Stored K)
  episodeIndex : ℕ

/-- A computation whose effects remain when it raises. -/
abbrev Collect (K W α : Type) := Collection K W → Except CollectError α × Collection K W

/-- The arguments of the script that the loops read. -/
structure CollectArgs where
  outputDir : List Text
  nEpisodes : ℤ
  batchSize : ℤ
  seed : ℤ

/-- `output_dir / "episodes"` -/
def CollectArgs.episodesDir (args : CollectArgs) : List Text :=
  args.outputDir ++ ["episodes".toList]

/-- `f"episode_{episode_index:06d}.pt"` -/
def episodeFile (index : ℕ) : Text := namePrefix ++ (zeroFilled 6 index ++ ".pt".toList)

def CollectArgs.episodePath (args : CollectArgs) (index : ℕ) : List Text :=
  args.episodesDir ++ [episodeFile index]

/-- The body of the innermost loop over the episodes. -/
def collectOne (simulator : Simulator K W O E B) (args : CollectArgs) (job : Job E) :
    Collect K W Unit := fun c =>
  match collectEpisode simulator job (args.seed + c.episodeIndex) c.world with
  | .error error => (.error error, c)
  | .ok (episode, world) =>
      match c.tree.writeFile (args.episodePath c.episodeIndex) (.episode episode) with
      | .error error => (.error (.file error), { c with world })
      | .ok tree => (.ok (), ⟨world, tree, c.episodeIndex + 1⟩)

def forItems {ι : Type} (body : ι → Collect K W Unit) : List ι → Collect K W Unit
  | [], c => (.ok (), c)
  | item :: items, c =>
      match body item c with
      | (.error error, c) => (.error error, c)
      | (.ok (), c) => forItems body items c

def collectTask (simulator : Simulator K W O E B) (args : CollectArgs) (taskGroup : String)
    (task : ℤ × E) : Collect K W Unit := fun c =>
  match (simulator.maxEpisodeSteps task.2 c.world).bind (firstEntry .indexError) with
  | .error error => (.error error, c)
  | .ok maxSteps =>
      forItems (fun _ => collectOne simulator args ⟨taskGroup, task.1, task.2, maxSteps⟩)
        (List.range args.nEpisodes.toNat) c

/-- The loops of `main` over the groups of tasks. -/
def collectRollouts (simulator : Simulator K W O E B) (args : CollectArgs)
    (envs : List (String × List (ℤ × E))) : Collect K W Unit :=
  forItems (fun group => forItems (collectTask simulator args group.1) group.2) envs

/-- `main` up to the summary; the environments are made after the directory. -/
def collectMain (simulator : Simulator K W O E B) (args : CollectArgs)
    (envs : List (String × List (ℤ × E))) (world : W) (tree : FileTree Text (Stored K)) :
    Except CollectError Unit × FileTree Text (Stored K) :=
  if args.batchSize ≠ 1 then
    (.error (.valueError "The first collector implementation only supports --batch-size=1."), tree)
  else
    match FileTree.mkdirs args.episodesDir tree with
    | .error error => (.error (.file error), tree)
    | .ok tree =>
        let result := collectRollouts simulator args envs ⟨world, tree, 0⟩
        (result.1, result.2.tree)

end SmolVlaQgf.RolloutCollection
