import SmolVlaQgf.CounterfactualBranch
import SmolVlaQgf.DecimalText
import SmolVlaQgf.RaisingLoops

/-!
# The collection of counterfactual groups

`counterfactual_probe.py` follows the baseline policy through the episodes of every task. At the
chosen steps it takes a snapshot, evaluates three branches from it and goes on from the restored
snapshot. The records are saved after every few branches, and at the end if no error is raised.
-/

namespace SmolVlaQgf.ProbeCollection
open BranchScores CounterfactualBranch DecimalText ExactFloats FieldText FloatRounding RaisingLoops
  StepInfos

variable {K W O P S E : Type}

/-! ## Environments -/

structure SnapshotBatch (K : Type) where
  obsFeature : List K
  taskTokens : Option (List ℤ)
  taskAttentionMask : Option (List Bool)

structure Environments (K W O P S E : Type) where
  simulator : E → Simulator K W O P S
  makeSnapshot : E → W → S × W
  reset : E → ℤ → W → Except BranchError (O × W)
  /-- `_task_descriptions(vec_env)[0]` -/
  taskDescription : E → W → Except BranchError String
  /-- `int(vec_env.call("_max_episode_steps")[0])` -/
  maxEpisodeSteps : E → W → Except BranchError ℤ
  snapshotBatch : O → String → Except BranchError (SnapshotBatch K)
  baselinePolicy : P
  qgfPolicy : P

/-- The arguments of the script that the loops read. -/
structure ProbeArgs (K : Type) where
  seed : ℤ
  nEpisodes : ℤ
  branchSteps : List ℤ
  prefixSteps : ℤ
  tailMaxSteps : ℤ
  noiseStd : K
  saveEveryRecords : ℤ
  scoreStepBonus : K

/-! ## Records -/

structure SnapshotKey where
  taskGroup : Text
  taskId : ℤ
  episodeIndex : ℕ
  snapshotStep : ℕ
  deriving DecidableEq

/-- `f"{task_group}_{task_id}_ep{episode_index}_step{step}"` -/
def SnapshotKey.groupId (key : SnapshotKey) : Text :=
  key.taskGroup ++ ('_' :: decimalInt key.taskId ++ ("_ep".toList ++ decimal key.episodeIndex ++
    ("_step".toList ++ decimal key.snapshotStep)))

/-- A snapshot with all that its branches share. -/
structure Group (K O P S E : Type) where
  key : SnapshotKey
  env : E
  seed : ℤ
  batch : SnapshotBatch K
  probe : Probe K O P S

/-- A record of `torch_records`. -/
structure ProbeRecord (K : Type) where
  groupId : Text
  key : SnapshotKey
  seed : ℤ
  score : PyFloat K
  obsFeature : List K
  taskTokens : Option (List ℤ × List Bool)
  result : BranchRecord K

/-- The records, and what `counterfactual_samples.pt` holds. -/
structure ProbeState (K W : Type) where
  world : W
  records : List (ProbeRecord K)
  samplesFile : Option (List (ProbeRecord K))

def ProbeState.setWorld (s : ProbeState K W) (world : W) : ProbeState K W := { s with world }

/-- A record is appended, and `save_partial` is called after every few of them. -/
def ProbeState.addRecord (args : ProbeArgs K) (record : ProbeRecord K) (s : ProbeState K W) :
    ProbeState K W :=
  let records := s.records ++ [record]
  { s with
    records
    samplesFile :=
      if 0 < args.saveEveryRecords ∧ (records.length : ℤ) % args.saveEveryRecords = 0 then
        some records
      else s.samplesFile }

def branches (envs : Environments K W O P S E) : List (Branch P) :=
  [⟨"baseline", envs.baselinePolicy⟩, ⟨"qgf", envs.qgfPolicy⟩, ⟨"noisy", envs.baselinePolicy⟩]

/-! ## Loops -/

section Loops

variable [Field K] [LinearOrder K] [Rounding K] (envs : Environments K W O P S E)
  (args : ProbeArgs K)

def recordOf (group : Group K O P S E) (result : BranchRecord K) :
    ProbeRecord K where
  groupId := group.key.groupId
  key := group.key
  seed := group.seed
  score := scoreBranch result.success result.totalSteps group.probe.tailMaxSteps args.scoreStepBonus
  obsFeature := group.batch.obsFeature
  taskTokens := match group.batch.taskTokens, group.batch.taskAttentionMask with
    | some tokens, some mask => some (tokens, mask)
    | _, _ => none
  result := result

def probeBranch (group : Group K O P S E) (branch : Branch P) :
    Raising BranchError (ProbeState K W) Bool := fun s =>
  match evaluateBranch (envs.simulator group.env) group.probe branch s.world with
  | .error error => (.error error, s)
  | .ok (result, world) =>
      (.ok false, (s.setWorld world).addRecord args (recordOf args group result))

structure Episode (E : Type) where
  taskGroup : Text
  taskId : ℤ
  env : E
  taskDescription : String
  maxSteps : ℤ
  episodeIndex : ℕ

def groupOf (episode : Episode E) (step : ℕ) (snapshot : S) (observation : O)
    (batch : SnapshotBatch K) : Group K O P S E where
  key := ⟨episode.taskGroup, episode.taskId, episode.episodeIndex, step⟩
  env := episode.env
  seed := args.seed + episode.episodeIndex
  batch := batch
  probe := {
    snapshot := snapshot
    observation := observation
    taskDescription := episode.taskDescription
    tailPolicy := envs.baselinePolicy
    prefixSteps := args.prefixSteps
    tailMaxSteps := min args.tailMaxSteps (episode.maxSteps - step)
    noiseStd := args.noiseStd }

def probeSnapshot (episode : Episode E) (step : ℕ) (observation : O) :
    Raising BranchError (ProbeState K W) Unit := fun s =>
  let (snapshot, world) := envs.makeSnapshot episode.env s.world
  match envs.snapshotBatch observation episode.taskDescription with
  | .error error => (.error error, s.setWorld world)
  | .ok batch =>
      match forEach (probeBranch envs args (groupOf envs args episode step snapshot observation
          batch)) (branches envs) (s.setWorld world) with
      | (.error error, s) => (.error error, s)
      | (.ok (), s) =>
          match (envs.simulator episode.env).restoreSnapshot snapshot s.world with
          | .error error => (.error error, s)
          | .ok (_, world) =>
              (.ok (), s.setWorld ((envs.simulator episode.env).reset envs.baselinePolicy world))

/-- The step of the baseline policy; it tells whether the episode has ended. -/
def baselineStep (episode : Episode E) (observation : O) :
    Raising BranchError (ProbeState K W) (Bool × O) := fun s =>
  match selectEnvAction (envs.simulator episode.env) envs.baselinePolicy observation
      episode.taskDescription s.world with
  | .error error => (.error error, s)
  | .ok (_, envAction, world) =>
      match (envs.simulator episode.env).step world envAction with
      | .raised error => (.error error, s.setWorld world)
      | .returned observation terminated truncated info world =>
          match extractSuccess info with
          | .error error => (.error error, s.setWorld world)
          | .ok success => (.ok (success || terminated || truncated, observation), s.setWorld world)

/-- The body of the loop over the steps; the observation is carried along. -/
def decisionStep (episode : Episode E) (step : ℕ) :
    Raising BranchError (ProbeState K W × O) Bool := fun (s, observation) =>
  let (result, s) := if (step : ℤ) ∈ args.branchSteps then
      probeSnapshot envs args episode step observation s
    else (.ok (), s)
  match result with
  | .error error => (.error error, (s, observation))
  | .ok () =>
      match baselineStep envs episode observation s with
      | (.error error, s) => (.error error, (s, observation))
      | (.ok (ended, observation), s) => (.ok ended, (s, observation))

def probeEpisode (episode : Episode E) : Raising BranchError (ProbeState K W) Bool := fun s =>
  let world := (envs.simulator episode.env).reset envs.baselinePolicy s.world
  match envs.reset episode.env (args.seed + episode.episodeIndex) world with
  | .error error => (.error error, s.setWorld world)
  | .ok (observation, world) =>
      match forEach (decisionStep envs args episode) (List.range episode.maxSteps.toNat)
          (s.setWorld world, observation) with
      | (.error error, s, _) => (.error error, s)
      | (.ok (), s, _) => (.ok false, s)

/-- A loop that never breaks the loop around it. -/
def nested {E ι S : Type} (body : ι → Raising E S Bool) (items : List ι) : Raising E S Bool :=
  fun s =>
    match forEach body items s with
    | (.error error, s) => (.error error, s)
    | (.ok (), s) => (.ok false, s)

def probeTask (taskGroup : Text) (task : ℤ × E) : Raising BranchError (ProbeState K W) Bool :=
  fun s =>
    match envs.taskDescription task.2 s.world with
    | .error error => (.error error, s)
    | .ok taskDescription =>
        match envs.maxEpisodeSteps task.2 s.world with
        | .error error => (.error error, s)
        | .ok maxSteps => nested (fun episodeIndex => probeEpisode envs args
            ⟨taskGroup, task.1, task.2, taskDescription, maxSteps, episodeIndex⟩)
              (List.range args.nEpisodes.toNat) s

def probeGroups (groups : List (Text × List (ℤ × E))) :
    Raising BranchError (ProbeState K W) Unit :=
  forEach (fun group => nested (probeTask envs args group.1) group.2) groups

/-- `main` up to the last `torch.save`. -/
def probeMain (groups : List (Text × List (ℤ × E))) (world : W)
    (samplesFile : Option (List (ProbeRecord K))) :
    Except BranchError Unit × ProbeState K W :=
  match probeGroups envs args groups ⟨world, [], samplesFile⟩ with
  | (.error error, s) => (.error error, s)
  | (.ok (), s) => (.ok (), { s with samplesFile := some s.records })

end Loops

end SmolVlaQgf.ProbeCollection
