import SmolVlaQgf.CriticTargets
import SmolVlaQgf.TaskFeatures
import Mathlib.Algebra.Order.Floor.Defs
import Mathlib.Data.List.Sort

/-!
# The action-chunk dataset

`build_action_chunk_dataset` cuts every episode into chunks of consecutive actions, each
with the state and the target of its first step. `split_indices_by_episode` holds out all
rows of some episodes. Errors are raised in the order of the source.
-/

namespace SmolVlaQgf.CriticDataset
open ExactFloats Tensors CriticTargets TaskFeatures

variable {K : Type}

/-! ## Configuration -/

inductive TargetMode where
  | successToGo | progressBlend | retrievalProgressBlend
  deriving DecidableEq

inductive TaskFeatureSource where
  | none | tokens | episode | vlmHidden
  deriving DecidableEq

/-- `repr(task_feature_source)` -/
def TaskFeatureSource.repr : TaskFeatureSource → String
  | .none => "'none'"
  | .tokens => "'tokens'"
  | .episode => "'episode'"
  | .vlmHidden => "'vlm_hidden'"

/-- The keyword arguments of `build_action_chunk_dataset`. -/
structure DatasetConfig (K : Type) where
  actionHorizon : ℤ
  stride : ℤ
  gamma : K
  obsKey : String
  actionKey : String
  targetMode : TargetMode
  progressKey : String
  successWeight : K
  progressWeight : K
  retrievalK : ℤ
  taskFeatureSource : TaskFeatureSource
  taskFeatureDim : ℤ
  taskFeatureKey : String

/-! ## Rows -/

/-- One entry of each of the stacked lists. -/
structure DatasetRow (K : Type) where
  obsFeatures : List (PyFloat K)
  actionChunk : List (List (PyFloat K))
  target : PyFloat K
  episodeIndex : ℕ
  frameIndex : ℕ
  taskFeatures : Option (Tensor (PyFloat K))

/-- `range(0, length - horizon + 1, stride)` for a length not below the horizon. -/
def chunkStarts (length horizon stride : ℕ) : List ℕ :=
  (List.range ((length - horizon) / stride + 1)).map (· * stride)

section Build

variable [Field K] [LinearOrder K]

def DatasetConfig.check (config : DatasetConfig K) : Except TensorError Unit := do
  if config.actionHorizon < 1 then
    throw (.valueError "action_horizon must be >= 1.")
  if config.stride < 1 then
    throw (.valueError "stride must be >= 1.")
  if config.successWeight < 0 ∨ config.progressWeight < 0 then
    throw (.valueError "success_weight and progress_weight must be non-negative.")
  if config.taskFeatureSource = .tokens ∧ config.taskFeatureDim < 1 then
    throw (.valueError "task_feature_dim must be >= 1 when task features are enabled.")

def episodeTaskFeatures (torch : TensorOps K) (config : DatasetConfig K) (episode : Episode K) :
    Except TensorError (Option (Tensor (PyFloat K))) :=
  match config.taskFeatureSource with
  | .none => .ok none
  | .tokens =>
      match episode.taskTokens, episode.taskAttentionMask with
      | some tokens, some mask => do
          let features ← hashTokenFeatures torch.sqrt tokens (some mask) config.taskFeatureDim true
          return some (features.map PyFloat.finite).squeeze
      | _, _ => .error (.valueError ("Episodes must contain task_tokens and task_attention_mask " ++
          "when task_feature_source='tokens'."))
  | .episode | .vlmHidden =>
      match episode.taskFeatures with
      | some features => .ok (some (.vector features.flatten))
      | none => .error (.valueError ("Episodes must contain '" ++ config.taskFeatureKey ++
          "' when task_feature_source=" ++ config.taskFeatureSource.repr ++ "."))

/-- `clamp(0.0, 1.0)` -/
def clampFloat : PyFloat K → PyFloat K
  | .finite value => .finite (clampUnit value)
  | .posInf => .finite 1
  | .negInf => .finite 0
  | .nan => .nan

/-- `1.0e-6` -/
def weightFloor : K := ((1000000 : ℕ) : K)⁻¹

def blend (config : DatasetConfig K) (target : K) (progress : PyFloat K) : PyFloat K :=
  match clampFloat progress with
  | .finite value =>
      let totalWeight := max (config.successWeight + config.progressWeight) weightFloor
      .finite (clampUnit ((config.successWeight * target + config.progressWeight * value) /
        totalWeight))
  | _ => .nan

def episodeTargets (config : DatasetConfig K) (episode : Episode K) (retrieved returns : List K) :
    Except TensorError (List (PyFloat K)) :=
  match config.targetMode, episode.progress with
  | .progressBlend, some progress =>
      let values := progress.flatten
      if values.length ≠ returns.length then
        .error (.valueError ("'" ++ config.progressKey ++ "' must have the same length as " ++
          "success, got " ++ toString values.length ++ " and " ++ toString returns.length ++ "."))
      else .ok (List.zipWith (blend config) returns values)
  | .retrievalProgressBlend, _ =>
      .ok (List.zipWith (blend config) returns (retrieved.map PyFloat.finite))
  | _, _ => .ok (returns.map PyFloat.finite)

def chunkRow (config : DatasetConfig K) (episodeIndex : ℕ) (states actions : Grid (PyFloat K))
    (targets : List (PyFloat K)) (taskFeatures : Option (Tensor (PyFloat K))) (start : ℕ) :
    DatasetRow K where
  obsFeatures := states.rows.getD start []
  actionChunk := (actions.rows.drop start).take config.actionHorizon.toNat
  target := targets.getD start .nan
  episodeIndex
  frameIndex := start
  taskFeatures

def episodeRows (torch : TensorOps K) (config : DatasetConfig K) (episodeIndex : ℕ)
    (episode : Episode K) (retrieved : List K) : Except TensorError (List (DatasetRow K)) := do
  let states ← episode.obs.as2d config.obsKey
  let actions ← episode.action.as2d config.actionKey
  let successes := episode.success.flatten
  let taskFeatures ← episodeTaskFeatures torch config episode
  let length := actions.rows.length
  if states.rows.length ≠ length ∨ states.rows.length ≠ successes.length then
    throw (.valueError "state, action, and success tensors must have the same first dimension.")
  if (length : ℤ) < config.actionHorizon then
    return []
  let returns ← successToGoTargets config.gamma successes
  let targets ← episodeTargets config episode retrieved returns
  return (chunkStarts length config.actionHorizon.toNat config.stride.toNat).map
    (chunkRow config episodeIndex states actions targets taskFeatures)

/-- `retrieval_progress`, which the other modes do not compute. -/
def retrievedFor (torch : TensorOps K) (config : DatasetConfig K) (episodes : List (Episode K)) :
    Except TensorError (List (List K)) :=
  if config.targetMode = .retrievalProgressBlend then
    retrievalProgressTargets torch config.obsKey config.gamma config.retrievalK episodes
  else .ok (episodes.map fun _ => [])

def collectRows (torch : TensorOps K) (config : DatasetConfig K) (episodes : List (Episode K))
    (retrieved : List (List K)) : Except TensorError (List (DatasetRow K)) := do
  let rows ← (episodes.zipIdx.zip retrieved).mapM fun entry =>
    episodeRows torch config entry.1.2 entry.1.1 entry.2
  return rows.flatten

def stackRows (config : DatasetConfig K) (rows : List (DatasetRow K)) :
    Except TensorError Unit := do
  stack (rows.map fun row => [row.obsFeatures.length])
  stack (rows.map fun row => [row.actionChunk.length, (row.actionChunk.headD []).length])
  if config.taskFeatureSource ≠ .none then
    stack (rows.map fun row => (row.taskFeatures.map Tensor.shape).getD [])

/-- `build_action_chunk_dataset`; the lists of the dataset are kept as one list of rows. -/
def buildActionChunkDataset (torch : TensorOps K) (config : DatasetConfig K)
    (episodes : List (Episode K)) : Except TensorError (List (DatasetRow K)) := do
  config.check
  let retrieved ← retrievedFor torch config episodes
  let rows ← collectRows torch config episodes retrieved
  if rows.isEmpty then
    throw (.valueError
      "No action chunks were produced. Check horizon, stride, and rollout length.")
  stackRows config rows
  return rows

end Build

/-! ## Split -/

/-- What `split_indices_by_episode` returns. -/
structure SplitIndices where
  train : List ℕ
  validation : List ℕ
  deriving DecidableEq

/-- `torch.unique(episode_indices, sorted=True)` -/
def uniqueSorted (episodeIndices : List ℤ) : List ℤ := episodeIndices.dedup.insertionSort (· ≤ ·)

section Split

variable [Field K] [LinearOrder K] [FloorRing K]

/-- `int(count * val_fraction)`, at least one and less than all. -/
def validationCount (valFraction : K) (count : ℕ) : ℕ :=
  max 1 (min ⌊(count : K) * valFraction⌋.toNat (count - 1))

/-- `split_indices_by_episode`; `randperm` is the permutation the generator draws. -/
def splitIndicesByEpisode (valFraction : K) (randperm : ℕ → List ℕ) (episodeIndices : List ℤ) :
    Except TensorError SplitIndices :=
  if valFraction < 0 ∨ 1 ≤ valFraction then
    .error (.valueError "val_fraction must be in [0, 1).")
  else if episodeIndices = [] then .error (.valueError "episode_indices must not be empty.")
  else
    let allIndices := List.range episodeIndices.length
    let uniqueEpisodes := uniqueSorted episodeIndices
    if valFraction = 0 ∨ uniqueEpisodes.length < 2 then .ok ⟨allIndices, []⟩
    else
      let order := randperm uniqueEpisodes.length
      let valEpisodes := (order.take (validationCount valFraction uniqueEpisodes.length)).filterMap
        (uniqueEpisodes[·]?)
      let held := fun index => (episodeIndices[index]?).any valEpisodes.contains
      .ok ⟨allIndices.filter fun index => !held index, allIndices.filter held⟩

end Split

/-- `dataset["episode_indices"]` -/
def episodeIndices (dataset : List (DatasetRow K)) : List ℤ :=
  dataset.map fun row => (row.episodeIndex : ℤ)

structure TrainingRow (K : Type) where
  obsFeatures : List (PyFloat K)
  actionChunk : List (List (PyFloat K))
  target : PyFloat K

def DatasetRow.trainingRow (row : DatasetRow K) : TrainingRow K :=
  ⟨row.obsFeatures, row.actionChunk, row.target⟩

def rowsAt (dataset : List (DatasetRow K)) (indices : List ℕ) : List (TrainingRow K) :=
  indices.filterMap fun index => (dataset[index]?).map DatasetRow.trainingRow

end SmolVlaQgf.CriticDataset
