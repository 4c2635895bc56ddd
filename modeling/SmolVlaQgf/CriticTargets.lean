import SmolVlaQgf.ExactFloats
import SmolVlaQgf.Tensors
import Mathlib.Algebra.BigOperators.Group.List.Basic

/-!
# Targets of the critic

`success_to_go_targets` discounts the distance to the next success; the retrieval targets
of an episode average these over the nearest states of successful episodes. States are
floats whose arithmetic in torch is a parameter; success-to-go targets are exact numbers.
-/

namespace SmolVlaQgf.CriticTargets
open ExactFloats Tensors

variable {K : Type}

/-! ## Episodes -/

/-- `_episode_task_key` -/
structure TaskKey where
  taskGroup : Option String
  taskId : Option ℤ
  task : Option String
  deriving DecidableEq

structure Episode (K : Type) where
  obs : Tensor (PyFloat K)
  action : Tensor (PyFloat K)
  success : Tensor Bool
  progress : Option (Tensor (PyFloat K))
  taskKey : TaskKey
  taskTokens : Option (Tensor ℤ)
  taskAttentionMask : Option (Tensor Bool)
  taskFeatures : Option (Tensor (PyFloat K))

/-! ## Success to go -/

/-- `torch.nonzero(successes).flatten()` -/
def successIndices (successes : List Bool) : List ℕ :=
  (successes.zipIdx.filter Prod.fst).map Prod.snd

section Targets

variable [Field K] [LinearOrder K]

/-- The target of a step, before the steps from the first success on are set to one. -/
def discountedDistance (gamma : K) (indices : List ℕ) (step : ℕ) : K :=
  match indices.find? fun index => decide (step ≤ index) with
  | none => 0
  | some index => gamma ^ (index - step)

/-- `success_to_go_targets` -/
def successToGoTargets (gamma : K) (successes : List Bool) : Except TensorError (List K) :=
  if gamma < 0 ∨ 1 < gamma then .error (.valueError "gamma must be in [0, 1].")
  else
    match successIndices successes with
    | [] => .ok (successes.map fun _ => 0)
    | first :: rest => .ok ((List.range successes.length).map fun step =>
        if first ≤ step then 1 else discountedDistance gamma (first :: rest) step)

end Targets

/-! ## Retrieval -/

/-- The operations of torch on floats; `topk` returns the positions of the smallest values. -/
structure TensorOps (K : Type) where
  sub : PyFloat K → PyFloat K → PyFloat K
  div : PyFloat K → PyFloat K → PyFloat K
  mean : List (PyFloat K) → PyFloat K
  std : List (PyFloat K) → PyFloat K
  clampMinimum : PyFloat K → PyFloat K
  cdist : List (PyFloat K) → List (PyFloat K) → PyFloat K
  topk : List (PyFloat K) → ℕ → List ℕ
  sqrt : K → K

/-- `topk` returns as many positions of its list as it is asked for. -/
structure TensorOps.Documented (torch : TensorOps K) : Prop where
  length : ∀ values n, n ≤ values.length → (torch.topk values n).length = n
  bound : ∀ values n, n ≤ values.length → ∀ i ∈ torch.topk values n, i < values.length

/-- What the retrieval reads of an episode, with its success-to-go targets. -/
structure Rollout (K : Type) where
  taskKey : TaskKey
  states : Grid (PyFloat K)
  successes : List Bool
  returns : List K

/-- States of successful episodes and their values. -/
structure Bank (K : Type) where
  states : Grid (PyFloat K)
  values : List K

/-- `torch.cat` of the states and of the values. -/
def bankOf (rollouts : List (Rollout K)) : Except TensorError (Bank K) := do
  let states ← cat (rollouts.map (·.states))
  return ⟨states, rollouts.flatMap (·.returns)⟩

/-- `task_banks.get(task_key, global_bank)` -/
def taskBank (successful : List (Rollout K)) (globalBank : Bank K) (taskKey : TaskKey) :
    Except TensorError (Bank K) :=
  match successful.filter fun rollout => decide (rollout.taskKey = taskKey) with
  | [] => .ok globalBank
  | rollouts => bankOf rollouts

def columnOf {α : Type} (rows : List (List α)) (index : ℕ) : List α := rows.filterMap (·[index]?)

/-- A row and a row of statistics; a row of one entry is broadcast. -/
def broadcast (op : PyFloat K → PyFloat K → PyFloat K) (row statistics : List (PyFloat K)) :
    List (PyFloat K) :=
  match row with
  | [value] => statistics.map (op value)
  | row => List.zipWith op row statistics

/-- `(states - mean) / std`; `cdist` needs the width of the bank. -/
def normalizeStates (torch : TensorOps K) (mean std : List (PyFloat K))
    (states : Grid (PyFloat K)) : Except TensorError (List (List (PyFloat K))) :=
  if states.width = mean.length ∨ states.width = 1 then
    .ok (states.rows.map fun row => broadcast torch.div (broadcast torch.sub row mean) std)
  else .error .runtimeError

section Progress

variable [Field K] [LinearOrder K]

/-- `clamp(0.0, 1.0)` of an exact number. -/
def clampUnit (value : K) : K := min (max value 0) 1

/-- `bank_values[nearest].mean(dim=1).clamp(0.0, 1.0)` of one row. -/
def nearestValue (values : List K) (nearest : List ℕ) : Except TensorError K :=
  if nearest.all fun index => decide (index < values.length) then
    .ok (clampUnit ((nearest.map fun index => values.getD index 0).sum / (nearest.length : K)))
  else .error .runtimeError

def bankProgress (torch : TensorOps K) (k : ℤ) (bank : Bank K) (states : Grid (PyFloat K)) :
    Except TensorError (List K) := do
  let columns := (List.range bank.states.width).map (columnOf bank.states.rows)
  let mean := columns.map torch.mean
  let std := columns.map fun column => torch.clampMinimum (torch.std column)
  let rows ← normalizeStates torch mean std states
  let bankRows ← normalizeStates torch mean std bank.states
  let nearestCount := min k.toNat bank.values.length
  if bankRows.length < nearestCount then
    throw .runtimeError
  rows.mapM fun row =>
    nearestValue bank.values (torch.topk (bankRows.map (torch.cdist row)) nearestCount)

/-- `retrieval_progress_targets`, once the episodes have been read. -/
def retrievalProgress (torch : TensorOps K) (k : ℤ) (rollouts : List (Rollout K)) :
    Except TensorError (List (List K)) :=
  match rollouts.filter fun rollout => rollout.successes.any id with
  | [] => .ok (rollouts.map fun rollout => rollout.states.rows.map fun _ => 0)
  | successful => do
      let globalBank ← bankOf successful
      rollouts.mapM fun rollout => do
        let bank ← taskBank successful globalBank rollout.taskKey
        bankProgress torch k bank rollout.states

/-- `retrieval_progress_targets` -/
def retrievalProgressTargets (torch : TensorOps K) (obsKey : String) (gamma : K) (k : ℤ)
    (episodes : List (Episode K)) : Except TensorError (List (List K)) := do
  if k < 1 then
    throw (.valueError "k must be >= 1.")
  let states ← episodes.mapM fun episode => episode.obs.as2d obsKey
  let returns ← episodes.mapM fun episode => successToGoTargets gamma episode.success.flatten
  let rollouts := List.zipWith (fun episode (read : Grid (PyFloat K) × List K) =>
    (⟨episode.taskKey, read.1, episode.success.flatten, read.2⟩ : Rollout K)) episodes
    (states.zip returns)
  retrievalProgress torch k rollouts

end Progress

end SmolVlaQgf.CriticTargets
