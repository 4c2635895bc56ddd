import Mathlib.Algebra.BigOperators.Group.Finset.Basic
import Mathlib.Algebra.Order.Field.Basic
import Mathlib.Data.Fintype.BigOperators

/-!
# Guidance of the flow by a critic

`q_guided_velocity_smolvla_reverse_time` estimates the clean action of every example, asks the
critics for their values there, and subtracts a clipped and gated gradient of the mean value from
the velocity. A chunk is indexed by its middle axes and by the action dimension. The derivative
that autograd returns is a parameter.
-/

namespace SmolVlaQgf.QGuidance

variable {ι K : Type}

/-! ## Inputs -/

structure QGuidanceConfig (K : Type) where
  beta : K
  gradClipNorm : Option K
  uncertaintyScale : K
  minGate : K

def QGuidanceConfig.default [Field K] : QGuidanceConfig K where
  beta := ((10 : ℕ) : K)
  gradClipNorm := some 1
  uncertaintyScale := 0
  minGate := 0

inductive GuidanceError where
  | valueError (message : String)
  | runtimeError (message : String)
  deriving DecidableEq

abbrev Chunk (ι K : Type) (d : ℕ) := ι × Fin d → K

abbrev Batch (ι K : Type) (n d : ℕ) := Fin n → Chunk ι K d

/-- The keyword arguments of a critic; `task_features` is passed on only if there are any. -/
structure CriticInputs (ι K : Type) (n d : ℕ) where
  obsFeatures : Fin n → List K
  actionChunk : Batch ι K n d
  proprio : Option (Fin n → List K)
  taskFeatures : Option (Fin n → List K)

/-- A critic takes batches of any size and chunks of any width. -/
structure Critic (ι K : Type) where
  call : {n d : ℕ} → CriticInputs ι K n d → Fin n → K

inductive CriticArgument (ι K : Type) where
  | single (critic : Critic ι K)
  | ensemble (critics : List (Critic ι K))

/-- `time_t`: a number or tensor of rank zero, a tensor of rank one, or a tensor of higher rank as
it is broadcast to the actions. -/
inductive TimeTensor (ι K : Type) (n d : ℕ) where
  | scalar (time : K)
  | examples (times : Fin n → K)
  | entries (times : Batch ι K n d)

/-- The arguments with one entry for each example. -/
structure StepInputs (ι K : Type) (n d : ℕ) where
  obsFeatures : Fin n → List K
  actionT : Batch ι K n d
  velocityT : Batch ι K n d
  timeT : TimeTensor ι K n d
  proprio : Option (Fin n → List K)
  taskFeatures : Option (Fin n → List K)

/-- The functions of torch that are no arithmetic; `grad` is `torch.autograd.grad` of a value
with respect to a batch. -/
structure TorchOps (ι K : Type) where
  exp : K → K
  sqrt : K → K
  grad : {n d : ℕ} → (Batch ι K n d → K) → Batch ι K n d → Batch ι K n d

structure Diagnostics (K : Type) where
  qValueMean : K
  qValueStdMean : K
  qEnsembleSize : K
  qGateMean : K
  qGradNormRawMean : K
  qGradNormMean : K
  qGuidanceNormMean : K

structure Guided (ι K : Type) (n d : ℕ) where
  velocity : Batch ι K n d
  diagnostics : Diagnostics K

/-! ## Critics -/

/-- `_as_critic_list` -/
def asCriticList : CriticArgument ι K → Except GuidanceError (List (Critic ι K))
  | .single critic => .ok [critic]
  | .ensemble [] => .error (.valueError "At least one critic is required.")
  | .ensemble critics => .ok critics

def criticWidth (d : ℕ) : Option ℤ → Except GuidanceError {width : ℕ // width ≤ d}
  | none => .ok ⟨d, le_rfl⟩
  | some dim =>
      if h : dim < 1 ∨ d < dim then
        .error (.valueError "critic_action_dim must be within the action dimension.")
      else .ok ⟨dim.toNat, by omega⟩

/-- `clean_action[..., :critic_action_dim]` -/
def slice {d : ℕ} (width : {width : ℕ // width ≤ d}) (chunk : Chunk ι K d) : Chunk ι K width.1 :=
  fun entry => chunk (entry.1, Fin.castLE width.2 entry.2)

section Guidance

variable {n d : ℕ} [Field K] [LinearOrder K]

/-- `_time_like` -/
def timeLike : TimeTensor ι K n d → Batch ι K n d
  | .scalar time => fun _ _ => time
  | .examples times => fun b _ => times b
  | .entries times => times

/-- `estimate_clean_action_smolvla_reverse_time` -/
def estimateCleanAction (actionT velocityT : Batch ι K n d) (timeT : TimeTensor ι K n d) :
    Batch ι K n d :=
  fun b entry => actionT b entry - timeLike timeT b entry * velocityT b entry

/-- `q_values`, at a given clean action. -/
def qValues (critics : List (Critic ι K)) (inputs : StepInputs ι K n d)
    (width : {width : ℕ // width ≤ d}) (cleanAction : Batch ι K n d) : List (Fin n → K) :=
  critics.map fun critic => critic.call {
    obsFeatures := inputs.obsFeatures
    actionChunk := fun b => slice width (cleanAction b)
    proprio := inputs.proprio
    taskFeatures := inputs.taskFeatures }

def mean (values : List K) : K := values.sum / values.length

/-- `std(unbiased=False)` -/
def std (torch : TorchOps ι K) (values : List K) : K :=
  torch.sqrt (mean (values.map fun value => (value - mean values) ^ 2))

/-- `q_value` -/
def qValue (critics : List (Critic ι K)) (inputs : StepInputs ι K n d)
    (width : {width : ℕ // width ≤ d}) (cleanAction : Batch ι K n d) (b : Fin n) : K :=
  mean ((qValues critics inputs width cleanAction).map fun values => values b)

/-- `q_value_std` -/
def qValueStd (torch : TorchOps ι K) (critics : List (Critic ι K)) (inputs : StepInputs ι K n d)
    (width : {width : ℕ // width ≤ d}) (cleanAction : Batch ι K n d) (b : Fin n) : K :=
  if 1 < critics.length then
    std torch ((qValues critics inputs width cleanAction).map fun values => values b)
  else 0

/-! ## Clipping and gating -/

/-- `1.0e-6` -/
def normSlack : K := ((1000000 : ℕ) : K)⁻¹

variable [Fintype ι]

/-- `reshape(shape[0], -1).norm(dim=-1)` of one example. -/
def norm (torch : TorchOps ι K) (chunk : Chunk ι K d) : K :=
  torch.sqrt (∑ entry, chunk entry ^ 2)

/-- The gradient of one example after clipping. -/
def clip (torch : TorchOps ι K) (config : QGuidanceConfig K) (grad : Chunk ι K d) :
    Chunk ι K d :=
  match config.gradClipNorm with
  | none => grad
  | some maxNorm => fun entry => grad entry * min (maxNorm / (norm torch grad + normSlack)) 1

omit [Fintype ι] in
def gate (torch : TorchOps ι K) (config : QGuidanceConfig K) (qValueStd : K) : K :=
  if 0 < config.uncertaintyScale then
    min (max (torch.exp (-config.uncertaintyScale * qValueStd)) config.minGate) 1
  else 1

omit [Fintype ι] in
def QGuidanceConfig.check (config : QGuidanceConfig K) : Except GuidanceError Unit := do
  if config.beta ≤ 0 then
    throw (.valueError "QGuidanceConfig.beta must be positive.")
  if config.uncertaintyScale < 0 then
    throw (.valueError "QGuidanceConfig.uncertainty_scale must be non-negative.")
  if config.minGate < 0 ∨ 1 < config.minGate then
    throw (.valueError "QGuidanceConfig.min_gate must be in [0, 1].")

def batchMean (values : Fin n → K) : K := (∑ b, values b) / n

/-- `q_guided_velocity_smolvla_reverse_time` -/
def qGuidedVelocity (torch : TorchOps ι K) (critic : CriticArgument ι K)
    (inputs : StepInputs ι K n d) (config : QGuidanceConfig K) (criticActionDim : Option ℤ) :
    Except GuidanceError (Guided ι K n d) := do
  config.check
  let cleanAction := estimateCleanAction inputs.actionT inputs.velocityT inputs.timeT
  let width ← criticWidth d criticActionDim
  let critics ← asCriticList critic
  let values := qValue critics inputs width cleanAction
  let stds := qValueStd torch critics inputs width cleanAction
  let grad := torch.grad (fun chunks => ∑ b, qValue critics inputs width chunks b) cleanAction
  let clipped := fun b => clip torch config (grad b)
  let gates := fun b => gate torch config (stds b)
  let gated := fun b entry => clipped b entry * gates b
  let guidedVelocity := fun b entry => inputs.velocityT b entry - gated b entry / config.beta
  let guidanceDelta := fun b entry => inputs.velocityT b entry - guidedVelocity b entry
  return {
    velocity := guidedVelocity
    diagnostics := {
      qValueMean := batchMean values
      qValueStdMean := batchMean stds
      qEnsembleSize := critics.length
      qGateMean := batchMean gates
      qGradNormRawMean := batchMean fun b => norm torch (grad b)
      qGradNormMean := batchMean fun b => norm torch (clipped b)
      qGuidanceNormMean := batchMean fun b => norm torch (guidanceDelta b) } }

/-! ## The processor -/

/-- What `SmolVLAQGFProcessor` keeps between denoising steps of one batch. -/
structure Processor (ι K : Type) (n : ℕ) where
  critic : CriticArgument ι K
  config : QGuidanceConfig K
  criticActionDim : ℤ
  obsFeatures : Option (Fin n → List K)
  taskFeatures : Option (Fin n → List K)
  diagnostics : List (Diagnostics K)

/-- `denoise_step` -/
def denoiseStep (torch : TorchOps ι K) (processor : Processor ι K n) (xT : Batch ι K n d)
    (time : TimeTensor ι K n d) (originalDenoiseStepPartial : Batch ι K n d → Batch ι K n d) :
    Except GuidanceError (Batch ι K n d × Processor ι K n) :=
  match processor.obsFeatures with
  | none => .error (.runtimeError "QGF obs_features were not set before denoise_step().")
  | some obsFeatures => do
      let guided ← qGuidedVelocity torch processor.critic {
        obsFeatures := obsFeatures
        actionT := xT
        velocityT := originalDenoiseStepPartial xT
        timeT := time
        proprio := none
        taskFeatures := processor.taskFeatures } processor.config (some processor.criticActionDim)
      return (guided.velocity,
        { processor with diagnostics := processor.diagnostics ++ [guided.diagnostics] })

end Guidance

end SmolVlaQgf.QGuidance
