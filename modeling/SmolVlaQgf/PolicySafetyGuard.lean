import SmolVlaQgf.DecimalText
import SmolVlaQgf.ExactFloats

/-!
# The pure safety guard for one-arm actions

The ROS-independent checks of `smolvla_guard.py`: the validated safety
configuration, the canonical coordinates of the wraparound joints, the start-pose
check and the guard on predicted targets. Angles are exact numbers of an ordered
field and the full turn is a parameter, so the axes that are reported modulo one
turn are treated without rounding error.
-/

namespace SmolVlaQgf.PolicySafetyGuard
open ExactFloats PeriodicRepresentatives DecimalText

/-- `JOINT_COUNT` -/
abbrev jointCount : ℕ := 7

def firstJoint : Fin jointCount := 0

/-- `ACTION_DIM` -/
abbrev actionDim : ℕ := 8

/-- The value of `TAU`, a full turn. -/
structure FullTurn (K : Type) [Zero K] [LT K] where
  tau : K
  tau_pos : 0 < tau

/-- A joint that fails the start-pose check: its number, value and allowed bounds. -/
structure OutsideJoint (K : Type) where
  joint : ℕ
  actual : K
  lower : K
  upper : K

/-- `PolicySafetyError`, with the values its message interpolates. -/
inductive PolicySafetyError (K : Type) where
  | wrongLength (name : String) (expected : ℕ)
  | notFinite (name : String)
  | outsideStartEnvelope (outside : List (OutsideJoint K))
  | outsideTaskEnvelope (joint : ℕ) (target : K)
  | targetError (joint : ℕ) (error limit : K)
  | stated (message : String)

section Messages

variable {K : Type} [Field K] [LinearOrder K] [FloorRing K]

def OutsideJoint.describe (j : OutsideJoint K) : String :=
  toString j.joint ++ " (actual=" ++ String.ofList (fixedPoint 6 j.actual) ++ ", allowed=[" ++
    String.ofList (fixedPoint 6 j.lower) ++ ", " ++ String.ofList (fixedPoint 6 j.upper) ++ "])"

/-- `str(exc)` -/
def PolicySafetyError.message : PolicySafetyError K → String
  | .wrongLength name expected =>
      name ++ " must contain exactly " ++ toString expected ++ " values"
  | .notFinite name => name ++ " contains NaN or infinity"
  | .outsideStartEnvelope outside =>
      "initial pose is outside the demonstrated start envelope on joints " ++
        ", ".intercalate (outside.map OutsideJoint.describe)
  | .outsideTaskEnvelope joint target =>
      "joint " ++ toString joint ++ " target " ++ String.ofList (fixedPoint 4 target) ++
        " is outside the demonstrated task envelope"
  | .targetError joint error limit =>
      "joint " ++ toString joint ++ " target error " ++ String.ofList (signedFixedPoint 4 error) ++
        " rad exceeds " ++ String.ofList (fixedPoint 4 limit) ++ " rad"
  | .stated message => message

end Messages

/-! ## Configuration -/

section Configuration

variable {K : Type} [Field K] [LinearOrder K]

/-- `PolicySafetyConfig` after `__post_init__` has accepted it. -/
structure PolicySafetyConfig (K : Type) [Field K] [LinearOrder K] where
  taskLower : Fin jointCount → K
  taskUpper : Fin jointCount → K
  initialLower : Fin jointCount → K
  initialUpper : Fin jointCount → K
  maxTargetErrorRad : K
  joint2MaxTargetErrorRad : K
  initialEnvelopeOvershootRad : K
  smallEnvelopeOvershootRad : K
  gripperOpenThreshold : K
  gripperCloseThreshold : K
  wraparoundJointIndices : List (Fin jointCount)
  task_lower_lt_upper : ∀ i, taskLower i < taskUpper i
  initial_lower_lt_upper : ∀ i, initialLower i < initialUpper i
  maxTargetErrorRad_pos : 0 < maxTargetErrorRad
  joint2MaxTargetErrorRad_pos : 0 < joint2MaxTargetErrorRad
  initialEnvelopeOvershootRad_nonneg : 0 ≤ initialEnvelopeOvershootRad
  smallEnvelopeOvershootRad_nonneg : 0 ≤ smallEnvelopeOvershootRad
  thresholds : 0 ≤ gripperOpenThreshold ∧ gripperOpenThreshold < gripperCloseThreshold ∧
    gripperCloseThreshold ≤ 1
  wraparound_nodup : wraparoundJointIndices.Nodup

/-- The fields a `PolicySafetyConfig` is constructed from, with their defaults. -/
structure PolicySafetyFields (K : Type) [Field K] where
  taskLower : List (PyFloat K)
  taskUpper : List (PyFloat K)
  initialLower : List (PyFloat K)
  initialUpper : List (PyFloat K)
  maxTargetErrorRad : PyFloat K := .finite (1 / 4)
  joint2MaxTargetErrorRad : PyFloat K := .finite (1 / 4)
  initialEnvelopeOvershootRad : PyFloat K := .finite 0
  smallEnvelopeOvershootRad : K := 3 / 100
  gripperOpenThreshold : PyFloat K := .finite (3 / 20)
  gripperCloseThreshold : PyFloat K := .finite (17 / 20)
  wraparoundJointIndices : List ℤ := [0, 2, 4, 6]

/-- Raise a `ValueError` with the message unless the condition holds. -/
def require (condition : Prop) [Decidable condition] (message : String) :
    Except String (PLift condition) :=
  if h : condition then .ok ⟨h⟩ else .error message

def sevenFinite (name : String) (values : List (PyFloat K)) :
    Except String (Fin jointCount → K) :=
  if h : values.length = jointCount ∧ values.all PyFloat.isFinite then
    .ok fun i => (values.get (i.cast h.1.symm)).exact
  else .error (name ++ " must contain seven finite values")

structure PositiveValue (K : Type) [Field K] [LinearOrder K] where
  value : K
  pos : 0 < value

structure NonnegativeValue (K : Type) [Field K] [LinearOrder K] where
  value : K
  nonneg : 0 ≤ value

structure OrderedThresholds (K : Type) [Field K] [LinearOrder K] where
  low : K
  high : K
  ordered : 0 ≤ low ∧ low < high ∧ high ≤ 1

/-- `not math.isfinite(value) or value <= 0` is an error. -/
def positive (value : PyFloat K) (message : String) : Except String (PositiveValue K) :=
  if h : value.isFinite ∧ 0 < value.exact then .ok ⟨value.exact, h.2⟩ else .error message

/-- `not math.isfinite(value) or value < 0` is an error. -/
def nonnegative (value : PyFloat K) (message : String) : Except String (NonnegativeValue K) :=
  if h : value.isFinite ∧ 0 ≤ value.exact then .ok ⟨value.exact, h.2⟩ else .error message

/-- `not 0 <= low < high <= 1` is an error; no infinity or NaN passes it. -/
def orderedThresholds (low high : PyFloat K) (message : String) :
    Except String (OrderedThresholds K) :=
  if h : (low.isFinite ∧ high.isFinite) ∧ 0 ≤ low.exact ∧ low.exact < high.exact ∧ high.exact ≤ 1
  then .ok ⟨low.exact, high.exact, h.2⟩ else .error message

/-- `value < 0` is an error. -/
def notNegative (value : K) (message : String) : Except String (NonnegativeValue K) :=
  if h : 0 ≤ value then .ok ⟨value, h⟩ else .error message

/-- The wraparound indices, checked to be unique and then to be joints. -/
def jointIndices (indices : List ℤ) : Except String {l : List (Fin jointCount) // l.Nodup} :=
  if hunique : indices.Nodup then
    if hrange : ∀ index ∈ indices, 0 ≤ index ∧ index < jointCount then
      .ok ⟨indices.attach.map fun index =>
          ⟨index.val.toNat, by have := hrange index.val index.property; omega⟩, by
        refine (List.nodup_attach.mpr hunique).map_on fun a _ b _ hab => ?_
        have ha := hrange a.val a.property
        have hb := hrange b.val b.property
        have hval : a.val.toNat = b.val.toNat := congrArg Fin.val hab
        exact Subtype.ext (by omega)⟩
    else .error "wraparound joint indices must be in [0, 6]"
  else .error "wraparound joint indices must be unique"

/-- `__post_init__`: the checks in the order the constructor makes them. -/
def postInit (fields : PolicySafetyFields K) : Except String (PolicySafetyConfig K) := do
  let taskLower ← sevenFinite "task_lower" fields.taskLower
  let taskUpper ← sevenFinite "task_upper" fields.taskUpper
  let initialLower ← sevenFinite "initial_lower" fields.initialLower
  let initialUpper ← sevenFinite "initial_upper" fields.initialUpper
  let ⟨htask⟩ ← require (∀ i, taskLower i < taskUpper i)
    "each task lower limit must be below its upper limit"
  let ⟨hinitial⟩ ← require (∀ i, initialLower i < initialUpper i)
    "each initial lower limit must be below its upper limit"
  let maxError ← positive fields.maxTargetErrorRad "max_target_error_rad must be positive"
  let joint2Error ← positive fields.joint2MaxTargetErrorRad
    "joint2_max_target_error_rad must be positive"
  let initialOvershoot ← nonnegative fields.initialEnvelopeOvershootRad
    "initial_envelope_overshoot_rad cannot be negative"
  let smallOvershoot ← notNegative fields.smallEnvelopeOvershootRad
    "small_envelope_overshoot_rad cannot be negative"
  let thresholds ← orderedThresholds fields.gripperOpenThreshold fields.gripperCloseThreshold
    "gripper thresholds must satisfy 0 <= open < close <= 1"
  let wraparound ← jointIndices fields.wraparoundJointIndices
  return {
    taskLower, taskUpper, initialLower, initialUpper
    maxTargetErrorRad := maxError.value
    joint2MaxTargetErrorRad := joint2Error.value
    initialEnvelopeOvershootRad := initialOvershoot.value
    smallEnvelopeOvershootRad := smallOvershoot.value
    gripperOpenThreshold := thresholds.low
    gripperCloseThreshold := thresholds.high
    wraparoundJointIndices := wraparound
    task_lower_lt_upper := htask
    initial_lower_lt_upper := hinitial
    maxTargetErrorRad_pos := maxError.pos
    joint2MaxTargetErrorRad_pos := joint2Error.pos
    initialEnvelopeOvershootRad_nonneg := initialOvershoot.nonneg
    smallEnvelopeOvershootRad_nonneg := smallOvershoot.nonneg
    thresholds := thresholds.ordered
    wraparound_nodup := wraparound.property }

end Configuration

/-! ## Checks on tuples and joint coordinates -/

section Guard

variable {K : Type} [Field K] [LinearOrder K]

/-- `_finite_tuple` -/
def finiteTuple (values : List (PyFloat K)) (expected : ℕ) (name : String) :
    Except (PolicySafetyError K) (Fin expected → K) :=
  if hlength : values.length = expected then
    if values.all PyFloat.isFinite then .ok fun i => (values.get (i.cast hlength.symm)).exact
    else .error (.notFinite name)
  else .error (.wrongLength name expected)

omit [LinearOrder K] in
/-- What `_finite_tuple` makes of a tuple of the expected length. -/
theorem finiteTuple_ofFn {n : ℕ} (values : Fin n → PyFloat K) (name : String) :
    finiteTuple (List.ofFn values) n name =
      if ∀ i, (values i).isFinite then .ok fun i => (values i).exact
      else .error (.notFinite name) := by
  have hall : (List.ofFn values).all PyFloat.isFinite = true ↔ ∀ i, (values i).isFinite := by
    rw [List.all_eq_true, List.forall_mem_ofFn_iff]
  rw [finiteTuple, dif_pos List.length_ofFn]
  by_cases h : ∀ i, (values i).isFinite
  · rw [if_pos (hall.mpr h), if_pos h]
    exact congrArg Except.ok (funext fun i => congrArg PyFloat.exact (get_ofFn_cast values _ i))
  · rw [if_neg (mt hall.mp h), if_neg h]

omit [LinearOrder K] in
@[simp] theorem finiteTuple_floats {n : ℕ} (values : Fin n → K) (name : String) :
    finiteTuple (floats values) n name = .ok values := by
  rw [floats, finiteTuple_ofFn]
  exact if_pos fun _ => rfl

variable [FloorRing K]

/-- `_equivalent_angle_in_interval` -/
def equivalentAngleInInterval (turn : FullTurn K) (value lower upper : K) : Option K :=
  let candidate := leastRepresentative turn.tau value lower
  if candidate ≤ upper then some candidate else none

/-- One axis of `canonicalize_joints_for_envelope`. -/
def canonicalJoint (turn : FullTurn K) (lower upper : Fin jointCount → K)
    (wraparound : List (Fin jointCount)) (joints : Fin jointCount → K) (index : Fin jointCount) :
    K :=
  if wraparound.contains index then
    nearestRepresentative turn.tau (joints index) (intervalCenter (lower index) (upper index))
  else joints index

/-- `canonicalize_joints_for_envelope` -/
def canonicalizeJointsForEnvelope (turn : FullTurn K) (joints lower upper : List (PyFloat K))
    (wraparound : List (Fin jointCount)) :
    Except (PolicySafetyError K) (Fin jointCount → K) := do
  let checked ← finiteTuple joints jointCount "joint state"
  let lowerChecked ← finiteTuple lower jointCount "joint lower envelope"
  let upperChecked ← finiteTuple upper jointCount "joint upper envelope"
  return canonicalJoint turn lowerChecked upperChecked wraparound checked

@[simp] theorem canonicalizeJointsForEnvelope_floats (turn : FullTurn K)
    (joints lower upper : Fin jointCount → K) (wraparound : List (Fin jointCount)) :
    canonicalizeJointsForEnvelope turn (floats joints) (floats lower) (floats upper) wraparound =
      .ok (canonicalJoint turn lower upper wraparound joints) := by
  simp [canonicalizeJointsForEnvelope, bind, Except.bind, pure, Except.pure]

/-- One axis of `controller_targets_near_measured_joints`. -/
def controllerTarget (turn : FullTurn K) (wraparound : List (Fin jointCount))
    (targets measured : Fin jointCount → K) (index : Fin jointCount) : K :=
  if wraparound.contains index then
    nearestRepresentative turn.tau (targets index) (measured index)
  else targets index

/-- `controller_targets_near_measured_joints` -/
def controllerTargetsNearMeasuredJoints (turn : FullTurn K)
    (canonicalTargets measuredJoints : List (PyFloat K)) (wraparound : List (Fin jointCount)) :
    Except (PolicySafetyError K) (Fin jointCount → K) := do
  let targets ← finiteTuple canonicalTargets jointCount "canonical targets"
  let measured ← finiteTuple measuredJoints jointCount "measured joints"
  return controllerTarget turn wraparound targets measured

@[simp] theorem controllerTargetsNearMeasuredJoints_floats (turn : FullTurn K)
    (targets measured : Fin jointCount → K) (wraparound : List (Fin jointCount)) :
    controllerTargetsNearMeasuredJoints turn (floats targets) (floats measured) wraparound =
      .ok (controllerTarget turn wraparound targets measured) := by
  simp [controllerTargetsNearMeasuredJoints, bind, Except.bind, pure, Except.pure]

/-- `state[:JOINT_COUNT]` -/
def jointsOf {α : Type} (values : Fin actionDim → α) : Fin jointCount → α :=
  fun i => values i.castSucc

/-- `state[-1]` -/
def gripperOf {α : Type} (values : Fin actionDim → α) : α := values (Fin.last jointCount)

/-- `(*joints, gripper)` -/
def withGripper {α : Type} (joints : Fin jointCount → α) (gripper : α) : Fin actionDim → α :=
  Fin.snoc (α := fun _ => α) joints gripper

@[simp] theorem jointsOf_withGripper {α : Type} (joints : Fin jointCount → α) (gripper : α) :
    jointsOf (withGripper joints gripper) = joints := by
  funext i
  simp [jointsOf, withGripper]

@[simp] theorem gripperOf_withGripper {α : Type} (joints : Fin jointCount → α) (gripper : α) :
    gripperOf (withGripper joints gripper) = gripper := by
  simp [gripperOf, withGripper]

/-! ## Start pose -/

/-- `validate_initial_pose` -/
def validateInitialPose (turn : FullTurn K) (state : List (PyFloat K))
    (config : PolicySafetyConfig K) (requireOpenGripper : Bool) :
    Except (PolicySafetyError K) (Fin actionDim → K) := do
  let checked ← finiteTuple state actionDim "state"
  let joints ← canonicalizeJointsForEnvelope turn (floats (jointsOf checked))
    (floats config.initialLower) (floats config.initialUpper) config.wraparoundJointIndices
  let tolerance := config.initialEnvelopeOvershootRad
  let effectiveLower := fun i => config.initialLower i - tolerance
  let effectiveUpper := fun i => config.initialUpper i + tolerance
  let outside := (List.finRange jointCount).filter fun i =>
    joints i < effectiveLower i ∨ effectiveUpper i < joints i
  if outside ≠ [] then
    throw (.outsideStartEnvelope (outside.map fun i =>
      ⟨i.val + 1, joints i, effectiveLower i, effectiveUpper i⟩))
  if requireOpenGripper ∧ config.gripperCloseThreshold ≤ gripperOf checked then
    throw (.stated "initial gripper state is closed; the demonstrations start open")
  return withGripper joints (gripperOf checked)

/-! ## Guard -/

def targetErrorLimit (config : PolicySafetyConfig K) (index : Fin jointCount) : K :=
  if index = 1 then config.joint2MaxTargetErrorRad else config.maxTargetErrorRad

def envelopeTarget (turn : FullTurn K) (config : PolicySafetyConfig K) (index : Fin jointCount)
    (target : K) : K :=
  if config.wraparoundJointIndices.contains index then
    (equivalentAngleInInterval turn target
      (config.taskLower index - config.smallEnvelopeOvershootRad)
      (config.taskUpper index + config.smallEnvelopeOvershootRad)).getD target
  else target

/-- The body of the loop of `guard_policy_action`. -/
def guardJoint (turn : FullTurn K) (config : PolicySafetyConfig K) (index : Fin jointCount)
    (predicted current : K) : Except (PolicySafetyError K) K :=
  let lower := config.taskLower index
  let upper := config.taskUpper index
  let target := envelopeTarget turn config index predicted
  if target < lower - config.smallEnvelopeOvershootRad ∨
      upper + config.smallEnvelopeOvershootRad < target then
    .error (.outsideTaskEnvelope (index.val + 1) target)
  else
    let target := min (max target lower) upper
    let limit := targetErrorLimit config index
    if limit < |target - current| then
      .error (.targetError (index.val + 1) (target - current) limit)
    else .ok target

/-- The binary gripper command of `guard_policy_action`. -/
def guardGripper (config : PolicySafetyConfig K) (value : K) (previousClosed : Bool) : Bool :=
  if value ≤ config.gripperOpenThreshold then false
  else if config.gripperCloseThreshold ≤ value then true
  else previousClosed

/-- `guard_policy_action` -/
def guardPolicyAction (turn : FullTurn K) (predictedAction currentState : List (PyFloat K))
    (previousGripperClosed : Bool) (config : PolicySafetyConfig K) :
    Except (PolicySafetyError K) ((Fin jointCount → K) × Bool) := do
  let action ← finiteTuple predictedAction actionDim "predicted action"
  let state ← finiteTuple currentState actionDim "current state"
  let currentJoints ← canonicalizeJointsForEnvelope turn (floats (jointsOf state))
    (floats config.taskLower) (floats config.taskUpper) config.wraparoundJointIndices
  let guarded ← forEach fun i => guardJoint turn config i (jointsOf action i) (currentJoints i)
  return (guarded, guardGripper config (gripperOf action) previousGripperClosed)

/-- One joint passes exactly when its target is within the widened envelope and its
clamp is within the target-error limit of the measurement. -/
theorem guardJoint_eq_ok_iff {turn : FullTurn K} {config : PolicySafetyConfig K}
    {index : Fin jointCount} {predicted current guarded : K} :
    guardJoint turn config index predicted current = .ok guarded ↔
      config.taskLower index - config.smallEnvelopeOvershootRad ≤
          envelopeTarget turn config index predicted ∧
      envelopeTarget turn config index predicted ≤
          config.taskUpper index + config.smallEnvelopeOvershootRad ∧
      guarded = min (max (envelopeTarget turn config index predicted) (config.taskLower index))
          (config.taskUpper index) ∧
      |guarded - current| ≤ targetErrorLimit config index := by
  rw [guardJoint]
  dsimp only
  split_ifs with houtside herror
  · simp only [false_iff, not_and]
    intro hlow hhigh
    rcases houtside with h | h
    · exact absurd h (not_lt.mpr hlow)
    · exact absurd h (not_lt.mpr hhigh)
  · simp only [false_iff, not_and, not_le]
    rintro - - rfl
    exact herror
  · obtain ⟨hlow, hhigh⟩ := not_or.mp houtside
    simp only [Except.ok.injEq]
    constructor
    · rintro rfl
      exact ⟨not_lt.mp hlow, not_lt.mp hhigh, rfl, not_lt.mp herror⟩
    · rintro ⟨-, -, rfl, -⟩
      rfl

/-- The guard accepts finite inputs exactly when every joint passes. -/
theorem guardPolicyAction_eq_ok_iff {turn : FullTurn K} {config : PolicySafetyConfig K}
    {action state : Fin actionDim → K} {previousClosed closed : Bool}
    {guarded : Fin jointCount → K} :
    guardPolicyAction turn (floats action) (floats state) previousClosed config =
        .ok (guarded, closed) ↔
      (∀ i, guardJoint turn config i (jointsOf action i)
        (canonicalJoint turn config.taskLower config.taskUpper config.wraparoundJointIndices
          (jointsOf state) i) = .ok (guarded i)) ∧
      guardGripper config (gripperOf action) previousClosed = closed := by
  simp only [guardPolicyAction, finiteTuple_floats, canonicalizeJointsForEnvelope_floats, bind,
    Except.bind]
  constructor
  · intro h
    split at h
    · cases h
    · rename_i joints hjoints
      obtain ⟨rfl, rfl⟩ := Prod.mk.inj (Except.ok.inj h)
      exact ⟨forEach_eq_ok_iff.mp hjoints, rfl⟩
  · rintro ⟨hjoints, rfl⟩
    rw [forEach_eq_ok_iff.mpr hjoints]
    rfl

end Guard

end SmolVlaQgf.PolicySafetyGuard
