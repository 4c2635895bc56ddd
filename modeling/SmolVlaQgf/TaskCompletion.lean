import SmolVlaQgf.PolicySafetyGuard
import SmolVlaQgf.FloatRounding

/-!
# The task-completion detector

`TaskCompletionConfig` and `TaskCompletionDetector` of `smolvla_guard.py`: leave
the reset pose, grasp, release and return, in that order, with an optional
low-speed dwell.
-/

namespace SmolVlaQgf.TaskCompletion
open ExactFloats FloatRounding PolicySafetyGuard

/-- `TaskCompletionConfig` after `__post_init__` has accepted it. -/
structure TaskCompletionConfig (K : Type) [Field K] [LinearOrder K] where
  departureThresholdRad : K
  returnToleranceRad : K
  stableDurationSeconds : K
  minimumEpisodeSeconds : K
  maximumStableSpeedRadS : K
  departureThresholdRad_pos : 0 < departureThresholdRad
  returnToleranceRad_pos : 0 < returnToleranceRad
  minimumEpisodeSeconds_pos : 0 < minimumEpisodeSeconds
  maximumStableSpeedRadS_pos : 0 < maximumStableSpeedRadS
  stableDurationSeconds_nonneg : 0 ≤ stableDurationSeconds
  hysteresis : returnToleranceRad < departureThresholdRad

/-- The fields a `TaskCompletionConfig` is constructed from, with their defaults. -/
structure TaskCompletionFields (K : Type) [Field K] where
  departureThresholdRad : PyFloat K := .finite (2 / 5)
  returnToleranceRad : PyFloat K := .finite (3 / 10)
  stableDurationSeconds : PyFloat K := .finite 0
  minimumEpisodeSeconds : PyFloat K := .finite 15
  maximumStableSpeedRadS : PyFloat K := .finite (1 / 20)

section Configuration

variable {K : Type} [Field K] [LinearOrder K]

/-- `__post_init__` -/
def TaskCompletionFields.postInit (fields : TaskCompletionFields K) :
    Except String (TaskCompletionConfig K) := do
  let departure ← positive fields.departureThresholdRad
    "departure_threshold_rad must be finite and positive"
  let tolerance ← positive fields.returnToleranceRad
    "return_tolerance_rad must be finite and positive"
  let minimum ← positive fields.minimumEpisodeSeconds
    "minimum_episode_seconds must be finite and positive"
  let speed ← positive fields.maximumStableSpeedRadS
    "maximum_stable_speed_rad_s must be finite and positive"
  let stable ← nonnegative fields.stableDurationSeconds
    "stable_duration_seconds must be finite and nonnegative"
  let ⟨hhysteresis⟩ ← require (tolerance.value < departure.value)
    "departure_threshold_rad must exceed return_tolerance_rad to provide completion hysteresis"
  return {
    departureThresholdRad := departure.value
    returnToleranceRad := tolerance.value
    stableDurationSeconds := stable.value
    minimumEpisodeSeconds := minimum.value
    maximumStableSpeedRadS := speed.value
    departureThresholdRad_pos := departure.pos
    returnToleranceRad_pos := tolerance.pos
    minimumEpisodeSeconds_pos := minimum.pos
    maximumStableSpeedRadS_pos := speed.pos
    stableDurationSeconds_nonneg := stable.nonneg
    hysteresis := hhysteresis }

end Configuration

structure TaskCompletionResult (K : Type) where
  completed : Bool
  departed : Bool
  sawClose : Bool
  sawRelease : Bool
  insideReturnEnvelope : Bool
  stableSeconds : PyFloat K
  maximumStartErrorRad : PyFloat K
  maximumSpeedRadS : PyFloat K

/-- The state of a `TaskCompletionDetector`. The fields other than `active` and
`completed` are first assigned by `reset` and not read before it. -/
structure TaskCompletionDetector (K : Type) where
  active : Bool
  completed : Bool
  initialJoints : Fin jointCount → K
  previousJoints : Fin jointCount → K
  previousTime : K
  startedTime : K
  returnStableSince : Option K
  departed : Bool
  sawClose : Bool
  sawRelease : Bool

/-- What `update` raises. -/
inductive CompletionError (K : Type) where
  | inactive
  | unsafeJoints (error : PolicySafetyError K)
  | time

def CompletionError.message {K : Type} [Field K] [LinearOrder K] [FloorRing K] :
    CompletionError K → String
  | .inactive => "task completion detector is not active"
  | .unsafeJoints error => error.message
  | .time => "completion time must be finite and monotonic"

namespace TaskCompletionDetector

variable {K : Type} [Field K] [LinearOrder K]

/-- `__init__` -/
def new : TaskCompletionDetector K where
  active := false
  completed := false
  initialJoints := fun _ => 0
  previousJoints := fun _ => 0
  previousTime := 0
  startedTime := 0
  returnStableSince := none
  departed := false
  sawClose := false
  sawRelease := false

/-- The state `reset` leaves. The gripper state it is given is not stored: a closed
initial gripper must not count as the task's grasp event. -/
def started (joints : Fin jointCount → K) (now : K) : TaskCompletionDetector K where
  active := true
  completed := false
  initialJoints := joints
  previousJoints := joints
  previousTime := now
  startedTime := now
  returnStableSince := none
  departed := false
  sawClose := false
  sawRelease := false

/-- `reset` -/
def reset (initialJoints : List (PyFloat K)) (_initialGripperClosed : Bool) (now : K) :
    Except (PolicySafetyError K) (TaskCompletionDetector K) := do
  let joints ← finiteTuple initialJoints jointCount "initial joints"
  return started joints now

/-- `deactivate` -/
def deactivate (detector : TaskCompletionDetector K) : TaskCompletionDetector K :=
  { detector with active := false, returnStableSince := none }

variable [Rounding K]

/-- The distances of the joints from a pose: `abs(value - initial)`. -/
def distances (joints pose : Fin jointCount → K) (i : Fin jointCount) : PyFloat K :=
  (toFloat (joints i - pose i)).abs

/-- `maximum_speed` for the seconds `dt` since a pose. -/
def maximumSpeed (joints previous : Fin jointCount → K) (dt : PyFloat K) : PyFloat K :=
  if (PyFloat.finite 0).lt dt then
    PyFloat.maximum fun i => (distances joints previous i).div dt
  else .finite 0

/-- `stable_seconds` -/
def stableSeconds (returnStableSince : Option K) (now : K) : PyFloat K :=
  match returnStableSince with
  | none => .finite 0
  | some since => (PyFloat.finite 0).max (toFloat (now - since))

/-- The part of `update` after the argument checks. -/
def advance (config : TaskCompletionConfig K) (detector : TaskCompletionDetector K)
    (joints : Fin jointCount → K) (gripperClosed : Bool) (now : K) :
    TaskCompletionDetector K × TaskCompletionResult K :=
  let startErrors := distances joints detector.initialJoints
  let maximumStartError := PyFloat.maximum startErrors
  let departed := detector.departed ||
    (PyFloat.finite config.departureThresholdRad).le maximumStartError
  let sawClose := detector.sawClose || (departed && gripperClosed)
  let sawRelease := detector.sawRelease || (sawClose && !gripperClosed)
  let dt := toFloat (now - detector.previousTime)
  let maximumSpeed := maximumSpeed joints detector.previousJoints dt
  let insideReturnEnvelope := ∀ i, (startErrors i).le (.finite config.returnToleranceRad)
  let eligible := departed ∧ sawClose ∧ sawRelease ∧ !gripperClosed ∧
    (PyFloat.finite config.minimumEpisodeSeconds).le (toFloat (now - detector.startedTime)) ∧
    insideReturnEnvelope ∧ (config.stableDurationSeconds = 0 ∨
      maximumSpeed.le (.finite config.maximumStableSpeedRadS))
  let returnStableSince :=
    if eligible then some (detector.returnStableSince.getD now) else none
  let stableSeconds := stableSeconds returnStableSince now
  let completes := eligible ∧ (PyFloat.finite config.stableDurationSeconds).le stableSeconds
  let completed := detector.completed || completes
  ({ active := detector.active && !completes
     completed
     initialJoints := detector.initialJoints
     previousJoints := joints
     previousTime := now
     startedTime := detector.startedTime
     returnStableSince, departed, sawClose, sawRelease },
    { completed, departed, sawClose, sawRelease, insideReturnEnvelope, stableSeconds
      maximumStartErrorRad := maximumStartError
      maximumSpeedRadS := maximumSpeed })

/-- `update`; an update that raises leaves the detector as it was. -/
def update (config : TaskCompletionConfig K) (detector : TaskCompletionDetector K)
    (joints : List (PyFloat K)) (gripperClosed : Bool) (now : PyFloat K) :
    Except (CompletionError K) (TaskCompletionDetector K × TaskCompletionResult K) :=
  if detector.active then
    match finiteTuple joints jointCount "completion joints" with
    | .error e => .error (.unsafeJoints e)
    | .ok checked =>
        if now.isFinite ∧ detector.previousTime ≤ now.exact then
          .ok (advance config detector checked gripperClosed now.exact)
        else .error .time
  else .error .inactive

end TaskCompletionDetector

end SmolVlaQgf.TaskCompletion
