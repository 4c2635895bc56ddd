import Mathlib.Data.Fin.VecNotation
import Mathlib.Data.Rat.Floor
import Mathlib.Tactic.NormNum
import SmolVlaQgf.GripperFilter
import SmolVlaQgf.TaskCompletion

/-!
# Configuration of the robot adapter

The fields of `ArmstrongRos2Config` that the adapter reads, with their defaults,
and the three validated configurations `ArmstrongRos2.__init__` builds from them.
Topic names and the image size are not read by any modelled function.
-/

namespace SmolVlaQgf.ArmstrongConfiguration
open ExactFloats PolicySafetyGuard GripperFilter TaskCompletion

/-- The default `completion_home_joints`. -/
def homeJoints {K : Type} [Field K] : Fin jointCount → K := ![
  -2370767 / 1000000, 275709 / 1000000, 38841 / 1000000, -2055510 / 1000000,
  4440476 / 1000000, -314679 / 1000000, 4712930 / 1000000]

/-- `ArmstrongRos2Config` -/
structure ArmstrongRos2Config (K : Type) [Field K] where
  stateTimeoutSeconds : K := 30 / 100
  cameraTimeoutSeconds : K := 30 / 100
  startActionEnabled : Bool := false
  requireOpenGripperAtStart : Bool := true
  taskLower : List (PyFloat K) := floats ![
    -2834686 / 1000000, -1316365 / 1000000, -721879 / 1000000, -2381663 / 1000000,
    4118480 / 1000000, -769072 / 1000000, 3900149 / 1000000]
  taskUpper : List (PyFloat K) := floats ![
    -1356595 / 1000000, 583672 / 1000000, 911651 / 1000000, -737084 / 1000000,
    5245894 / 1000000, 146565 / 1000000, 4888320 / 1000000]
  initialLower : List (PyFloat K) := floats ![
    -2834686 / 1000000, -305685 / 1000000, -713077 / 1000000, -2381663 / 1000000,
    4118480 / 1000000, -769072 / 1000000, 3900149 / 1000000]
  initialUpper : List (PyFloat K) := floats ![
    -1553967 / 1000000, 583672 / 1000000, 533122 / 1000000, -1449920 / 1000000,
    5177725 / 1000000, 146565 / 1000000, 4888320 / 1000000]
  maxTargetErrorRad : PyFloat K := .finite (50 / 100)
  joint2MaxTargetErrorRad : PyFloat K := .finite (50 / 100)
  initialEnvelopeOvershootRad : PyFloat K := .finite 0
  smallEnvelopeOvershootRad : K := 5235987755982988 / 10000000000000000
  wraparoundJointIndices : List ℤ := [0, 2, 4, 6]
  canonicalizePolicyObservation : Bool := true
  gripperOpenThreshold : PyFloat K := .finite (40 / 100)
  gripperCloseThreshold : PyFloat K := .finite (85 / 100)
  gripperConfirmationFrames : ℤ := 5
  gripperMinStateDwellSeconds : PyFloat K := .finite (200 / 100)
  gripperContactHoldSeconds : PyFloat K := .finite 3
  completionHomeJoints : List (PyFloat K) := floats homeJoints
  completionDepartureThresholdRad : PyFloat K := .finite (40 / 100)
  completionReturnToleranceRad : PyFloat K := .finite (2617993877991494 / 10000000000000000)
  completionStableDurationSeconds : PyFloat K := .finite 0
  completionMinimumEpisodeSeconds : PyFloat K := .finite 15
  completionMaximumStableSpeedRadS : PyFloat K := .finite (5 / 100)

/-- What `ArmstrongRos2.__init__` keeps of its configuration, with the constant `TAU`. -/
structure AdapterConfig (K : Type) [Field K] [LinearOrder K] where
  turn : FullTurn K
  stateTimeoutSeconds : K
  cameraTimeoutSeconds : K
  startActionEnabled : Bool
  requireOpenGripperAtStart : Bool
  canonicalizePolicyObservation : Bool
  completionHomeJoints : List (PyFloat K)
  guard : PolicySafetyConfig K
  gripper : GripperTemporalConfig K
  completion : TaskCompletionConfig K

section Construction

variable {K : Type} [Field K] [LinearOrder K]

def ArmstrongRos2Config.guardFields (config : ArmstrongRos2Config K) : PolicySafetyFields K where
  taskLower := config.taskLower
  taskUpper := config.taskUpper
  initialLower := config.initialLower
  initialUpper := config.initialUpper
  maxTargetErrorRad := config.maxTargetErrorRad
  joint2MaxTargetErrorRad := config.joint2MaxTargetErrorRad
  initialEnvelopeOvershootRad := config.initialEnvelopeOvershootRad
  smallEnvelopeOvershootRad := config.smallEnvelopeOvershootRad
  gripperOpenThreshold := config.gripperOpenThreshold
  gripperCloseThreshold := config.gripperCloseThreshold
  wraparoundJointIndices := config.wraparoundJointIndices

def ArmstrongRos2Config.gripperFields (config : ArmstrongRos2Config K) :
    GripperTemporalFields K where
  openThreshold := config.gripperOpenThreshold
  closeThreshold := config.gripperCloseThreshold
  confirmationFrames := config.gripperConfirmationFrames
  minStateDwellSeconds := config.gripperMinStateDwellSeconds
  contactHoldSeconds := config.gripperContactHoldSeconds

def ArmstrongRos2Config.completionFields (config : ArmstrongRos2Config K) :
    TaskCompletionFields K where
  departureThresholdRad := config.completionDepartureThresholdRad
  returnToleranceRad := config.completionReturnToleranceRad
  stableDurationSeconds := config.completionStableDurationSeconds
  minimumEpisodeSeconds := config.completionMinimumEpisodeSeconds
  maximumStableSpeedRadS := config.completionMaximumStableSpeedRadS

/-- The configurations `ArmstrongRos2.__init__` constructs, in its order. -/
def ArmstrongRos2Config.build (turn : FullTurn K) (config : ArmstrongRos2Config K) :
    Except String (AdapterConfig K) := do
  let guard ← postInit config.guardFields
  let gripper ← config.gripperFields.postInit
  let completion ← config.completionFields.postInit
  return {
    turn
    stateTimeoutSeconds := config.stateTimeoutSeconds
    cameraTimeoutSeconds := config.cameraTimeoutSeconds
    startActionEnabled := config.startActionEnabled
    requireOpenGripperAtStart := config.requireOpenGripperAtStart
    canonicalizePolicyObservation := config.canonicalizePolicyObservation
    completionHomeJoints := config.completionHomeJoints
    guard, gripper, completion }

end Construction

/-! ## The shipped values -/

/-- `2.0 * math.pi`, the double it evaluates to. -/
def mathTau : FullTurn ℚ := ⟨884279719003555 / 140737488355328, by norm_num⟩

private theorem defaults_build : (ArmstrongRos2Config.build mathTau {}).toOption.isSome = true := by
  decide +kernel

/-- The adapter configuration of the default `ArmstrongRos2Config`. -/
def shippedConfig : AdapterConfig ℚ :=
  (ArmstrongRos2Config.build mathTau {}).toOption.get defaults_build

end SmolVlaQgf.ArmstrongConfiguration
