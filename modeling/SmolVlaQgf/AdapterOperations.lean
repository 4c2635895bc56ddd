import SmolVlaQgf.ArmstrongAdapter
import SmolVlaQgf.Binary64

/-!
# Services and actions of the robot adapter

The enable service, `send_action` as the composition of its separately locked
steps, the task-completion update and the observation that drives it, and the
operations of the adapter as one type.
-/

namespace SmolVlaQgf.ArmstrongAdapter
open ExactFloats PolicySafetyGuard GripperFilter TaskCompletion ArmstrongConfiguration

namespace Adapter

variable {K Img : Type} [Field K] [LinearOrder K] [FloorRing K] [FloatRounding.Rounding K]

/-! ## Enable service -/

/-- The clock readings and subscriber counts one `_set_enabled` request observes. A
count that cannot be read carries the text of the exception. -/
structure EnableReadings (K : Type) where
  snapshotTime : K
  filterTime : K
  detectorTime : K
  jointSubscribers : Except String ℕ
  gripperSubscribers : Except String ℕ

/-- `get_subscription_count` of a publisher that `connect` creates. -/
def subscriptionCount (s : Adapter K Img) (publisher : String) (count : Except String ℕ) :
    Except (AdapterError K) ℕ :=
  if s.nodeCreated then count.mapError .publisherUnavailable
  else .error (.publisherUnavailable
    ("'ArmstrongRos2' object has no attribute '" ++ publisher ++ "'"))

/-- The fallible part of an enable request: the canonical joints and the gripper state
of its snapshot. -/
def enableChecks (config : AdapterConfig K) (readings : EnableReadings K) (s : Adapter K Img) :
    Except (AdapterError K) ((Fin jointCount → K) × Bool) := do
  let snap ← s.snapshot config readings.snapshotTime
  if !s.armMotionEnabled then
    throw (.safety (.stated "arm servo motion gate is not enabled"))
  let canonicalState ← (validateInitialPose config.turn
    (List.ofFn (withGripper snap.joints (.ofBool snap.gripperClosed))) config.guard
    config.requireOpenGripperAtStart).mapError .safety
  let jointSubscribers ← s.subscriptionCount "_joint_pub" readings.jointSubscribers
  if jointSubscribers ≠ 1 then
    throw (.safety (.stated "expected exactly one safe arm-command subscriber"))
  let gripperSubscribers ← s.subscriptionCount "_gripper_pub" readings.gripperSubscribers
  if gripperSubscribers ≠ 1 then
    throw (.safety (.stated "expected exactly one safe gripper-command subscriber"))
  return (jointsOf canonicalState, snap.gripperClosed)

/-- `_set_enabled` with `data` true. The reset of the completion detector can raise out
of the service when the configured home joints are malformed. -/
def enable (config : AdapterConfig K) (readings : EnableReadings K) (s : Adapter K Img) :
    Outcome K Img ServiceResponse :=
  match s.enableChecks config readings with
  | .error e => ⟨s, [], .ok ⟨false, e.message⟩⟩
  | .ok (joints, gripperClosed) =>
      let s := { s with
        gripperFilter := GripperTemporalFilter.reset gripperClosed readings.filterTime
        lastGripperCommand := some gripperClosed }
      match TaskCompletionDetector.reset config.completionHomeJoints gripperClosed
          readings.detectorTime with
      | .error e => ⟨s, [.filterReset gripperClosed readings.filterTime], .error (.safety e)⟩
      | .ok detector =>
          ⟨{ s with
              completionDetector := detector
              completionResult := none
              completionStopPublished := false
              completionInitialJoints := some joints
              rolloutEndLogged := false
              actionEnabled := true },
            [.filterReset gripperClosed readings.filterTime,
              .detectorReset gripperClosed readings.detectorTime, .gateOpened],
            .ok ⟨true, "SmolVLA action gate enabled; gripper temporal hysteresis active"⟩⟩

/-- `_set_enabled` with `data` false. -/
def disable (now : K) (s : Adapter K Img) : Outcome K Img ServiceResponse :=
  let s := { s with
    rolloutEndLogged := s.rolloutEndLogged || (s.actionEnabled && s.jointState.isSome) }
  ⟨{ s.closeGate.resetFilterToMeasured now with
      completionDetector := s.completionDetector.deactivate
      completionResult := none
      completionStopPublished := false },
    [.filterReset s.gripperClosed now] ++ s.publishStop,
    .ok ⟨true, "SmolVLA action gate disabled and STOP published"⟩⟩

/-- `_set_enabled` -/
def setEnabled (config : AdapterConfig K) (data : Bool) (readings : EnableReadings K)
    (s : Adapter K Img) : Outcome K Img ServiceResponse :=
  if data then s.enable config readings else s.disable readings.filterTime

/-! ## Actions -/

/-- `tuple(float(action[name]) for name in (*JOINT_NAMES, GRIPPER_NAME))` -/
def readAction (action : ActionDict K) : Except (AdapterError K) (Fin actionDim → PyFloat K) :=
  forEach fun i => match action (featureNames i) with
    | some value => .ok value
    | none => .error (.missingKey (featureNames i))

/-- `_publish_policy_action` on the raw topic. -/
def publishRawAction (s : Adapter K Img) (values : Fin actionDim → PyFloat K) : List (Effect K) :=
  if s.nodeCreated then [.rawPolicyAction s.currentPolicyActionTimestep values] else []

/-- `_publish_policy_action` on the guarded topic. -/
def publishGuardedAction (s : Adapter K Img) (values : Fin actionDim → K) : List (Effect K) :=
  if s.nodeCreated then [.guardedPolicyAction s.currentPolicyActionTimestep values] else []

/-- What `send_action` knows once the guard has accepted. -/
structure AcceptedAction (K : Type) where
  rawJoints : Fin jointCount → PyFloat K
  predicted : Fin actionDim → PyFloat K
  guardedJoints : Fin jointCount → K

/-- The step of `send_action` that takes the snapshot and runs the guard. Only a
rejection by the guard itself closes the gate. -/
def guardAction (config : AdapterConfig K) (now : K) (action : ActionDict K)
    (s : Adapter K Img) : Outcome K Img (AcceptedAction K) :=
  match s.snapshot config now with
  | .error e => ⟨s, [], .error e⟩
  | .ok snap =>
    match canonicalizeJointsForEnvelope config.turn (List.ofFn snap.joints)
        (floats config.guard.taskLower) (floats config.guard.taskUpper)
        config.guard.wraparoundJointIndices with
    | .error e => ⟨s, [], .error (.safety e)⟩
    | .ok joints =>
      match readAction action with
      | .error e => ⟨s, [], .error e⟩
      | .ok predicted =>
        match guardPolicyAction config.turn (List.ofFn predicted)
            (floats (withGripper joints (if snap.gripperClosed then 1 else 0)))
            snap.gripperClosed config.guard with
        | .error e =>
            ⟨s.closeGate, s.publishRawAction predicted ++ s.publishStop, .error (.safety e)⟩
        | .ok (guardedJoints, _) =>
            ⟨s, s.publishRawAction predicted, .ok ⟨snap.joints, predicted, guardedJoints⟩⟩

/-- The step of `send_action` that updates the gripper filter under the lock. -/
def filterAction (config : AdapterConfig K) (now : K) (accepted : AcceptedAction K)
    (s : Adapter K Img) : Outcome K Img GripperTemporalResult :=
  match GripperTemporalFilter.update config.gripper s.gripperFilter (gripperOf accepted.predicted)
      (.finite now) s.gripperContact with
  | .error e => ⟨s, [], .error (.safety e)⟩
  | .ok (filter, result) => ⟨{ s with gripperFilter := filter }, [], .ok result⟩

def guardedValues (accepted : AcceptedAction K) (temporal : GripperTemporalResult) :
    Fin actionDim → K :=
  withGripper accepted.guardedJoints (if temporal.commandClosed then 1 else 0)

/-- The step of `send_action` that stores the controller target and publishes it. -/
def storeAction (config : AdapterConfig K) (accepted : AcceptedAction K)
    (temporal : GripperTemporalResult) (s : Adapter K Img) : Outcome K Img (Fin jointCount → K) :=
  let published := s.publishGuardedAction (guardedValues accepted temporal)
  match controllerTargetsNearMeasuredJoints config.turn (floats accepted.guardedJoints)
      (List.ofFn accepted.rawJoints) config.guard.wraparoundJointIndices with
  | .error e => ⟨s, published, .error (.safety e)⟩
  | .ok controllerJoints =>
      ⟨{ s with lastSafeJointCommand := some controllerJoints },
        published ++ [.jointCommand controllerJoints], .ok controllerJoints⟩

/-- The step of `send_action` that publishes a gripper transition. ROS requests OPEN
where the filter commands CLOSED, so the value is inverted. -/
def publishGripper (temporal : GripperTemporalResult) (s : Adapter K Img) :
    Outcome K Img Unit :=
  if temporal.transitioned then
    let closed := temporal.commandClosed
    ⟨{ s with
        lastGripperCommand := some closed
        modelGripperCommandCount := s.modelGripperCommandCount + 1
        modelGripperCloseCount := s.modelGripperCloseCount + if closed then 1 else 0
        modelGripperOpenCount := s.modelGripperOpenCount + if closed then 0 else 1 },
      [.gripperCommand (!closed)], .ok ()⟩
  else ⟨s, [], .ok ()⟩

omit [Field K] [LinearOrder K] [FloorRing K] [FloatRounding.Rounding K] in
/-- What does not depend on the gripper command and its counters is kept. -/
theorem publishGripper_frame {β : Type*} (f : Adapter K Img → β)
    (hf : ∀ (s : Adapter K Img) command count closeCount openCount, f { s with
      lastGripperCommand := command
      modelGripperCommandCount := count
      modelGripperCloseCount := closeCount
      modelGripperOpenCount := openCount } = f s)
    (temporal : GripperTemporalResult) (s : Adapter K Img) :
    f (s.publishGripper temporal).adapter = f s := by
  rw [publishGripper]
  split_ifs
  · apply hf
  · rfl

omit [Field K] [LinearOrder K] [FloorRing K] [FloatRounding.Rounding K] in
@[simp] theorem publishGripper_connected (temporal : GripperTemporalResult) (s : Adapter K Img) :
    (s.publishGripper temporal).adapter.connected = s.connected :=
  publishGripper_frame (·.connected) (fun _ _ _ _ _ => rfl) temporal s

omit [Field K] [LinearOrder K] [FloorRing K] [FloatRounding.Rounding K] in
@[simp] theorem publishGripper_actionEnabled (temporal : GripperTemporalResult)
    (s : Adapter K Img) :
    (s.publishGripper temporal).adapter.actionEnabled = s.actionEnabled :=
  publishGripper_frame (·.actionEnabled) (fun _ _ _ _ _ => rfl) temporal s

omit [Field K] [LinearOrder K] [FloorRing K] [FloatRounding.Rounding K] in
@[simp] theorem publishGripper_nodeCreated (temporal : GripperTemporalResult) (s : Adapter K Img) :
    (s.publishGripper temporal).adapter.nodeCreated = s.nodeCreated :=
  publishGripper_frame (·.nodeCreated) (fun _ _ _ _ _ => rfl) temporal s

omit [Field K] [LinearOrder K] [FloorRing K] [FloatRounding.Rounding K] in
@[simp] theorem publishGripper_armMotionEnabled (temporal : GripperTemporalResult)
    (s : Adapter K Img) :
    (s.publishGripper temporal).adapter.armMotionEnabled = s.armMotionEnabled :=
  publishGripper_frame (·.armMotionEnabled) (fun _ _ _ _ _ => rfl) temporal s

omit [Field K] [LinearOrder K] [FloorRing K] [FloatRounding.Rounding K] in
@[simp] theorem publishGripper_lastSafeJointCommand (temporal : GripperTemporalResult)
    (s : Adapter K Img) :
    (s.publishGripper temporal).adapter.lastSafeJointCommand = s.lastSafeJointCommand :=
  publishGripper_frame (·.lastSafeJointCommand) (fun _ _ _ _ _ => rfl) temporal s

omit [Field K] [LinearOrder K] [FloorRing K] [FloatRounding.Rounding K] in
@[simp] theorem publishGripper_gripperFilter (temporal : GripperTemporalResult)
    (s : Adapter K Img) :
    (s.publishGripper temporal).adapter.gripperFilter = s.gripperFilter :=
  publishGripper_frame (·.gripperFilter) (fun _ _ _ _ _ => rfl) temporal s

omit [Field K] [LinearOrder K] [FloorRing K] [FloatRounding.Rounding K] in
@[simp] theorem publishGripper_completionDetector (temporal : GripperTemporalResult)
    (s : Adapter K Img) :
    (s.publishGripper temporal).adapter.completionDetector = s.completionDetector :=
  publishGripper_frame (·.completionDetector) (fun _ _ _ _ _ => rfl) temporal s

omit [Field K] [LinearOrder K] [FloorRing K] [FloatRounding.Rounding K] in
@[simp] theorem publishGripper_completionResult (temporal : GripperTemporalResult)
    (s : Adapter K Img) :
    (s.publishGripper temporal).adapter.completionResult = s.completionResult :=
  publishGripper_frame (·.completionResult) (fun _ _ _ _ _ => rfl) temporal s

omit [Field K] [LinearOrder K] [FloorRing K] [FloatRounding.Rounding K] in
@[simp] theorem publishGripper_completionStopPublished (temporal : GripperTemporalResult)
    (s : Adapter K Img) :
    (s.publishGripper temporal).adapter.completionStopPublished = s.completionStopPublished :=
  publishGripper_frame (·.completionStopPublished) (fun _ _ _ _ _ => rfl) temporal s

/-- `dict(zip(names, values))` over the feature names. -/
def featureDict (values : Fin actionDim → PyFloat K) : ActionDict K := fun name =>
  ((List.finRange actionDim).find? fun i => featureNames i = name).map values

/-- `send_action`. Its two readings of the clock are those of the snapshot and of the
gripper filter. -/
def sendAction (config : AdapterConfig K) (snapshotTime filterTime : K) (action : ActionDict K)
    (s : Adapter K Img) : Outcome K Img (ActionDict K) :=
  if !s.connected then ⟨s, [], .error .notConnected⟩
  else if !s.actionEnabled then ⟨s, [], .ok action⟩
  else
    match s.guardAction config snapshotTime action with
    | ⟨s, effects, .error e⟩ => ⟨s, effects, .error e⟩
    | ⟨s, effects, .ok accepted⟩ =>
      match s.filterAction config filterTime accepted with
      | ⟨s, effects', .error e⟩ => ⟨s, effects ++ effects', .error e⟩
      | ⟨s, effects', .ok temporal⟩ =>
        match s.storeAction config accepted temporal with
        | ⟨s, effects'', .error e⟩ => ⟨s, effects ++ effects' ++ effects'', .error e⟩
        | ⟨s, effects'', .ok _⟩ =>
          let published := s.publishGripper temporal
          ⟨published.adapter, effects ++ effects' ++ effects'' ++ published.effects,
            .ok (featureDict fun i => .finite (guardedValues accepted temporal i))⟩

/-- `resend_last_joint_command` -/
def resendLastJointCommand (s : Adapter K Img) : Outcome K Img Bool :=
  if !s.connected || !s.actionEnabled then ⟨s, [], .ok false⟩
  else
    match s.lastSafeJointCommand with
    | none => ⟨s, [], .ok false⟩
    | some command => ⟨s, [.jointCommand command], .ok true⟩

/-! ## Task completion and observations -/

/-- `_update_task_completion` -/
def updateTaskCompletion (config : AdapterConfig K) (joints : List (PyFloat K))
    (gripperClosed : Bool) (now : K) (s : Adapter K Img) : Outcome K Img Unit :=
  if s.actionEnabled && s.completionDetector.active then
    match TaskCompletionDetector.update config.completion s.completionDetector joints gripperClosed
        (.finite now) with
    | .error e => ⟨s, [], .error (.completion e)⟩
    | .ok (detector, result) =>
        let s := { s with completionDetector := detector, completionResult := some result }
        if result.completed && !s.completionStopPublished then
          ⟨{ s.closeGate with completionStopPublished := true, rolloutEndLogged := true },
            s.publishStop, .ok ()⟩
        else ⟨s, [], .ok ()⟩
  else ⟨s, [], .ok ()⟩

/-- What `get_observation` returns. -/
structure Observation (K Img : Type) where
  values : Fin actionDim → PyFloat K
  chest : Img
  wristRight : Img

/-- `get_observation` -/
def getObservation (config : AdapterConfig K) (snapshotTime completionTime : K)
    (s : Adapter K Img) : Outcome K Img (Observation K Img) :=
  if !s.connected then ⟨s, [], .error .notConnected⟩
  else
    match s.snapshot config snapshotTime with
    | .error e => ⟨s, [], .error e⟩
    | .ok snap =>
      match canonicalizeJointsForEnvelope config.turn (List.ofFn snap.joints)
          (floats config.guard.taskLower) (floats config.guard.taskUpper)
          config.guard.wraparoundJointIndices with
      | .error e => ⟨s, [], .error (.safety e)⟩
      | .ok safetyJoints =>
        let policyJoints := if config.canonicalizePolicyObservation
          then fun i => .finite (safetyJoints i) else snap.joints
        match s.updateTaskCompletion config (floats safetyJoints) snap.gripperClosed
            completionTime with
        | ⟨s, effects, .error e⟩ => ⟨s, effects, .error e⟩
        | ⟨s, effects, .ok ()⟩ =>
            ⟨s, effects, .ok ⟨withGripper policyJoints (.ofBool snap.gripperClosed), snap.chest,
              snap.wrist⟩⟩

/-! ## Bookkeeping of the async client -/

/-- `update_policy_queue_state` -/
def updatePolicyQueueState (queueSize expectedChunkSize : ℤ) (chunkReady : Bool)
    (s : Adapter K Img) : Adapter K Img :=
  { s with
    policyQueueSize := queueSize.toNat
    policyExpectedChunkSize := expectedChunkSize.toNat
    policyChunkReady := chunkReady }

/-- `set_policy_action_timestep` -/
def setPolicyActionTimestep (timestep : ℤ) (s : Adapter K Img) : Adapter K Img :=
  { s with currentPolicyActionTimestep := timestep }

/-- `publish_policy_observation`; an observation with a missing value is ignored. -/
def publishPolicyObservation (timestep : ℤ) (observation : ActionDict K) (s : Adapter K Img) :
    Outcome K Img Unit :=
  if s.nodeCreated then
    match readAction observation with
    | .error _ => ⟨s, [], .ok ()⟩
    | .ok values =>
        ⟨{ s with latestPolicyObservationTimestep := timestep },
          [.policyObservation timestep values], .ok ()⟩
  else ⟨s, [], .ok ()⟩

end Adapter

/-! ## Operations -/

open Adapter

/-- One call of a method, with its arguments and clock readings. -/
inductive Operation (K Img : Type) where
  | connect
  | disconnect (now : K)
  | jointCallback (names : List String) (positions : List (PyFloat K)) (now : K)
  | gripperCallback (data : Bool)
  | gripperContactCallback (data : Bool)
  | motionEnabledCallback (data : Bool) (now : K)
  | chestCallback (decoded : Option Img) (now : K)
  | wristCallback (decoded : Option Img) (now : K)
  | setEnabled (data : Bool) (readings : EnableReadings K)
  | sendAction (snapshotTime filterTime : K) (action : ActionDict K)
  | resendLastJointCommand
  | updateTaskCompletion (joints : List (PyFloat K)) (gripperClosed : Bool) (now : K)
  | getObservation (snapshotTime completionTime : K)
  | updatePolicyQueueState (queueSize expectedChunkSize : ℤ) (chunkReady : Bool)
  | setPolicyActionTimestep (timestep : ℤ)
  | publishPolicyObservation (timestep : ℤ) (observation : ActionDict K)

variable {K Img : Type} [Field K] [LinearOrder K] [FloorRing K] [FloatRounding.Rounding K]

def Outcome.change {α : Type} (outcome : Outcome K Img α) : Adapter K Img × List (Effect K) :=
  (outcome.adapter, outcome.effects)

def Operation.perform (config : AdapterConfig K) (s : Adapter K Img) :
    Operation K Img → Adapter K Img × List (Effect K)
  | .connect => (s.connect config).change
  | .disconnect now => (s.disconnect now).change
  | .jointCallback names positions now => (s.jointCallback names positions now, [])
  | .gripperCallback data => (s.gripperCallback data, [])
  | .gripperContactCallback data => (s.gripperContactCallback data, [])
  | .motionEnabledCallback data now => (s.motionEnabledCallback data now).change
  | .chestCallback decoded now => (s.chestCallback decoded now, [])
  | .wristCallback decoded now => (s.wristCallback decoded now, [])
  | .setEnabled data readings => (s.setEnabled config data readings).change
  | .sendAction snapshotTime filterTime action =>
      (s.sendAction config snapshotTime filterTime action).change
  | .resendLastJointCommand => s.resendLastJointCommand.change
  | .updateTaskCompletion joints gripperClosed now =>
      (s.updateTaskCompletion config joints gripperClosed now).change
  | .getObservation snapshotTime completionTime =>
      (s.getObservation config snapshotTime completionTime).change
  | .updatePolicyQueueState queueSize expectedChunkSize chunkReady =>
      (s.updatePolicyQueueState queueSize expectedChunkSize chunkReady, [])
  | .setPolicyActionTimestep timestep => (s.setPolicyActionTimestep timestep, [])
  | .publishPolicyObservation timestep observation =>
      (s.publishPolicyObservation timestep observation).change

end SmolVlaQgf.ArmstrongAdapter
