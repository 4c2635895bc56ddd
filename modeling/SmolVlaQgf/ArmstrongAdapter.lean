import SmolVlaQgf.ArmstrongConfiguration

/-!
# The robot adapter

The state of `ArmstrongRos2` and its methods, each as a function from the state
before to the state after, the effects in program order and the value returned or
exception raised. Every reading of the clock is an argument. Logging is left out;
it reads the state and changes none of it.
-/

namespace SmolVlaQgf.ArmstrongAdapter
open ExactFloats DecimalText PolicySafetyGuard GripperFilter TaskCompletion ArmstrongConfiguration

/-- `JOINT_NAMES` -/
def jointNames : Fin jointCount → String := ![
  "right_joint1", "right_joint2", "right_joint3", "right_joint4", "right_joint5", "right_joint6",
  "right_joint7"]

/-- `GRIPPER_NAME` -/
def gripperName : String := "right_gripper_closed"

/-- `(*JOINT_NAMES, GRIPPER_NAME)` -/
def featureNames : Fin actionDim → String := withGripper jointNames gripperName

/-- The fields of `ArmstrongRos2` that its methods read or write. -/
structure Adapter (K Img : Type) where
  connected : Bool
  actionEnabled : Bool
  nodeCreated : Bool
  jointState : Option (Fin jointCount → PyFloat K)
  jointTime : K
  armMotionEnabled : Bool
  chest : Option Img
  chestTime : K
  wrist : Option Img
  wristTime : K
  gripperClosed : Bool
  gripperContact : Bool
  lastGripperCommand : Option Bool
  modelGripperCommandCount : ℕ
  modelGripperOpenCount : ℕ
  modelGripperCloseCount : ℕ
  lastSafeJointCommand : Option (Fin jointCount → K)
  policyQueueSize : ℕ
  policyExpectedChunkSize : ℕ
  policyChunkReady : Bool
  completionResult : Option (TaskCompletionResult K)
  completionStopPublished : Bool
  completionInitialJoints : Option (Fin jointCount → K)
  rolloutEndLogged : Bool
  episodeResetCallbackSet : Bool
  latestPolicyObservationTimestep : ℤ
  currentPolicyActionTimestep : ℤ
  gripperFilter : GripperTemporalFilter K
  completionDetector : TaskCompletionDetector K

/-- What a method does besides assigning fields: the messages it publishes, and the
resets of the two detectors and the opening of the gate as they happen. -/
inductive Effect (K : Type) where
  | stop
  | jointCommand (joints : Fin jointCount → K)
  | gripperCommand (requestedOpen : Bool)
  | rawPolicyAction (timestep : ℤ) (values : Fin actionDim → PyFloat K)
  | guardedPolicyAction (timestep : ℤ) (values : Fin actionDim → K)
  | policyObservation (timestep : ℤ) (values : Fin actionDim → PyFloat K)
  | filterReset (initialClosed : Bool) (now : K)
  | detectorReset (initialClosed : Bool) (now : K)
  | gateOpened

inductive AdapterError (K : Type) where
  | notConnected
  | startActionEnabled
  | stale (source : String) (age : K)
  | missingKey (name : String)
  | publisherUnavailable (message : String)
  | safety (error : PolicySafetyError K)
  | completion (error : CompletionError K)

/-- `isinstance(exc, PolicySafetyError)` -/
def AdapterError.isPolicySafetyError {K : Type} : AdapterError K → Bool
  | .safety _ | .completion (.unsafeJoints _) => true
  | _ => false

/-- `str(exc)` -/
def AdapterError.message {K : Type} [Field K] [LinearOrder K] [FloorRing K] :
    AdapterError K → String
  | .notConnected => "robot adapter is not connected"
  | .startActionEnabled =>
      "start_action_enabled=true is intentionally unsupported; arm through the ROS service"
  | .stale source age =>
      source ++ " is missing or stale (" ++ String.ofList (fixedPoint 3 age) ++ "s)"
  | .missingKey name => "'" ++ name ++ "'"
  | .publisherUnavailable message => message
  | .safety error => error.message
  | .completion error => error.message

structure Outcome (K Img α : Type) where
  adapter : Adapter K Img
  effects : List (Effect K)
  result : Except (AdapterError K) α

structure ServiceResponse where
  success : Bool
  message : String
  deriving DecidableEq, Repr

abbrev ActionDict (K : Type) := String → Option (PyFloat K)

variable {K Img : Type} [Field K] [LinearOrder K]

/-- Neither STOP, nor a reset of a detector, nor the opening of the gate. -/
def Effect.IsRoutine : Effect K → Prop
  | .stop | .filterReset _ _ | .detectorReset _ _ | .gateOpened => False
  | _ => True

def Effect.IsCommand : Effect K → Prop
  | .jointCommand _ | .gripperCommand _ => True
  | _ => False

namespace Adapter

/-- The state `__init__` leaves; `now` is its reading of the clock. -/
def initial (now : K) : Adapter K Img where
  connected := false
  actionEnabled := false
  nodeCreated := false
  jointState := none
  jointTime := 0
  armMotionEnabled := false
  chest := none
  chestTime := 0
  wrist := none
  wristTime := 0
  gripperClosed := false
  gripperContact := false
  lastGripperCommand := none
  modelGripperCommandCount := 0
  modelGripperOpenCount := 0
  modelGripperCloseCount := 0
  lastSafeJointCommand := none
  policyQueueSize := 0
  policyExpectedChunkSize := 0
  policyChunkReady := false
  completionResult := none
  completionStopPublished := false
  completionInitialJoints := none
  rolloutEndLogged := false
  episodeResetCallbackSet := false
  latestPolicyObservationTimestep := -1
  currentPolicyActionTimestep := -1
  gripperFilter := GripperTemporalFilter.reset false now
  completionDetector := TaskCompletionDetector.new

/-- `_publish_stop`: three messages, once the node exists. -/
def publishStop (s : Adapter K Img) : List (Effect K) :=
  if s.nodeCreated then [.stop, .stop, .stop] else []

/-- The three assignments every way of closing the gate begins with. -/
def closeGate (s : Adapter K Img) : Adapter K Img :=
  { s with actionEnabled := false, lastSafeJointCommand := none, lastGripperCommand := none }

/-- `_gripper_filter.reset(initial_closed=self._gripper_closed, now=now)` -/
def resetFilterToMeasured (s : Adapter K Img) (now : K) : Adapter K Img :=
  { s with gripperFilter := GripperTemporalFilter.reset s.gripperClosed now }

/-! ## Connection -/

/-- `connect` -/
def connect (config : AdapterConfig K) (s : Adapter K Img) : Outcome K Img Unit :=
  if s.connected then ⟨s, [], .ok ()⟩
  else
    let s := { s with nodeCreated := true, connected := true }
    ⟨s, [], if config.startActionEnabled then .error .startActionEnabled else .ok ()⟩

/-- `disconnect` -/
def disconnect (now : K) (s : Adapter K Img) : Outcome K Img Unit :=
  if s.connected then
    let effects := [.filterReset s.gripperClosed now] ++ s.publishStop
    ⟨{ s.closeGate.resetFilterToMeasured now with
        completionDetector := s.completionDetector.deactivate
        connected := false }, effects, .ok ()⟩
  else ⟨s, [], .ok ()⟩

/-! ## Subscriptions -/

/-- `dict(zip(names, values))[name]`: the last pair of a name counts. -/
def lookupLast {α : Type} (names : List String) (values : List α) (name : String) : Option α :=
  (((names.zip values).reverse.find? fun p => p.1 = name).map Prod.snd)

/-- The seven positions `_joint_callback` extracts from a message, if it accepts it. -/
def orderedJoints (names : List String) (positions : List (PyFloat K)) :
    Option (Fin jointCount → PyFloat K) :=
  if h : positions.length = jointCount then
    if names ≠ [] then
      let lookup := lookupLast names positions
      if ∀ i, (lookup (jointNames i)).isSome then
        some fun i => (lookup (jointNames i)).getD .nan
      else none
    else some fun i => positions.get (i.cast h.symm)
  else none

/-- `_joint_callback` -/
def jointCallback (names : List String) (positions : List (PyFloat K)) (now : K)
    (s : Adapter K Img) : Adapter K Img :=
  match orderedJoints names positions with
  | none => s
  | some ordered => { s with jointState := some ordered, jointTime := now }

/-- `_gripper_callback`; the message requests OPEN, the field means CLOSED. -/
def gripperCallback (data : Bool) (s : Adapter K Img) : Adapter K Img :=
  { s with gripperClosed := !data }

/-- `_gripper_contact_callback` -/
def gripperContactCallback (data : Bool) (s : Adapter K Img) : Adapter K Img :=
  { s with gripperContact := data }

/-- `_chest_callback`, given what `_decode_image` returned, or `none` if it raised. -/
def chestCallback (decoded : Option Img) (now : K) (s : Adapter K Img) : Adapter K Img :=
  match decoded with
  | none => s
  | some image => { s with chest := some image, chestTime := now }

/-- `_wrist_callback` -/
def wristCallback (decoded : Option Img) (now : K) (s : Adapter K Img) : Adapter K Img :=
  match decoded with
  | none => s
  | some image => { s with wrist := some image, wristTime := now }

/-- `_motion_enabled_callback` -/
def motionEnabledCallback (data : Bool) (now : K) (s : Adapter K Img) : Outcome K Img Unit :=
  let s := { s with armMotionEnabled := data }
  if s.actionEnabled && !s.armMotionEnabled then
    let effects := [.filterReset s.gripperClosed now] ++ s.publishStop
    let s := s.closeGate.resetFilterToMeasured now
    ⟨{ s with rolloutEndLogged := s.rolloutEndLogged || s.jointState.isSome }, effects, .ok ()⟩
  else ⟨s, [], .ok ()⟩

/-! ## Snapshot -/

/-- What `_snapshot` returns. -/
structure Snapshot (K Img : Type) where
  joints : Fin jointCount → PyFloat K
  gripperClosed : Bool
  chest : Img
  wrist : Img

/-- A sensor reading that is present and not older than its timeout. -/
def fresh {α : Type} (source : String) (reading : Option α) (age timeout : K) :
    Except (AdapterError K) α :=
  match reading with
  | none => .error (.stale source age)
  | some value => if timeout < age then .error (.stale source age) else .ok value

/-- `_snapshot` -/
def snapshot (config : AdapterConfig K) (now : K) (s : Adapter K Img) :
    Except (AdapterError K) (Snapshot K Img) := do
  let joints ← fresh "joint state" s.jointState (now - s.jointTime) config.stateTimeoutSeconds
  let chest ← fresh "chest image" s.chest (now - s.chestTime) config.cameraTimeoutSeconds
  let wrist ← fresh "wrist image" s.wrist (now - s.wristTime) config.cameraTimeoutSeconds
  return { joints, gripperClosed := s.gripperClosed, chest, wrist }

omit [Field K] in
private theorem fresh_eq_ok {α : Type} {source : String} {reading : Option α} {age timeout : K}
    {value : α}
    (h : fresh source reading age timeout = .ok value) : reading = some value := by
  simp only [fresh] at h
  cases reading with
  | none => simp at h
  | some v =>
    dsimp only at h
    split_ifs at h
    exact congrArg some (Except.ok.inj h)

theorem snapshot_eq_ok {config : AdapterConfig K} {now : K} {s : Adapter K Img}
    {snap : Snapshot K Img} (h : snapshot config now s = .ok snap) :
    s.jointState = some snap.joints ∧ snap.gripperClosed = s.gripperClosed := by
  obtain ⟨joints, hjoints, h⟩ := bind_eq_ok_iff.mp h
  obtain ⟨chest, -, h⟩ := bind_eq_ok_iff.mp h
  obtain ⟨wrist, -, h⟩ := bind_eq_ok_iff.mp h
  obtain rfl := Except.ok.inj h
  exact ⟨fresh_eq_ok hjoints, rfl⟩

end Adapter

end SmolVlaQgf.ArmstrongAdapter
