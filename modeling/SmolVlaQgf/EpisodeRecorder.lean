import SmolVlaQgf.ArmstrongAdapter
import SmolVlaQgf.CameraVideo
import SmolVlaQgf.FieldText

/-!
# The episode recorder

The callbacks of `QgfEpisodeRecorder` run on one thread, the two video workers on their
own. Callbacks keep the latest messages; the sampling timer and the policy observations
write rows that refer to the camera frames by number.
-/

namespace SmolVlaQgf.EpisodeRecorder
open ExactFloats FieldText PolicySafetyGuard ArmstrongAdapter Adapter CameraVideo TransitionRuns

/-! ## Messages -/

/-- A `JointState`; `frameId` is the integer in the header's frame id, if it holds one. -/
structure JointState (K : Type) where
  name : List String
  position : List (PyFloat K)
  frameId : Option ℤ
  sec : ℤ
  nanosec : ℤ

/-- A `JointTrajectory` with the positions of its points. -/
structure JointTrajectory (K : Type) where
  jointNames : List String
  points : List (List (PyFloat K))
  frameId : Option ℤ
  sec : ℤ
  nanosec : ℤ

variable {K Img : Type}

/-- `JOINT_NAMES` -/
def armNames : List String := List.ofFn jointNames

/-- `(*JOINT_NAMES, GRIPPER_NAME)` -/
def actionNames : List String := armNames ++ [gripperName]

/-- The positions of the expected joints; a message without names is taken in order. -/
def orderedPositions (message : JointState K) (expected : List String) :
    Option (List (PyFloat K)) :=
  if message.name ≠ [] then expected.mapM (lookupLast message.name message.position)
  else if message.position.length ≠ expected.length then none
  else some message.position

/-- The stamp of a message, or the clock if it has none. -/
def messageTimestampNs (message : JointState K) (now : ℤ) : ℤ :=
  let value := message.sec * 1000000000 + message.nanosec
  if 0 < value then value else now

/-- `parse_status` -/
def parseStatus (value : Text) : Dict := fields value

/-! ## Rows -/

structure FrameReference where
  chestFrameIndex : ℤ
  chestTimestampNs : ℤ
  wristFrameIndex : ℤ
  wristTimestampNs : ℤ
  deriving DecidableEq

/-- A row of `samples.jsonl`. -/
structure SampleRow (K : Type) where
  sampleIndex : ℕ
  timestampNs : ℤ
  state : List (PyFloat K)
  stateTimestampNs : ℤ
  actionPolicy : List (PyFloat K)
  policyActionTimestep : ℤ
  actionPolicyTimestampNs : ℤ
  actionGuarded : List (PyFloat K)
  actionGuardedTimestampNs : ℤ
  actionExecuted : List (PyFloat K)
  actionExecutedTimestampNs : ℤ
  gripperContact : Bool
  frames : FrameReference

/-- A row of `policy_observations.jsonl`. -/
structure PolicyObservationRow (K : Type) where
  observationTimestep : ℤ
  timestampNs : ℤ
  state : List (PyFloat K)
  frames : FrameReference

/-- A row of `normalized_policy_chunks.jsonl`. -/
structure ChunkRow (K : Type) where
  chunkIndex : ℕ
  observationTimestep : ℤ
  timestampNs : ℤ
  actionChunkNormalized : List (List (PyFloat K))

/-! ## The recorder -/

inductive Topic where
  | jointState | executedJoint | rawAction | guardedAction | gripperState | executedGripper
  | gripperContact | smolvlaStatus | normalizedChunk | policyObservation | chest | wrist
  deriving DecidableEq

/-- The counters of the source are the lengths of the row lists. -/
structure QgfEpisodeRecorder (K Img : Type) where
  gripperOpenPosition : K
  gripperClosedPosition : K
  chest : VideoSink Img
  wrist : VideoSink Img
  samples : List (SampleRow K)
  chunks : List (ChunkRow K)
  policyObservations : List (PolicyObservationRow K)
  actionEnabled : Bool
  everEnabled : Bool
  state : Option (List (PyFloat K))
  stateTimestampNs : ℤ
  gripperClosed : Option (PyFloat K)
  rawAction : Option (List (PyFloat K))
  rawActionTimestampNs : ℤ
  policyActionTimestep : ℤ
  guardedAction : Option (List (PyFloat K))
  guardedActionTimestampNs : ℤ
  executedJoints : Option (List (PyFloat K))
  executedActionTimestampNs : ℤ
  executedGripperClosed : Option (PyFloat K)
  gripperContact : Bool
  callbackCounts : Topic → ℕ

namespace QgfEpisodeRecorder

def new (gripperOpenPosition gripperClosedPosition : K) (chestQueueSize wristQueueSize : ℤ) :
    QgfEpisodeRecorder K Img where
  gripperOpenPosition
  gripperClosedPosition
  chest := .new chestQueueSize
  wrist := .new wristQueueSize
  samples := []
  chunks := []
  policyObservations := []
  actionEnabled := false
  everEnabled := false
  state := none
  stateTimestampNs := 0
  gripperClosed := none
  rawAction := none
  rawActionTimestampNs := 0
  policyActionTimestep := -1
  guardedAction := none
  guardedActionTimestampNs := 0
  executedJoints := none
  executedActionTimestampNs := 0
  executedGripperClosed := none
  gripperContact := false
  callbackCounts := fun _ => 0

def count (topic : Topic) (s : QgfEpisodeRecorder K Img) : QgfEpisodeRecorder K Img :=
  { s with callbackCounts := fun t => s.callbackCounts t + if t = topic then 1 else 0 }

def latestFrames (s : QgfEpisodeRecorder K Img) : FrameReference where
  chestFrameIndex := s.chest.latestFrameIndex
  chestTimestampNs := s.chest.latestTimestampNs
  wristFrameIndex := s.wrist.latestFrameIndex
  wristTimestampNs := s.wrist.latestTimestampNs

def stateCallback (message : JointState K) (now : ℤ) (s : QgfEpisodeRecorder K Img) :
    QgfEpisodeRecorder K Img :=
  match orderedPositions message armNames with
  | none => s
  | some value =>
      { s with state := some value, stateTimestampNs := messageTimestampNs message now }

def executedJointCallback (message : JointState K) (now : ℤ) (s : QgfEpisodeRecorder K Img) :
    QgfEpisodeRecorder K Img :=
  match orderedPositions message armNames with
  | none => s
  | some value => { s with
      executedJoints := some value
      executedActionTimestampNs := messageTimestampNs message now }

def rawActionCallback (message : JointState K) (now : ℤ) (s : QgfEpisodeRecorder K Img) :
    QgfEpisodeRecorder K Img :=
  match orderedPositions message actionNames with
  | none => { s with rawAction := none }
  | some value => { s with
      rawAction := some value
      rawActionTimestampNs := messageTimestampNs message now
      policyActionTimestep := message.frameId.getD (-1)
      actionEnabled := true
      everEnabled := true }

def guardedActionCallback (message : JointState K) (now : ℤ) (s : QgfEpisodeRecorder K Img) :
    QgfEpisodeRecorder K Img :=
  match orderedPositions message actionNames with
  | none => { s with guardedAction := none }
  | some value => { s with
      guardedAction := some value
      guardedActionTimestampNs := messageTimestampNs message now }

def executedGripperCallback [Zero K] [One K] (data : Bool) (s : QgfEpisodeRecorder K Img) :
    QgfEpisodeRecorder K Img :=
  { s with executedGripperClosed := some (.ofBool !data) }

def contactCallback (data : Bool) (s : QgfEpisodeRecorder K Img) : QgfEpisodeRecorder K Img :=
  { s with gripperContact := data }

def statusCallback (data : Text) (s : QgfEpisodeRecorder K Img) : QgfEpisodeRecorder K Img :=
  let enabled := decide (parseStatus data "action_enabled".toList = some "1".toList)
  { s with actionEnabled := enabled, everEnabled := s.everEnabled || enabled }

def normalizedChunkCallback (message : JointTrajectory K) (s : QgfEpisodeRecorder K Img) :
    QgfEpisodeRecorder K Img :=
  if message.jointNames ≠ actionNames then s
  else
    match message.frameId with
    | none => s
    | some observationTimestep =>
        if message.points.isEmpty || message.points.any (·.length ≠ actionDim) then s
        else { s with chunks := s.chunks ++ [{
          chunkIndex := s.chunks.length
          observationTimestep
          timestampNs := message.sec * 1000000000 + message.nanosec
          actionChunkNormalized := message.points }] }

def policyObservationCallback (message : JointState K) (now : ℤ) (s : QgfEpisodeRecorder K Img) :
    QgfEpisodeRecorder K Img :=
  match orderedPositions message actionNames, message.frameId with
  | some state, some observationTimestep =>
      { s with policyObservations := s.policyObservations ++ [{
        observationTimestep
        timestampNs := messageTimestampNs message now
        state
        frames := s.latestFrames }] }
  | _, _ => s

def chestCallback (message : CompressedImage) (now : ℤ) (s : QgfEpisodeRecorder K Img) :
    QgfEpisodeRecorder K Img :=
  if s.actionEnabled then { s with chest := s.chest.enqueue message now } else s

def wristCallback (message : CompressedImage) (now : ℤ) (s : QgfEpisodeRecorder K Img) :
    QgfEpisodeRecorder K Img :=
  if s.actionEnabled then { s with wrist := s.wrist.enqueue message now } else s

/-- `_sample`: nothing is written until every source has been seen. -/
def sample (now : ℤ) (s : QgfEpisodeRecorder K Img) : QgfEpisodeRecorder K Img :=
  match s.state, s.gripperClosed, s.rawAction, s.guardedAction, s.executedJoints with
  | some state, some gripperClosed, some rawAction, some guardedAction, some executedJoints =>
      if s.actionEnabled && decide (0 ≤ s.chest.latestFrameIndex) &&
          decide (0 ≤ s.wrist.latestFrameIndex) then
        { s with samples := s.samples ++ [{
          sampleIndex := s.samples.length
          timestampNs := now
          state := state ++ [gripperClosed]
          stateTimestampNs := s.stateTimestampNs
          actionPolicy := rawAction
          policyActionTimestep := s.policyActionTimestep
          actionPolicyTimestampNs := s.rawActionTimestampNs
          actionGuarded := guardedAction
          actionGuardedTimestampNs := s.guardedActionTimestampNs
          actionExecuted := executedJoints ++ [s.executedGripperClosed.getD gripperClosed]
          actionExecutedTimestampNs := s.executedActionTimestampNs
          gripperContact := s.gripperContact
          frames := s.latestFrames }] }
      else s
  | _, _, _, _, _ => s

section Gripper

variable [Field K] [LinearOrder K]

/-- `np.clip((position - open) / (closed - open), 0, 1)` -/
def normalizedGripper (s : QgfEpisodeRecorder K Img) : PyFloat K → PyFloat K
  | .finite position => .finite (min (max
      ((position - s.gripperOpenPosition) / (s.gripperClosedPosition - s.gripperOpenPosition)) 0) 1)
  | .posInf => .finite 1
  | .negInf => .finite 0
  | .nan => .nan

def gripperStateCallback (message : JointState K) (s : QgfEpisodeRecorder K Img) :
    QgfEpisodeRecorder K Img :=
  match message.position with
  | [] => s
  | position :: _ => { s with gripperClosed := some (s.normalizedGripper position) }

end Gripper

/-- `close` closes the chest video first; an error there leaves the wrist video open. -/
def closeStep (s : QgfEpisodeRecorder K Img) : Option (QgfEpisodeRecorder K Img) :=
  match s.chest.closeStage with
  | .returned none => s.wrist.closeStep.map fun wrist => { s with wrist }
  | _ => s.chest.closeStep.map fun chest => { s with chest }

def closed (s : QgfEpisodeRecorder K Img) : Bool :=
  decide (s.chest.closeStage = .returned none) && decide (s.wrist.closeStage = .returned none)

end QgfEpisodeRecorder

/-! ## Runs -/

/-- What the executor hands to the recorder. -/
inductive Callback (K : Type) where
  | jointState (message : JointState K)
  | executedJoint (message : JointState K)
  | rawAction (message : JointState K)
  | guardedAction (message : JointState K)
  | gripperState (message : JointState K)
  | executedGripper (data : Bool)
  | gripperContact (data : Bool)
  | smolvlaStatus (data : Text)
  | normalizedChunk (message : JointTrajectory K)
  | policyObservation (message : JointState K)
  | chest (message : CompressedImage)
  | wrist (message : CompressedImage)
  | sampleTimer

inductive Camera where
  | chest
  | wrist

/-- A callback with the clock it reads, a step of a video worker, or a step of `close`. -/
inductive RecorderLabel (K : Type) where
  | callback (callback : Callback K) (now : ℤ)
  | take (camera : Camera)
  | write (camera : Camera) (fault : Option WriteFault)
  | close

section Steps

open QgfEpisodeRecorder

variable [Field K] [LinearOrder K]

def Callback.perform (now : ℤ) (s : QgfEpisodeRecorder K Img) :
    Callback K → QgfEpisodeRecorder K Img
  | .jointState message => (s.count .jointState).stateCallback message now
  | .executedJoint message => (s.count .executedJoint).executedJointCallback message now
  | .rawAction message => (s.count .rawAction).rawActionCallback message now
  | .guardedAction message => (s.count .guardedAction).guardedActionCallback message now
  | .gripperState message => (s.count .gripperState).gripperStateCallback message
  | .executedGripper data => (s.count .executedGripper).executedGripperCallback data
  | .gripperContact data => (s.count .gripperContact).contactCallback data
  | .smolvlaStatus data => (s.count .smolvlaStatus).statusCallback data
  | .normalizedChunk message => (s.count .normalizedChunk).normalizedChunkCallback message
  | .policyObservation message => (s.count .policyObservation).policyObservationCallback message now
  | .chest message => (s.count .chest).chestCallback message now
  | .wrist message => (s.count .wrist).wristCallback message now
  | .sampleTimer => s.sample now

def workerStep (codec : Codec Img) (label : Label) (s : QgfEpisodeRecorder K Img) :
    Camera → Option (QgfEpisodeRecorder K Img)
  | .chest => (next codec s.chest label).map fun chest => { s with chest }
  | .wrist => (next codec s.wrist label).map fun wrist => { s with wrist }

/-- One step; callbacks end when `close` begins. -/
def step (codec : Codec Img) (s : QgfEpisodeRecorder K Img) :
    RecorderLabel K → Option (QgfEpisodeRecorder K Img)
  | .callback callback now =>
      if s.chest.closeStage = .opened then some (callback.perform now s) else none
  | .take camera => workerStep codec .take s camera
  | .write camera fault => workerStep codec (.write fault) s camera
  | .close => s.closeStep

end Steps

end SmolVlaQgf.EpisodeRecorder
