import Mathlib.Algebra.Order.Field.Basic
import Mathlib.Data.List.Basic
import Mathlib.Data.Rat.Cast.Order
import SmolVlaQgf.TransitionRuns

/-!
# The asynchronous policy client

The control loop pops queued actions and sends observations, the receiver thread
rebuilds the queue from each delivered chunk, and the executor thread of the robot
serves episode resets. Observations and chunks stay in flight for any time. The
receiver is that of the LeRobot base class; how it combines two actions of one
timestep is the parameter `merge`. Whether a send succeeds, whether the server takes
an observation, and when the gate moves is left to the labels.
-/

namespace SmolVlaQgf.AsyncPolicyClient
open TransitionRuns

/-! ## The client -/

/-- A queued action; `sources` are the observations it was computed from. -/
structure TimedAction (A : Type) where
  timestep : ℤ
  action : A
  sources : List ℕ
  deriving DecidableEq

/-- An observation; `id` is its place in the order of captures. -/
structure TimedObservation where
  id : ℕ
  timestep : ℤ
  mustGo : Bool
  deriving DecidableEq

structure RobotClientConfig (K : Type) where
  actionsPerChunk : ℤ
  chunkSizeThreshold : K

/-- What `update_policy_queue_state` reports to the robot. -/
structure PolicyQueueState where
  queueSize : ℕ
  expectedChunkSize : ℤ
  chunkReady : Bool
  deriving DecidableEq

structure ArmstrongRobotClient (A : Type) where
  actionQueue : List (TimedAction A)
  actionChunkSize : ℤ
  latestAction : ℤ
  mustGo : Bool
  deriving DecidableEq

namespace ArmstrongRobotClient

variable {A K : Type}

def new : ArmstrongRobotClient A where
  actionQueue := []
  actionChunkSize := -1
  latestAction := -1
  mustGo := true

/-- The queue state that `_sync_policy_queue_status` reports. -/
def policyQueueStatus (config : RobotClientConfig K) (c : ArmstrongRobotClient A) :
    PolicyQueueState :=
  let queueSize := c.actionQueue.length
  let expected := max 1 config.actionsPerChunk
  let minimumReady := max 1 (expected - 1)
  { queueSize
    expectedChunkSize := expected
    chunkReady := decide (minimumReady ≤ c.actionChunkSize) && decide (minimumReady ≤ queueSize) }

/-- `latest_action` is kept. -/
def resetEpisodeQueue (c : ArmstrongRobotClient A) : ArmstrongRobotClient A :=
  { c with actionQueue := [], actionChunkSize := -1, mustGo := true }

def observationTimestep (c : ArmstrongRobotClient A) : ℤ := max c.latestAction 0

/-- The queue has fallen to the configured share of the last chunk. -/
def thresholdReached [Field K] [LinearOrder K] (config : RobotClientConfig K)
    (c : ArmstrongRobotClient A) : Bool :=
  decide (0 < c.actionChunkSize) &&
    decide ((c.actionQueue.length : K) / (c.actionChunkSize : K) ≤ config.chunkSizeThreshold)

def observationMustGo [Field K] [LinearOrder K] (config : RobotClientConfig K)
    (c : ArmstrongRobotClient A) : Bool :=
  c.mustGo && (decide (c.actionChunkSize ≤ 0) || c.thresholdReached config)

def mergeQueued (merge : A → A → A) (queue : List (TimedAction A)) (new : TimedAction A) :
    TimedAction A :=
  match queue.reverse.find? (·.timestep == new.timestep) with
  | some old =>
      { new with action := merge old.action new.action, sources := old.sources ++ new.sources }
  | none => new

def receiveActions (merge : A → A → A) (chunk : List (TimedAction A))
    (c : ArmstrongRobotClient A) : ArmstrongRobotClient A where
  actionQueue :=
    (chunk.filter fun new => c.latestAction < new.timestep).map (mergeQueued merge c.actionQueue)
  actionChunkSize := max c.actionChunkSize chunk.length
  latestAction := c.latestAction
  mustGo := true

@[simp] theorem resetEpisodeQueue_actionQueue (c : ArmstrongRobotClient A) :
    c.resetEpisodeQueue.actionQueue = [] := rfl

@[simp] theorem resetEpisodeQueue_latestAction (c : ArmstrongRobotClient A) :
    c.resetEpisodeQueue.latestAction = c.latestAction := rfl

@[simp] theorem receiveActions_latestAction (merge : A → A → A) (chunk : List (TimedAction A))
    (c : ArmstrongRobotClient A) : (c.receiveActions merge chunk).latestAction = c.latestAction :=
  rfl

@[simp] theorem mergeQueued_timestep (merge : A → A → A) (queue : List (TimedAction A))
    (new : TimedAction A) : (mergeQueued merge queue new).timestep = new.timestep := by
  rw [mergeQueued]
  split <;> rfl

/-- A merged action comes from the incoming and the queued one only. -/
theorem mem_sources_mergeQueued {merge : A → A → A} {queue : List (TimedAction A)}
    {new : TimedAction A} {id : ℕ} (h : id ∈ (mergeQueued merge queue new).sources) :
    id ∈ new.sources ∨ id ∈ queue.flatMap (·.sources) := by
  rw [mergeQueued] at h
  split at h
  · rename_i old hfound
    have hold : old ∈ queue := List.mem_reverse.mp (List.mem_of_find?_eq_some hfound)
    rcases List.mem_append.mp h with hqueued | hnew
    · exact Or.inr (List.mem_flatMap.mpr ⟨old, hold, hqueued⟩)
    · exact Or.inl hnew
  · exact Or.inl h

end ArmstrongRobotClient

/-! ## The system -/

/-- Where `control_loop_action` stands: past its gate check, after the pop, after the send. -/
inductive ActionThread (A : Type) where
  | idle
  | checked
  | popped (action : TimedAction A)
  | executed (action : TimedAction A)
  deriving DecidableEq

/-- Where `control_loop_observation` stands. -/
inductive ObservationThread where
  | idle
  | captured (id : ℕ)
  | stamped (observation : TimedObservation)
  | marked (observation : TimedObservation)
  | sent (observation : TimedObservation)
  deriving DecidableEq

inductive Event (A : Type) where
  | captured (id : ℕ)
  | sent (action : TimedAction A) (succeeded : Bool)
  | reset
  deriving DecidableEq

/-- `resetPending` stands for a reset service that has passed its gate check, `captures`
counts the observations captured so far. -/
structure State (A : Type) where
  client : ArmstrongRobotClient A
  status : PolicyQueueState
  gate : Bool
  resetPending : Bool
  actionThread : ActionThread A
  observationThread : ObservationThread
  observations : List TimedObservation
  chunks : List (List (TimedAction A))
  captures : ℕ
  log : List (Event A)
  deriving DecidableEq

/-- One step of a thread, of the server, of the receiver, of the gate or of the service. -/
inductive Label (A : Type) where
  | checkGate
  | pop
  | sendAction (succeeded : Bool)
  | recordAction
  | capture
  | stamp
  | mark
  | sendObservation (sent : Bool)
  | finishObservation
  | infer (index : ℕ) (actions : List A)
  | deliver (index : ℕ)
  | setGate (actionEnabled : Bool)
  | requestReset
  | clearQueue

section Steps

variable {A K : Type}

/-- A freshly started client; its reset callback is registered. -/
def State.initial : State A where
  client := .new
  status := ⟨0, 0, false⟩
  gate := false
  resetPending := false
  actionThread := .idle
  observationThread := .idle
  observations := []
  chunks := []
  captures := 0
  log := []

/-- The server's answer: consecutive timesteps from that of the observation. -/
def timeActionChunk (observation : TimedObservation) (actions : List A) : List (TimedAction A) :=
  actions.zipIdx.map fun (action, i) => ⟨observation.timestep + i, action, [observation.id]⟩

/-- The state after `_sync_policy_queue_status`. -/
def State.sync (config : RobotClientConfig K) (s : State A) : State A :=
  { s with status := s.client.policyQueueStatus config }

/-- The steps of `control_loop_action`; an empty queue and a failed send end it. -/
def nextAction (config : RobotClientConfig K) (s : State A) :
    ActionThread A → Label A → Option (State A)
  | .idle, .checkGate =>
      if s.gate then some { s with actionThread := .checked } else some (s.sync config)
  | .checked, .pop =>
      match s.client.actionQueue with
      | [] => some { s with actionThread := .idle }
      | action :: rest => some { s with
          client := { s.client with actionQueue := rest }
          actionThread := .popped action }
  | .popped action, .sendAction succeeded => some { s with
      actionThread := if succeeded then .executed action else .idle
      log := s.log ++ [.sent action succeeded] }
  | .executed action, .recordAction => some (State.sync config { s with
      client := { s.client with latestAction := action.timestep }
      actionThread := .idle })
  | _, _ => none

variable [Field K] [LinearOrder K]

/-- The steps of `control_loop_observation`; an observation not taken ends it. -/
def nextObservation (config : RobotClientConfig K) (s : State A) :
    ObservationThread → Label A → Option (State A)
  | .idle, .capture => some { s with
      observationThread := .captured s.captures
      captures := s.captures + 1
      log := s.log ++ [.captured s.captures] }
  | .captured id, .stamp => some { s with
      observationThread := .stamped ⟨id, s.client.observationTimestep, false⟩ }
  | .stamped observation, .mark => some { s with
      observationThread := .marked
        { observation with mustGo := s.client.observationMustGo config } }
  | .marked observation, .sendObservation true => some { s with
      observationThread := .sent observation
      observations := s.observations ++ [observation] }
  | .marked _, .sendObservation false => some { s with observationThread := .idle }
  | .sent observation, .finishObservation => some { s with
      client := { s.client with mustGo := s.client.mustGo && !observation.mustGo }
      observationThread := .idle }
  | _, _ => none

/-- One step of the system; the reset is refused while the gate is open. -/
def next (merge : A → A → A) (config : RobotClientConfig K) (s : State A) :
    Label A → Option (State A)
  | .infer index actions => s.observations[index]?.map fun observation => { s with
      observations := s.observations.eraseIdx index
      chunks := s.chunks ++ [timeActionChunk observation actions] }
  | .deliver index => s.chunks[index]?.map fun chunk => { s with
      client := s.client.receiveActions merge chunk
      chunks := s.chunks.eraseIdx index }
  | .setGate actionEnabled => some { s with gate := actionEnabled }
  | .requestReset => if s.gate then some s else some { s with resetPending := true }
  | .clearQueue =>
      if s.resetPending then
        some (State.sync config { s with
          client := s.client.resetEpisodeQueue
          resetPending := false
          log := s.log ++ [.reset] })
      else none
  | .checkGate => nextAction config s s.actionThread .checkGate
  | .pop => nextAction config s s.actionThread .pop
  | .sendAction succeeded => nextAction config s s.actionThread (.sendAction succeeded)
  | .recordAction => nextAction config s s.actionThread .recordAction
  | .capture => nextObservation config s s.observationThread .capture
  | .stamp => nextObservation config s s.observationThread .stamp
  | .mark => nextObservation config s s.observationThread .mark
  | .sendObservation sent => nextObservation config s s.observationThread (.sendObservation sent)
  | .finishObservation => nextObservation config s s.observationThread .finishObservation

/-! ## What one step does -/

/-- The successful steps, each with the facts that enabled it. -/
inductive Transition (merge : A → A → A) (config : RobotClientConfig K) (s : State A) :
    Label A → State A → Prop where
  | gateClosed (hthread : s.actionThread = .idle) (hgate : s.gate = false) :
      Transition merge config s .checkGate (s.sync config)
  | gateOpen (hthread : s.actionThread = .idle) (hgate : s.gate = true) :
      Transition merge config s .checkGate { s with actionThread := .checked }
  | queueEmpty (hthread : s.actionThread = .checked) (hqueue : s.client.actionQueue = []) :
      Transition merge config s .pop { s with actionThread := .idle }
  | popped {action rest} (hthread : s.actionThread = .checked)
      (hqueue : s.client.actionQueue = action :: rest) :
      Transition merge config s .pop { s with
        client := { s.client with actionQueue := rest }
        actionThread := .popped action }
  | sent {action} (hthread : s.actionThread = .popped action) (succeeded : Bool) :
      Transition merge config s (.sendAction succeeded) { s with
        actionThread := if succeeded then .executed action else .idle
        log := s.log ++ [.sent action succeeded] }
  | recorded {action} (hthread : s.actionThread = .executed action) :
      Transition merge config s .recordAction (State.sync config { s with
        client := { s.client with latestAction := action.timestep }
        actionThread := .idle })
  | captured (hthread : s.observationThread = .idle) :
      Transition merge config s .capture { s with
        observationThread := .captured s.captures
        captures := s.captures + 1
        log := s.log ++ [.captured s.captures] }
  | stamped {id} (hthread : s.observationThread = .captured id) :
      Transition merge config s .stamp { s with
        observationThread := .stamped ⟨id, s.client.observationTimestep, false⟩ }
  | marked {observation} (hthread : s.observationThread = .stamped observation) :
      Transition merge config s .mark { s with
        observationThread := .marked
          { observation with mustGo := s.client.observationMustGo config } }
  | taken {observation} (hthread : s.observationThread = .marked observation) :
      Transition merge config s (.sendObservation true) { s with
        observationThread := .sent observation
        observations := s.observations ++ [observation] }
  | notTaken {observation} (hthread : s.observationThread = .marked observation) :
      Transition merge config s (.sendObservation false) { s with observationThread := .idle }
  | finished {observation} (hthread : s.observationThread = .sent observation) :
      Transition merge config s .finishObservation { s with
        client := { s.client with mustGo := s.client.mustGo && !observation.mustGo }
        observationThread := .idle }
  | inferred {index observation} (hobservation : s.observations[index]? = some observation)
      (actions : List A) : Transition merge config s (.infer index actions) { s with
        observations := s.observations.eraseIdx index
        chunks := s.chunks ++ [timeActionChunk observation actions] }
  | delivered {index chunk} (hchunk : s.chunks[index]? = some chunk) :
      Transition merge config s (.deliver index) { s with
        client := s.client.receiveActions merge chunk
        chunks := s.chunks.eraseIdx index }
  | gateSet (actionEnabled : Bool) :
      Transition merge config s (.setGate actionEnabled) { s with gate := actionEnabled }
  | resetRefused (hgate : s.gate = true) : Transition merge config s .requestReset s
  | resetAdmitted (hgate : s.gate = false) :
      Transition merge config s .requestReset { s with resetPending := true }
  | queueCleared (hpending : s.resetPending = true) :
      Transition merge config s .clearQueue (State.sync config { s with
        client := s.client.resetEpisodeQueue
        resetPending := false
        log := s.log ++ [.reset] })

variable {merge : A → A → A} {config : RobotClientConfig K} {s t : State A}

private theorem transition_of_nextAction {label : Label A}
    (h : nextAction config s s.actionThread label = some t) :
    Transition merge config s label t := by
  cases hthread : s.actionThread <;> cases label <;> rw [hthread] at h <;>
    simp only [nextAction, reduceCtorEq] at h
  case idle.checkGate =>
    split at h <;> rename_i hgate <;> obtain rfl := Option.some.inj h
    · exact .gateOpen hthread hgate
    · exact .gateClosed hthread (Bool.eq_false_iff.mpr hgate)
  case checked.pop =>
    cases hqueue : s.client.actionQueue <;> rw [hqueue] at h <;> obtain rfl := Option.some.inj h
    · exact .queueEmpty hthread hqueue
    · exact .popped hthread hqueue
  case popped.sendAction succeeded =>
    obtain rfl := Option.some.inj h
    exact .sent hthread succeeded
  case executed.recordAction =>
    obtain rfl := Option.some.inj h
    exact .recorded hthread

private theorem transition_of_nextObservation {label : Label A}
    (h : nextObservation config s s.observationThread label = some t) :
    Transition merge config s label t := by
  cases hthread : s.observationThread <;> cases label <;> rw [hthread] at h <;>
    simp only [nextObservation, reduceCtorEq] at h
  case idle.capture =>
    obtain rfl := Option.some.inj h
    exact .captured hthread
  case captured.stamp =>
    obtain rfl := Option.some.inj h
    exact .stamped hthread
  case stamped.mark =>
    obtain rfl := Option.some.inj h
    exact .marked hthread
  case marked.sendObservation sent =>
    cases sent <;> obtain rfl := Option.some.inj h
    · exact .notTaken hthread
    · exact .taken hthread
  case sent.finishObservation =>
    obtain rfl := Option.some.inj h
    exact .finished hthread

theorem transition_of_next {label : Label A} (h : next merge config s label = some t) :
    Transition merge config s label t := by
  cases label with
  | infer index actions =>
    obtain ⟨observation, hobservation, rfl⟩ := Option.map_eq_some_iff.mp h
    exact .inferred hobservation actions
  | deliver index =>
    obtain ⟨chunk, hchunk, rfl⟩ := Option.map_eq_some_iff.mp h
    exact .delivered hchunk
  | setGate actionEnabled =>
    obtain rfl := Option.some.inj h
    exact .gateSet actionEnabled
  | requestReset =>
    rw [next] at h
    split at h <;> rename_i hgate <;> obtain rfl := Option.some.inj h
    · exact .resetRefused hgate
    · exact .resetAdmitted (Bool.eq_false_iff.mpr hgate)
  | clearQueue =>
    simp only [next, Option.ite_none_right_eq_some, Option.some.injEq] at h
    obtain ⟨hpending, rfl⟩ := h
    exact .queueCleared hpending
  | checkGate => exact transition_of_nextAction h
  | pop => exact transition_of_nextAction h
  | sendAction succeeded => exact transition_of_nextAction h
  | recordAction => exact transition_of_nextAction h
  | capture => exact transition_of_nextObservation h
  | stamp => exact transition_of_nextObservation h
  | mark => exact transition_of_nextObservation h
  | sendObservation sent => exact transition_of_nextObservation h
  | finishObservation => exact transition_of_nextObservation h

end Steps

/-! ## A client without action values -/

/-- Chunks of two actions, requested again at half a chunk; a newer action replaces an older. -/
def nextUnit : State Unit → Label Unit → Option (State Unit) :=
  next (fun _ new => new) (⟨2, 1 / 2⟩ : RobotClientConfig ℚ)

def requestChunk : List (Label Unit) :=
  [.capture, .stamp, .mark, .sendObservation true, .finishObservation]

/-- The server's answer to the oldest observation reaches the client. -/
def answer : List (Label Unit) := [.infer 0 [(), ()], .deliver 0]

def popAndSend : List (Label Unit) := [.checkGate, .pop, .sendAction true]

end SmolVlaQgf.AsyncPolicyClient
