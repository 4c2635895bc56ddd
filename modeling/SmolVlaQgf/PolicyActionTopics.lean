import SmolVlaQgf.ActionOutcomes
import SmolVlaQgf.EpisodeRecorder
import SmolVlaQgf.FallibleTraversals
import SmolVlaQgf.FifoChannels

/-!
# The two policy-action topics

`send_action` publishes the raw action on one topic and, once the guard has accepted it,
the guarded action on another. The recorder keeps the latest message of each, and its
sampling timer writes whatever the two slots hold.
-/

namespace SmolVlaQgf.PolicyActionTopics
open FifoChannels FallibleTraversals ExactFloats PolicySafetyGuard ArmstrongConfiguration
open ArmstrongAdapter Adapter ActionOutcomes EpisodeRecorder

/-! ## Messages and calls -/

/-- The seconds and nanoseconds of the clock a message is stamped with. -/
abbrev Stamp := ℤ × ℤ

/-- The message of `_publish_policy_action`. -/
def policyActionMessage {K : Type} (stamp : Stamp) (timestep : ℤ)
    (values : Fin actionDim → PyFloat K) : JointState K where
  name := actionNames
  position := List.ofFn values
  frameId := some timestep
  sec := stamp.1
  nanosec := stamp.2

/-- A call of `send_action` that published its raw action, and its guarded action if the
guard accepted. -/
structure PolicyCall (K : Type) where
  timestep : ℤ
  predicted : Fin actionDim → PyFloat K
  guarded : Option (Fin actionDim → K)
  rawStamp : Stamp
  guardedStamp : Stamp

namespace PolicyCall

variable {K : Type}

def rawMessage (call : PolicyCall K) : JointState K :=
  policyActionMessage call.rawStamp call.timestep call.predicted

def guardedMessage (call : PolicyCall K) : Option (JointState K) :=
  call.guarded.map fun values =>
    policyActionMessage call.guardedStamp call.timestep fun i => .finite (values i)

end PolicyCall

section Effects

variable {K : Type}

def rawContent : Effect K → Option (ℤ × (Fin actionDim → PyFloat K))
  | .rawPolicyAction timestep values => some (timestep, values)
  | _ => none

def guardedContent : Effect K → Option (ℤ × (Fin actionDim → K))
  | .guardedPolicyAction timestep values => some (timestep, values)
  | _ => none

def rawMessages (stamp : Stamp) (effects : List (Effect K)) : List (JointState K) :=
  (effects.filterMap rawContent).map fun content =>
    policyActionMessage stamp content.1 content.2

def guardedMessages (stamp : Stamp) (effects : List (Effect K)) : List (JointState K) :=
  (effects.filterMap guardedContent).map fun content =>
    policyActionMessage stamp content.1 fun i => .finite (content.2 i)

/-- The call the effects belong to, if they publish a raw action. -/
def policyCall (rawStamp guardedStamp : Stamp) (effects : List (Effect K)) :
    Option (PolicyCall K) :=
  (effects.filterMap rawContent).head?.map fun content => {
    timestep := content.1
    predicted := content.2
    guarded := (effects.filterMap guardedContent).head?.map Prod.snd
    rawStamp
    guardedStamp }

end Effects

/-! ## Runs -/

structure Delivered where
  raw : ℕ
  guarded : ℕ
  deriving DecidableEq

/-- `calls` and `written` are history: the calls that published a raw action, and what had
been delivered when each row was written. -/
structure State (K Img Frame : Type) where
  adapter : Adapter K Img
  rawTopic : Channel (JointState K)
  guardedTopic : Channel (JointState K)
  recorder : QgfEpisodeRecorder K Frame
  calls : List (PolicyCall K)
  written : List Delivered

variable {K Img Frame : Type}

def State.initial (adapter : Adapter K Img) (recorder : QgfEpisodeRecorder K Frame) :
    State K Img Frame where
  adapter
  rawTopic := .empty
  guardedTopic := .empty
  recorder
  calls := []
  written := []

def State.delivered (s : State K Img Frame) : Delivered :=
  ⟨s.rawTopic.delivered, s.guardedTopic.delivered⟩

/-- A call of the adapter, the arrival of the next message of a topic, the sampling timer,
or any other step of the recorder. -/
inductive Label (K Img : Type) where
  | operate (operation : Operation K Img) (rawStamp guardedStamp : Stamp)
  | deliverRaw (now : ℤ)
  | deliverGuarded (now : ℤ)
  | sample (now : ℤ)
  | record (label : RecorderLabel K)

def concernsActions : RecorderLabel K → Bool
  | .callback (.rawAction _) _ | .callback (.guardedAction _) _ | .callback .sampleTimer _ => true
  | _ => false

section Steps

variable [Field K] [LinearOrder K] [FloorRing K] [FloatRounding.Rounding K]

/-- One step; the topics and the timer interleave freely. -/
def next (config : AdapterConfig K) (codec : CameraVideo.Codec Frame) (s : State K Img Frame) :
    Label K Img → Option (State K Img Frame)
  | .operate operation rawStamp guardedStamp =>
      let performed := operation.perform config s.adapter
      some { s with
        adapter := performed.1
        rawTopic := s.rawTopic.send (rawMessages rawStamp performed.2)
        guardedTopic := s.guardedTopic.send (guardedMessages guardedStamp performed.2)
        calls := s.calls ++ (policyCall rawStamp guardedStamp performed.2).toList }
  | .deliverRaw now => do
      let (message, rawTopic) ← s.rawTopic.deliver
      let recorder ← EpisodeRecorder.step codec s.recorder (.callback (.rawAction message) now)
      return { s with rawTopic, recorder }
  | .deliverGuarded now => do
      let (message, guardedTopic) ← s.guardedTopic.deliver
      let recorder ← EpisodeRecorder.step codec s.recorder (.callback (.guardedAction message) now)
      return { s with guardedTopic, recorder }
  | .sample now => do
      let recorder ← EpisodeRecorder.step codec s.recorder (.callback .sampleTimer now)
      return { s with
        recorder
        written := if s.recorder.samples.length < recorder.samples.length
          then s.written ++ [s.delivered] else s.written }
  | .record label =>
      if concernsActions label then none
      else (EpisodeRecorder.step codec s.recorder label).map fun recorder => { s with recorder }

end Steps

/-! ## What an operation publishes -/

section Publishing

structure Silent (effects : List (Effect K)) : Prop where
  raw : effects.filterMap rawContent = []
  guarded : effects.filterMap guardedContent = []

/-- A call publishes no policy action, a raw one, or a raw and a guarded one; both carry
the timestep of the adapter. -/
inductive PolicyEffects (timestep : ℤ) (effects : List (Effect K)) : Prop where
  | silent (hsilent : Silent effects)
  | rejected (predicted : Fin actionDim → PyFloat K)
      (hraw : effects.filterMap rawContent = [(timestep, predicted)])
      (hguarded : effects.filterMap guardedContent = [])
  | accepted (predicted : Fin actionDim → PyFloat K) (values : Fin actionDim → K)
      (hraw : effects.filterMap rawContent = [(timestep, predicted)])
      (hguarded : effects.filterMap guardedContent = [(timestep, values)])

private theorem silent_nil : Silent ([] : List (Effect K)) := ⟨rfl, rfl⟩

private theorem rawContent_publishStop (s : Adapter K Img) :
    s.publishStop.filterMap rawContent = [] := by
  rw [publishStop]
  split_ifs <;> rfl

private theorem guardedContent_publishStop (s : Adapter K Img) :
    s.publishStop.filterMap guardedContent = [] := by
  rw [publishStop]
  split_ifs <;> rfl

private theorem rawContent_publishGripper (temporal : GripperFilter.GripperTemporalResult)
    (s : Adapter K Img) : (s.publishGripper temporal).effects.filterMap rawContent = [] := by
  rw [publishGripper]
  split_ifs <;> rfl

private theorem guardedContent_publishGripper (temporal : GripperFilter.GripperTemporalResult)
    (s : Adapter K Img) : (s.publishGripper temporal).effects.filterMap guardedContent = [] := by
  rw [publishGripper]
  split_ifs <;> rfl

theorem Silent.stop {effects : List (Effect K)} (h : Silent effects) (s : Adapter K Img) :
    Silent (effects ++ s.publishStop) where
  raw := by rw [List.filterMap_append, h.raw, rawContent_publishStop, List.nil_append]
  guarded := by rw [List.filterMap_append, h.guarded, guardedContent_publishStop, List.nil_append]

variable [Field K] [LinearOrder K] [FloorRing K] [FloatRounding.Rounding K]

private theorem policyEffects_sendAction (config : AdapterConfig K) (snapshotTime filterTime : K)
    (action : ActionDict K) (s : Adapter K Img) :
    PolicyEffects s.currentPolicyActionTimestep
      (s.sendAction config snapshotTime filterTime action).effects := by
  have houtcome := sendAction_outcome config snapshotTime filterTime action s
  generalize s.sendAction config snapshotTime filterTime action = outcome at houtcome
  cases houtcome with
  | disconnected | gateClosed => exact .silent silent_nil
  | stopped hopen hguard =>
    cases hguard with
    | unavailable | unmeasured => exact .silent silent_nil
    | @rejected joints predicted =>
      rw [publishRawAction]
      split_ifs
      · refine .rejected predicted ?_ ?_
        · rw [List.filterMap_append, rawContent_publishStop]
          rfl
        · rw [List.filterMap_append, guardedContent_publishStop]
          rfl
      · exact .silent (silent_nil.stop s)
  | @sent accepted filter temporal controllerJoints result sent =>
    rw [publishRawAction, publishGuardedAction]
    split_ifs
    · refine .accepted accepted.predicted (guardedValues accepted temporal) ?_ ?_
      · rw [List.filterMap_append, rawContent_publishGripper]
        rfl
      · rw [List.filterMap_append, guardedContent_publishGripper]
        rfl
    · refine .silent ⟨?_, ?_⟩
      · rw [List.filterMap_append, rawContent_publishGripper]
        rfl
      · rw [List.filterMap_append, guardedContent_publishGripper]
        rfl

omit [FloatRounding.Rounding K] in
private theorem silent_setEnabled (config : AdapterConfig K) (data : Bool)
    (readings : EnableReadings K) (s : Adapter K Img) :
    Silent (s.setEnabled config data readings).effects := by
  cases data with
  | false => exact Silent.stop ⟨rfl, rfl⟩ s
  | true =>
    rw [setEnabled, if_pos rfl, enable]
    split
    · exact silent_nil
    · dsimp only
      split
      · exact ⟨rfl, rfl⟩
      · exact ⟨rfl, rfl⟩

omit [FloorRing K] in
private theorem silent_updateTaskCompletion (config : AdapterConfig K)
    (joints : List (PyFloat K)) (gripperClosed : Bool) (now : K) (s : Adapter K Img) :
    Silent (s.updateTaskCompletion config joints gripperClosed now).effects := by
  rw [updateTaskCompletion]
  split_ifs
  · split
    · exact silent_nil
    · dsimp only
      split_ifs
      · exact silent_nil.stop _
      · exact silent_nil
  · exact silent_nil

private theorem silent_getObservation (config : AdapterConfig K) (snapshotTime completionTime : K)
    (s : Adapter K Img) :
    Silent (s.getObservation config snapshotTime completionTime).effects := by
  have hupdate : ∀ joints gripperClosed,
      Silent (s.updateTaskCompletion config joints gripperClosed completionTime).effects :=
    fun joints gripperClosed => silent_updateTaskCompletion config joints gripperClosed _ s
  rw [getObservation]
  split
  · exact silent_nil
  · split
    · exact silent_nil
    · rename_i snap _
      split
      · exact silent_nil
      · rename_i safetyJoints _
        have hupdate := hupdate (floats safetyJoints) snap.gripperClosed
        dsimp only
        split
        all_goals
          rename_i houtcome
          rwa [houtcome] at hupdate

/-- Only `send_action` publishes policy actions. -/
theorem silent_perform (config : AdapterConfig K) (s : Adapter K Img) (operation : Operation K Img)
    (h : ∀ snapshotTime filterTime action, operation ≠ .sendAction snapshotTime filterTime action) :
    Silent (operation.perform config s).2 := by
  cases operation with
  | sendAction snapshotTime filterTime action => exact absurd rfl (h _ _ _)
  | setEnabled => exact silent_setEnabled config _ _ s
  | updateTaskCompletion => exact silent_updateTaskCompletion config _ _ _ s
  | getObservation => exact silent_getObservation config _ _ s
  | disconnect now =>
    dsimp only [Operation.perform, Outcome.change]
    rw [disconnect]
    split_ifs
    · exact Silent.stop ⟨rfl, rfl⟩ s
    · exact silent_nil
  | motionEnabledCallback data now =>
    dsimp only [Operation.perform, Outcome.change]
    rw [motionEnabledCallback]
    dsimp only
    split_ifs
    · exact Silent.stop ⟨rfl, rfl⟩ _
    · exact silent_nil
  | connect =>
    dsimp only [Operation.perform, Outcome.change]
    rw [connect]
    split_ifs
    · exact silent_nil
    · exact silent_nil
    · exact silent_nil
  | resendLastJointCommand =>
    dsimp only [Operation.perform, Outcome.change]
    rw [resendLastJointCommand]
    split_ifs
    · exact silent_nil
    · split
      · exact silent_nil
      · exact ⟨rfl, rfl⟩
  | publishPolicyObservation timestep observation =>
    dsimp only [Operation.perform, Outcome.change]
    rw [publishPolicyObservation]
    split_ifs
    · split
      · exact silent_nil
      · exact ⟨rfl, rfl⟩
    · exact silent_nil
  | _ => exact silent_nil

theorem policyEffects_perform (config : AdapterConfig K) (s : Adapter K Img)
    (operation : Operation K Img) :
    PolicyEffects s.currentPolicyActionTimestep (operation.perform config s).2 := by
  by_cases h : ∃ snapshotTime filterTime action,
      operation = .sendAction snapshotTime filterTime action
  · obtain ⟨snapshotTime, filterTime, action, rfl⟩ := h
    exact policyEffects_sendAction config snapshotTime filterTime action s
  · push Not at h
    exact .silent (silent_perform config s operation h)

end Publishing

section Messages

variable {timestep : ℤ} {effects : List (Effect K)}

theorem PolicyEffects.rawMessages_eq (h : PolicyEffects timestep effects)
    (rawStamp guardedStamp : Stamp) :
    rawMessages rawStamp effects =
      (policyCall rawStamp guardedStamp effects).toList.map PolicyCall.rawMessage := by
  cases h with
  | silent hsilent => simp [rawMessages, policyCall, hsilent.raw]
  | rejected predicted hraw => simp [rawMessages, policyCall, hraw, PolicyCall.rawMessage]
  | accepted predicted values hraw =>
    simp [rawMessages, policyCall, hraw, PolicyCall.rawMessage]

/-- The messages on the guarded topic are those of the call, with the same timestep. -/
theorem PolicyEffects.guardedMessages_eq (h : PolicyEffects timestep effects)
    (rawStamp guardedStamp : Stamp) :
    guardedMessages guardedStamp effects =
      (policyCall rawStamp guardedStamp effects).toList.filterMap PolicyCall.guardedMessage := by
  cases h with
  | silent hsilent => simp [guardedMessages, policyCall, hsilent.raw, hsilent.guarded]
  | rejected predicted hraw hguarded =>
    simp [guardedMessages, policyCall, hraw, hguarded, PolicyCall.guardedMessage]
  | accepted predicted values hraw hguarded =>
    simp [guardedMessages, policyCall, hraw, hguarded, PolicyCall.guardedMessage]

end Messages

/-! ## Reading a policy action -/

private theorem nodup_actionNames : actionNames.Nodup := by decide

private theorem lookupLast_of_mem {α : Type} {names : List String} {values : List α} {name : String}
    {value : α} (hnames : names.Nodup) (hlength : names.length = values.length)
    (h : (name, value) ∈ names.zip values) : lookupLast names values name = some value := by
  have hkeys : ((names.zip values).map Prod.fst).Nodup := by
    rwa [List.map_fst_zip hlength.le]
  have hfound : ((names.zip values).reverse.find? fun p => p.1 = name).isSome = true :=
    List.find?_isSome.mpr ⟨_, List.mem_reverse.mpr h, by simp⟩
  obtain ⟨found, hfind⟩ := Option.isSome_iff_exists.mp hfound
  have hname : found.1 = name := by simpa using List.find?_some hfind
  have hmem := List.mem_reverse.mp (List.mem_of_find?_eq_some hfind)
  obtain rfl := List.inj_on_of_nodup_map hkeys hmem h hname
  rw [lookupLast, hfind]
  rfl

private theorem mapM_lookupLast {α : Type} {names : List String} {values : List α}
    (hnames : names.Nodup) (hlength : names.length = values.length) :
    names.mapM (lookupLast names values) = some values := by
  refine mapM_eq_some (List.ext_getElem (by simpa using hlength) fun i hi hi' => ?_)
  rw [List.length_map] at hi hi'
  rw [List.getElem_map, List.getElem_map]
  refine lookupLast_of_mem hnames hlength (List.mem_iff_getElem.mpr ⟨i, ?_, ?_⟩)
  · rw [List.length_zip]
    exact lt_min hi hi'
  · rw [List.getElem_zip]

theorem orderedPositions_policyActionMessage (stamp : Stamp) (timestep : ℤ)
    (values : Fin actionDim → PyFloat K) :
    orderedPositions (policyActionMessage stamp timestep values) actionNames =
      some (List.ofFn values) := by
  have hlength : actionNames.length = (List.ofFn values).length := by
    rw [List.length_ofFn]
    rfl
  have hnames : (policyActionMessage stamp timestep values).name ≠ [] := by
    simp [policyActionMessage, actionNames]
  rw [orderedPositions, if_pos hnames]
  exact mapM_lookupLast nodup_actionNames hlength

end SmolVlaQgf.PolicyActionTopics
