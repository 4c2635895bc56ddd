import SmolVlaQgf.GateLifecycle
import SmolVlaQgf.PolicyActionTopics
import SmolVlaQgf.RecordedFrameIndices

/-!
# The calls a recorded row comes from

The slots of the recorder hold the actions of the last delivered messages of the two
topics, and a row holds the two slots. Which calls these are is a matter of how many
messages of each topic have arrived.
-/

namespace SmolVlaQgf.RowActions
open TransitionRuns FifoChannels ExactFloats PolicySafetyGuard ArmstrongConfiguration
open ArmstrongAdapter Adapter EpisodeRecorder QgfEpisodeRecorder PolicyActionTopics
open RecordedFrameIndices

variable {K Img Frame : Type}

/-! ## The two slots -/

/-- A step of the recorder that neither writes a row nor changes the two actions. -/
structure KeepsActions (s t : QgfEpisodeRecorder K Frame) : Prop where
  samples : t.samples = s.samples
  rawAction : t.rawAction = s.rawAction
  timestep : t.policyActionTimestep = s.policyActionTimestep
  guardedAction : t.guardedAction = s.guardedAction

section Recorder

variable [Field K] [LinearOrder K] {codec : CameraVideo.Codec Frame}
variable {s t : QgfEpisodeRecorder K Frame}

private theorem keepsActions_callback {callback : Callback K} {now : ℤ}
    (h : concernsActions (.callback callback now) = false) :
    KeepsActions s (callback.perform now s) := by
  cases callback with
  | rawAction | guardedAction | sampleTimer => cases h
  | jointState message =>
    simp only [Callback.perform, stateCallback]
    split <;> constructor <;> rfl
  | executedJoint message =>
    simp only [Callback.perform, executedJointCallback]
    split <;> constructor <;> rfl
  | gripperState message =>
    simp only [Callback.perform, gripperStateCallback]
    split <;> constructor <;> rfl
  | normalizedChunk message =>
    simp only [Callback.perform, normalizedChunkCallback]
    split
    · constructor <;> rfl
    · split
      · constructor <;> rfl
      · split <;> constructor <;> rfl
  | policyObservation message =>
    simp only [Callback.perform, policyObservationCallback]
    split <;> constructor <;> rfl
  | chest message =>
    simp only [Callback.perform, QgfEpisodeRecorder.chestCallback]
    split_ifs <;> constructor <;> rfl
  | wrist message =>
    simp only [Callback.perform, QgfEpisodeRecorder.wristCallback]
    split_ifs <;> constructor <;> rfl
  | _ => constructor <;> rfl

omit [Field K] [LinearOrder K] in
private theorem keepsActions_workerStep {label : CameraVideo.Label} {camera : Camera}
    (h : workerStep codec label s camera = some t) : KeepsActions s t := by
  cases camera with
  | chest | wrist =>
    rw [workerStep] at h
    obtain ⟨video, -, rfl⟩ := Option.map_eq_some_iff.mp h
    constructor <;> rfl

omit [Field K] [LinearOrder K] in
private theorem keepsActions_closeStep (h : s.closeStep = some t) : KeepsActions s t := by
  rw [closeStep] at h
  split at h
  · obtain ⟨wrist, -, rfl⟩ := Option.map_eq_some_iff.mp h
    constructor <;> rfl
  · obtain ⟨chest, -, rfl⟩ := Option.map_eq_some_iff.mp h
    constructor <;> rfl

private theorem keepsActions_step {label : RecorderLabel K} (hlabel : concernsActions label = false)
    (h : EpisodeRecorder.step codec s label = some t) : KeepsActions s t := by
  cases label with
  | callback callback now =>
    rw [EpisodeRecorder.step] at h
    split_ifs at h
    obtain rfl := Option.some.inj h
    exact keepsActions_callback hlabel
  | take camera => exact keepsActions_workerStep h
  | write camera fault => exact keepsActions_workerStep h
  | close => exact keepsActions_closeStep h

theorem eq_perform_of_step {callback : Callback K} {now : ℤ}
    (h : EpisodeRecorder.step codec s (.callback callback now) = some t) :
    t = callback.perform now s := by
  rw [EpisodeRecorder.step] at h
  split_ifs at h
  exact (Option.some.inj h).symm

end Recorder

/-- A row is written from the two slots as they are. -/
theorem sample_cases (now : ℤ) (s : QgfEpisodeRecorder K Frame) :
    s.sample now = s ∨ ∃ row, s.sample now = { s with samples := s.samples ++ [row] } ∧
      s.rawAction = some row.actionPolicy ∧ s.policyActionTimestep = row.policyActionTimestep ∧
      s.guardedAction = some row.actionGuarded := by
  rw [sample]
  split
  · rename_i hraw hguarded _
    split_ifs
    · exact Or.inr ⟨_, rfl, hraw, rfl, hguarded⟩
    · exact Or.inl rfl
  · exact Or.inl rfl

/-! ## The calls of a row -/

/-- How many of the first `n` calls the guard accepted. -/
def acceptedBefore (calls : List (PolicyCall K)) (n : ℕ) : ℕ :=
  sentBefore PolicyCall.guardedMessage calls n

/-- A row holds the raw action of call `i` and the guarded action of call `j`. -/
structure ActionsFrom (calls : List (PolicyCall K)) (row : SampleRow K) (i j : ℕ) : Prop where
  policy : ∃ call, calls[i]? = some call ∧ row.actionPolicy = List.ofFn call.predicted ∧
    row.policyActionTimestep = call.timestep
  guarded : ∃ call values, calls[j]? = some call ∧ call.guarded = some values ∧
    row.actionGuarded = floats values

/-- The two actions of a row are those delivered last. They come from one call exactly if
the guard accepted the call of the raw action and the guarded messages delivered are those
of the calls up to it. -/
def LatestDelivered (calls : List (PolicyCall K)) (row : SampleRow K) (delivered : Delivered) :
    Prop :=
  ∃ i j, ActionsFrom calls row i j ∧ i + 1 = delivered.raw ∧
    acceptedBefore calls (j + 1) = delivered.guarded ∧
    (i = j ↔ (calls[i]?.bind PolicyCall.guarded).isSome = true ∧
      acceptedBefore calls (i + 1) = delivered.guarded)

private theorem isSome_guardedMessage (call : PolicyCall K) :
    call.guardedMessage.isSome = call.guarded.isSome := Option.isSome_map

theorem ActionsFrom.append {calls : List (PolicyCall K)} {row : SampleRow K} {i j : ℕ}
    (h : ActionsFrom calls row i j) (more : List (PolicyCall K)) :
    ActionsFrom (calls ++ more) row i j := by
  obtain ⟨call, hcall, hpolicy⟩ := h.policy
  obtain ⟨call', values, hcall', hguarded⟩ := h.guarded
  have hi := (List.getElem?_eq_some_iff.mp hcall).1
  have hj := (List.getElem?_eq_some_iff.mp hcall').1
  refine ⟨⟨call, ?_, hpolicy⟩, ⟨call', values, ?_, hguarded⟩⟩
  · rwa [List.getElem?_append_left hi]
  · rwa [List.getElem?_append_left hj]

/-- Later calls do not change where a row comes from. -/
theorem LatestDelivered.append {calls : List (PolicyCall K)} {row : SampleRow K}
    {delivered : Delivered} (h : LatestDelivered calls row delivered)
    (more : List (PolicyCall K)) : LatestDelivered (calls ++ more) row delivered := by
  obtain ⟨i, j, hactions, hraw, hguarded, hiff⟩ := h
  obtain ⟨call, hcall, -⟩ := hactions.policy
  obtain ⟨call', -, hcall', -⟩ := hactions.guarded
  have hi := (List.getElem?_eq_some_iff.mp hcall).1
  have hj := (List.getElem?_eq_some_iff.mp hcall').1
  refine ⟨i, j, hactions.append more, hraw, ?_, ?_⟩
  · rwa [acceptedBefore, sentBefore_append more hj]
  · rwa [acceptedBefore, sentBefore_append more hi, List.getElem?_append_left hi]

/-- What the recorder holds of the two topics. -/
structure Invariant (s : State K Img Frame) : Prop where
  rawSent : s.rawTopic.sent = s.calls.map PolicyCall.rawMessage
  guardedSent : s.guardedTopic.sent = s.calls.filterMap PolicyCall.guardedMessage
  rawAction : s.recorder.rawAction = s.rawTopic.latest.map JointState.position
  timestep : s.recorder.policyActionTimestep =
    (s.rawTopic.latest.bind JointState.frameId).getD (-1)
  guardedAction : s.recorder.guardedAction = s.guardedTopic.latest.map JointState.position
  rows : List.Forall₂ (LatestDelivered s.calls) s.recorder.samples s.written

theorem invariant_initial (adapter : Adapter K Img) (gripperOpenPosition gripperClosedPosition : K)
    (chestQueueSize wristQueueSize : ℤ) :
    Invariant (.initial adapter (.new gripperOpenPosition gripperClosedPosition chestQueueSize
      wristQueueSize) : State K Img Frame) where
  rawSent := rfl
  guardedSent := rfl
  rawAction := rfl
  timestep := rfl
  guardedAction := rfl
  rows := .nil

variable {s t : State K Img Frame}

theorem Invariant.keeps {recorder : QgfEpisodeRecorder K Frame} (h : Invariant s)
    (hkeeps : KeepsActions s.recorder recorder) : Invariant { s with recorder } where
  rawSent := h.rawSent
  guardedSent := h.guardedSent
  rawAction := hkeeps.rawAction.trans h.rawAction
  timestep := hkeeps.timestep.trans h.timestep
  guardedAction := hkeeps.guardedAction.trans h.guardedAction
  rows := by
    have hrows := h.rows
    rwa [← hkeeps.samples] at hrows

/-- The raw action in the slot is that of the last call delivered. -/
theorem Invariant.exists_rawCall (h : Invariant s) {action : List (PyFloat K)}
    (haction : s.recorder.rawAction = some action) :
    ∃ i call, s.calls[i]? = some call ∧ i + 1 = s.delivered.raw ∧
      action = List.ofFn call.predicted ∧ s.recorder.policyActionTimestep = call.timestep := by
  obtain ⟨message, hlatest, rfl⟩ := Option.map_eq_some_iff.mp (h.rawAction.symm.trans haction)
  obtain ⟨i, hsent, hdelivered⟩ := Channel.exists_of_latest hlatest
  rw [h.rawSent, List.getElem?_map] at hsent
  obtain ⟨call, hcall, rfl⟩ := Option.map_eq_some_iff.mp hsent
  refine ⟨i, call, hcall, hdelivered, rfl, ?_⟩
  rw [h.timestep, hlatest]
  rfl

/-- The guarded action in the slot is that of the last accepted call delivered. -/
theorem Invariant.exists_guardedCall (h : Invariant s) {action : List (PyFloat K)}
    (haction : s.recorder.guardedAction = some action) :
    ∃ j call values, s.calls[j]? = some call ∧ call.guarded = some values ∧
      acceptedBefore s.calls (j + 1) = s.delivered.guarded ∧ action = floats values := by
  obtain ⟨message, hlatest, rfl⟩ := Option.map_eq_some_iff.mp (h.guardedAction.symm.trans haction)
  obtain ⟨n, hsent, hdelivered⟩ := Channel.exists_of_latest hlatest
  rw [h.guardedSent] at hsent
  obtain ⟨j, call, hcall, hmessage, hcount⟩ := exists_call_of_getElem?_filterMap hsent
  obtain ⟨values, hvalues, rfl⟩ := Option.map_eq_some_iff.mp hmessage
  exact ⟨j, call, values, hcall, hvalues, hcount.trans hdelivered, rfl⟩

theorem Invariant.latestDelivered (h : Invariant s) {row : SampleRow K}
    (hraw : s.recorder.rawAction = some row.actionPolicy)
    (htimestep : s.recorder.policyActionTimestep = row.policyActionTimestep)
    (hguarded : s.recorder.guardedAction = some row.actionGuarded) :
    LatestDelivered s.calls row s.delivered := by
  obtain ⟨i, call, hcall, hi, hpolicy, hcallTimestep⟩ := h.exists_rawCall hraw
  obtain ⟨j, call', values, hcall', hvalues, hj, haction⟩ := h.exists_guardedCall hguarded
  refine ⟨i, j, ⟨⟨call, hcall, hpolicy, htimestep.symm.trans hcallTimestep⟩,
    ⟨call', values, hcall', hvalues, haction⟩⟩, hi, hj, ?_⟩
  constructor
  · rintro rfl
    obtain rfl := Option.some.inj (hcall.symm.trans hcall')
    exact ⟨by simp [hcall, hvalues], hj⟩
  · rintro ⟨haccepted, hcount⟩
    rw [hcall, Option.bind_some, ← isSome_guardedMessage] at haccepted
    refine eq_of_sentBefore_eq hcall hcall' haccepted ?_ (hcount.trans hj.symm)
    rw [isSome_guardedMessage, hvalues]
    rfl

/-! ## Steps and runs -/

section Runs

variable [Field K] [LinearOrder K] [FloorRing K] [FloatRounding.Rounding K]
variable {config : AdapterConfig K} {codec : CameraVideo.Codec Frame}

theorem Invariant.operate (h : Invariant s) (operation : Operation K Img)
    (rawStamp guardedStamp : Stamp)
    (hstep : next config codec s (.operate operation rawStamp guardedStamp) = some t) :
    Invariant t := by
  have heffects := policyEffects_perform config s.adapter operation
  obtain rfl := Option.some.inj hstep
  refine ⟨?_, ?_, ?_, ?_, ?_, h.rows.imp fun _ _ hrow => hrow.append _⟩
  · rw [Channel.sent_send, h.rawSent, heffects.rawMessages_eq rawStamp guardedStamp,
      List.map_append]
  · rw [Channel.sent_send, h.guardedSent, heffects.guardedMessages_eq rawStamp guardedStamp,
      List.filterMap_append]
  · rw [Channel.latest_send]
    exact h.rawAction
  · rw [Channel.latest_send]
    exact h.timestep
  · rw [Channel.latest_send]
    exact h.guardedAction

theorem Invariant.deliverRaw (h : Invariant s) {now : ℤ}
    (hstep : next config codec s (.deliverRaw now) = some t) : Invariant t := by
  obtain ⟨⟨message, rawTopic⟩, hdeliver, hstep⟩ := Option.bind_eq_some_iff.mp hstep
  obtain ⟨recorder, hrecorder, hstep⟩ := Option.bind_eq_some_iff.mp hstep
  obtain rfl := Option.some.inj hstep
  obtain rfl := eq_perform_of_step hrecorder
  have hmem := Channel.mem_of_deliver hdeliver
  rw [h.rawSent] at hmem
  obtain ⟨call, -, rfl⟩ := List.mem_map.mp hmem
  have hread : orderedPositions call.rawMessage actionNames = some call.rawMessage.position :=
    orderedPositions_policyActionMessage _ _ _
  have hlatest := Channel.latest_of_deliver hdeliver
  refine ⟨(Channel.sent_of_deliver hdeliver).trans h.rawSent, h.guardedSent, ?_, ?_, ?_, ?_⟩
  all_goals simp only [Callback.perform, rawActionCallback, hread, hlatest]
  · rfl
  · rfl
  · exact h.guardedAction
  · exact h.rows

theorem Invariant.deliverGuarded (h : Invariant s) {now : ℤ}
    (hstep : next config codec s (.deliverGuarded now) = some t) : Invariant t := by
  obtain ⟨⟨message, guardedTopic⟩, hdeliver, hstep⟩ := Option.bind_eq_some_iff.mp hstep
  obtain ⟨recorder, hrecorder, hstep⟩ := Option.bind_eq_some_iff.mp hstep
  obtain rfl := Option.some.inj hstep
  obtain rfl := eq_perform_of_step hrecorder
  have hmem := Channel.mem_of_deliver hdeliver
  rw [h.guardedSent] at hmem
  obtain ⟨call, -, hmessage⟩ := List.mem_filterMap.mp hmem
  obtain ⟨values, -, rfl⟩ := Option.map_eq_some_iff.mp hmessage
  have hread := orderedPositions_policyActionMessage call.guardedStamp call.timestep
    fun i => .finite (values i)
  have hlatest := Channel.latest_of_deliver hdeliver
  refine ⟨h.rawSent, (Channel.sent_of_deliver hdeliver).trans h.guardedSent, ?_, ?_, ?_, ?_⟩
  all_goals simp only [Callback.perform, guardedActionCallback, hread, hlatest]
  · exact h.rawAction
  · exact h.timestep
  · rfl
  · exact h.rows

theorem Invariant.sample (h : Invariant s) {now : ℤ}
    (hstep : next config codec s (.sample now) = some t) : Invariant t := by
  obtain ⟨recorder, hrecorder, hstep⟩ := Option.bind_eq_some_iff.mp hstep
  obtain rfl := Option.some.inj hstep
  obtain rfl := eq_perform_of_step hrecorder
  rcases sample_cases now s.recorder with hsame | ⟨row, hrow, hraw, htimestep, hguarded⟩
  · simp only [Callback.perform, hsame, lt_irrefl, if_false]
    exact h
  · have hlonger : s.recorder.samples.length < (s.recorder.samples ++ [row]).length := by
      rw [List.length_append]
      exact Nat.lt_succ_self _
    have hlatest := h.latestDelivered hraw htimestep hguarded
    simp only [Callback.perform, hrow, if_pos hlonger]
    exact ⟨h.rawSent, h.guardedSent, h.rawAction, h.timestep, h.guardedAction,
      List.rel_append h.rows (.cons hlatest .nil)⟩

theorem Invariant.step {label : Label K Img} (h : Invariant s)
    (hstep : next config codec s label = some t) : Invariant t := by
  cases label with
  | operate operation rawStamp guardedStamp => exact h.operate operation rawStamp guardedStamp hstep
  | deliverRaw now => exact h.deliverRaw hstep
  | deliverGuarded now => exact h.deliverGuarded hstep
  | sample now => exact h.sample hstep
  | record label =>
    rw [next] at hstep
    split_ifs at hstep with hlabel
    obtain ⟨recorder, hrecorder, rfl⟩ := Option.map_eq_some_iff.mp hstep
    exact h.keeps (keepsActions_step (Bool.not_eq_true _ ▸ hlabel) hrecorder)

/-- In every run, whatever the guard decides and in whatever order messages and timer
ticks arrive, each row pairs the actions of the two topics delivered last. -/
theorem row_actions_latest_delivered {adapter : Adapter K Img}
    {gripperOpenPosition gripperClosedPosition : K} {chestQueueSize wristQueueSize : ℤ}
    {labels : List (Label K Img)}
    (h : Run (Steps (next config codec)) (.initial adapter (.new gripperOpenPosition
      gripperClosedPosition chestQueueSize wristQueueSize)) labels s) :
    s.rawTopic.sent = s.calls.map PolicyCall.rawMessage ∧
      s.guardedTopic.sent = s.calls.filterMap PolicyCall.guardedMessage ∧
      List.Forall₂ (LatestDelivered s.calls) s.recorder.samples s.written := by
  have hs : Invariant s := h.invariant (I := Invariant)
    (fun _ _ _ hstep hs => hs.step hstep) (invariant_initial _ _ _ _ _)
  exact ⟨hs.rawSent, hs.guardedSent, hs.rows⟩

end Runs

/-! ## Concrete recordings -/

/-- The reset pose with an open gripper, the first joint moved. -/
def nearHome (offset : ℚ) : ActionDict ℚ := featureDict fun i =>
  .finite (withGripper (Function.update homeJoints firstJoint (homeJoints firstJoint + offset)) 0 i)

def perform (operation : Operation ℚ Unit) : Label ℚ Unit := .operate operation (1, 0) (1, 0)

def twoActions : List (Operation ℚ Unit) := [
  .setPolicyActionTimestep 0, .sendAction 1 1 (nearHome 0),
  .setPolicyActionTimestep 1, .sendAction 1 1 (nearHome (1 / 100))]

/-- Both messages of the first action arrive, and everything else a row needs. -/
def firstArrivals : List (Label ℚ Unit) :=
  [.deliverRaw 1, .deliverGuarded 1] ++ [
    receive (.jointState (zeroMessage armNames)),
    receive (.executedJoint (zeroMessage armNames)),
    receive (.gripperState (zeroMessage [gripperName])),
    receive (.wrist (imageAt 2)),
    receive (.chest (imageAt 2))].map Label.record

/-- The timer fires before and after the raw message of the second action arrives. -/
def twoRows : List (Label ℚ Unit) :=
  (GateLifecycle.rolloutStart ++ twoActions).map perform ++ firstArrivals ++
    [.sample 2, .deliverRaw 2, .sample 3]

def recordingStart : State ℚ Unit Unit := .initial (Adapter.initial 0) (.new 0 1 1 1)

/-- The first row is of the first action; the second row was written when two raw messages
and one guarded message had arrived. -/
theorem twoRows_latest_delivered :
    ∃ s, execute (next shippedConfig unitCodec) recordingStart twoRows = some s ∧
      s.written = [⟨1, 1⟩, ⟨2, 1⟩] ∧
      List.Forall₂ (LatestDelivered s.calls) s.recorder.samples s.written := by
  have hsome : ((execute (next shippedConfig unitCodec) recordingStart
      twoRows).any fun s => decide (s.written = [⟨1, 1⟩, ⟨2, 1⟩])) = true := by decide +kernel
  obtain ⟨s, hs, hwritten⟩ := (Option.any_eq_true _ _).mp hsome
  exact ⟨s, hs, of_decide_eq_true hwritten, (row_actions_latest_delivered (run_of_execute hs)).2.2⟩

/-- A row whose two actions are of no single call. -/
def hasMixedRow (s : State ℚ Unit Unit) : Bool :=
  s.recorder.samples.any fun row => s.calls.all fun call =>
    !(decide (row.actionPolicy.map PyFloat.exact =
        (List.ofFn call.predicted).map PyFloat.exact) &&
      decide (call.guarded.map List.ofFn = some (row.actionGuarded.map PyFloat.exact)))

/-- The second row pairs the raw action of the second call with the guarded action of the
first. -/
theorem mixed_row :
    ¬∀ (labels : List (Label ℚ Unit)) (s : State ℚ Unit Unit),
      Run (Steps (next shippedConfig unitCodec)) recordingStart labels s →
      ∀ row ∈ s.recorder.samples, ∃ call ∈ s.calls,
        row.actionPolicy = List.ofFn call.predicted ∧
          call.guarded.map floats = some row.actionGuarded := by
  intro hall
  obtain ⟨s, hrun, hmixed⟩ := exists_run_of_execute
    (next shippedConfig unitCodec) recordingStart twoRows hasMixedRow
    (by decide +kernel)
  obtain ⟨row, hrow, hcalls⟩ := List.any_eq_true.mp hmixed
  obtain ⟨call, hcall, hpolicy, hguarded⟩ := hall _ s hrun row hrow
  obtain ⟨values, hvalues, haction⟩ := Option.map_eq_some_iff.mp hguarded
  have hexact : row.actionGuarded.map PyFloat.exact = List.ofFn values := by
    rw [← haction, floats, List.map_ofFn]
    rfl
  have hnone := List.all_eq_true.mp hcalls call hcall
  rw [hpolicy, hvalues, hexact] at hnone
  simp at hnone

end SmolVlaQgf.RowActions
