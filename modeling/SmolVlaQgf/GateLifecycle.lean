import SmolVlaQgf.GateSteps

/-!
# The lifecycle of the action gate

Runs of atomic calls from the initial state. An open gate is traced back to the
enable request that opened it: the motion gate has been on since, and the gripper
filter and the completion detector are what that request reset, advanced by updates
alone.
-/

namespace SmolVlaQgf.GateLifecycle
open ExactFloats PolicySafetyGuard GripperFilter TaskCompletion ArmstrongConfiguration
  ArmstrongAdapter Adapter ActionOutcomes GateSteps TransitionRuns

section Runs

variable {K Img : Type} [Field K] [LinearOrder K] [FloorRing K] [FloatRounding.Rounding K]
variable {config : AdapterConfig K} {s t : Adapter K Img} {calls : List (Call K Img)}

/-! ## Fields written by connection and by the motion message -/

def motionMessage : Operation K Img → Option Bool
  | .motionEnabledCallback data _ => some data
  | _ => none

def lastMotionMessage (calls : List (Call K Img)) : Option Bool :=
  (calls.filterMap fun call => motionMessage call.operation).getLast?

/-- The fields that only connection and the motion message write. -/
structure SameLink (s t : Adapter K Img) : Prop where
  connected : t.connected = s.connected
  nodeCreated : t.nodeCreated = s.nodeCreated
  armMotionEnabled : t.armMotionEnabled = s.armMotionEnabled

omit [Field K] [LinearOrder K] [FloorRing K] [FloatRounding.Rounding K] in
theorem SameLink.rfl : SameLink s s := ⟨Eq.refl _, Eq.refl _, Eq.refl _⟩

private theorem sendAction_sameLink {snapshotTime filterTime : K} {action : ActionDict K} :
    SameLink s (s.sendAction config snapshotTime filterTime action).adapter := by
  have houtcome := sendAction_outcome config snapshotTime filterTime action s
  generalize s.sendAction config snapshotTime filterTime action = outcome at houtcome
  cases houtcome with
  | disconnected => exact .rfl
  | gateClosed => exact .rfl
  | stopped hopen hguard => cases hguard <;> exact ⟨rfl, rfl, rfl⟩
  | sent hopen hupdate hsent =>
    subst hsent
    exact ⟨by simp, by simp, by simp⟩

omit [FloorRing K] in
private theorem updateTaskCompletion_sameLink {joints : List (PyFloat K)} {gripperClosed : Bool}
    {now : K} :
    SameLink s (s.updateTaskCompletion config joints gripperClosed now).adapter := by
  rw [updateTaskCompletion]
  split_ifs
  · split
    · exact .rfl
    · dsimp only
      split_ifs <;> exact ⟨rfl, rfl, rfl⟩
  · exact .rfl

omit [FloatRounding.Rounding K] in
private theorem setEnabled_sameLink {data : Bool} {readings : EnableReadings K} :
    SameLink s (s.setEnabled config data readings).adapter := by
  rw [setEnabled]
  split_ifs
  · rw [enable]
    split
    · exact .rfl
    · dsimp only
      split <;> exact ⟨rfl, rfl, rfl⟩
  · exact ⟨rfl, rfl, rfl⟩

/-- What a call does to the fields of the connection. -/
structure LinkStep (s : Adapter K Img) (operation : Operation K Img) (t : Adapter K Img) :
    Prop where
  motion : t.armMotionEnabled = (motionMessage operation).getD s.armMotionEnabled
  node : s.nodeCreated = true → t.nodeCreated = true
  connected : t.connected = true → s.connected = true ∨ t.nodeCreated = true

omit [Field K] [LinearOrder K] [FloorRing K] [FloatRounding.Rounding K] in
theorem SameLink.linkStep {operation : Operation K Img} (h : SameLink s t)
    (hmotion : motionMessage operation = none) : LinkStep s operation t where
  motion := by rw [hmotion, h.armMotionEnabled, Option.getD_none]
  node := fun hnode => h.nodeCreated.trans hnode
  connected := fun hconnected => Or.inl (h.connected.symm.trans hconnected)

omit [Field K] [LinearOrder K] [FloorRing K] [FloatRounding.Rounding K] in
private theorem motionMessage_of_passive {operation : Operation K Img}
    (h : isPassive operation = true) :
    motionMessage operation = none := by
  cases operation with
  | motionEnabledCallback => cases h
  | _ => rfl

private theorem perform_linkStep (config : AdapterConfig K) (s : Adapter K Img)
    (operation : Operation K Img) :
    LinkStep s operation (operation.perform config s).1 := by
  cases hpassive : isPassive operation with
  | true =>
    have hsame : SameControl s (operation.perform config s).1 := perform_sameControl hpassive
    exact SameLink.linkStep ⟨hsame.connected, hsame.nodeCreated, hsame.armMotionEnabled⟩
      (motionMessage_of_passive hpassive)
  | false =>
    cases operation with
    | connect =>
      dsimp only [Operation.perform, Outcome.change]
      rw [connect]
      split
      · exact SameLink.rfl.linkStep rfl
      · exact ⟨rfl, fun _ => rfl, fun _ => Or.inr rfl⟩
    | disconnect now =>
      dsimp only [Operation.perform, Outcome.change]
      rw [disconnect]
      split_ifs with hconnected
      · exact ⟨rfl, id, fun h => Or.inl hconnected⟩
      · exact SameLink.rfl.linkStep rfl
    | motionEnabledCallback data now =>
      dsimp only [Operation.perform, Outcome.change]
      rw [motionEnabledCallback]
      dsimp only
      split_ifs <;> exact ⟨rfl, id, Or.inl⟩
    | setEnabled data readings => exact setEnabled_sameLink.linkStep rfl
    | sendAction snapshotTime filterTime action => exact sendAction_sameLink.linkStep rfl
    | updateTaskCompletion joints gripperClosed now =>
      exact updateTaskCompletion_sameLink.linkStep rfl
    | getObservation snapshotTime completionTime =>
      refine SameLink.linkStep ?_ rfl
      dsimp only [Operation.perform, Outcome.change]
      rcases getObservation_cases config snapshotTime completionTime s with
        ⟨result, h⟩ | ⟨joints, gripperClosed, result, h⟩ <;> rw [h]
      · exact .rfl
      · exact updateTaskCompletion_sameLink
    | _ => cases hpassive

private theorem performs_linkStep {call : Call K Img} (h : Performs config s call t) :
    LinkStep s call.operation t := by
  have hperform : call.operation.perform config s = (t, call.effects) := h
  simpa [hperform] using perform_linkStep config s call.operation

/-- Losing the motion gate closes the action gate. -/
theorem performs_motion_true {call : Call K Img} {data : Bool} (h : Performs config s call t)
    (hmessage : motionMessage call.operation = some data) (hopen : t.actionEnabled = true) :
    data = true := by
  obtain ⟨operation, effects⟩ := call
  cases operation <;> cases hmessage
  obtain ⟨rfl, -⟩ := Prod.mk.inj h
  revert hopen
  simp only [motionEnabledCallback]
  cases data <;> cases s.actionEnabled <;> simp [closeGate, resetFilterToMeasured]

/-! ## Invariants of the open gate -/

/-- What an open gate guarantees in every reachable state. -/
structure AdapterInvariant (config : AdapterConfig K) (s : Adapter K Img) : Prop where
  node : s.connected = true ∨ s.actionEnabled = true → s.nodeCreated = true
  motion : s.actionEnabled = true → s.armMotionEnabled = true
  home : s.actionEnabled = true → HomeChecked config

omit [FloorRing K] [FloatRounding.Rounding K] in
private theorem adapterInvariant_initial (start : K) :
    AdapterInvariant config (Adapter.initial start : Adapter K Img) := by
  refine ⟨?_, ?_, ?_⟩ <;> simp [Adapter.initial]

omit [FloatRounding.Rounding K] in
/-- What a request that passes its checks has measured. -/
theorem enableChecks_eq_ok {readings : EnableReadings K} {joints : Fin jointCount → K}
    {gripperClosed : Bool} (h : s.enableChecks config readings = .ok (joints, gripperClosed)) :
    s.armMotionEnabled = true ∧ s.nodeCreated = true ∧
      ∃ snap, s.snapshot config readings.snapshotTime = .ok snap ∧
        snap.gripperClosed = gripperClosed := by
  obtain ⟨snap, hsnap, h⟩ := bind_eq_ok_iff.mp h
  obtain ⟨hmotion, h⟩ := guarded_eq_ok_iff.mp h
  obtain ⟨canonicalState, -, h⟩ := bind_eq_ok_iff.mp h
  obtain ⟨count, hcount, h⟩ := bind_eq_ok_iff.mp h
  obtain ⟨-, h⟩ := guarded_eq_ok_iff.mp h
  obtain ⟨_, -, h⟩ := bind_eq_ok_iff.mp h
  obtain ⟨-, h⟩ := guarded_eq_ok_iff.mp h
  obtain ⟨-, hgripper⟩ := Prod.mk.inj (Except.ok.inj h)
  refine ⟨by simpa using hmotion, ?_, snap, hsnap, hgripper⟩
  by_contra hnode
  simp [subscriptionCount, hnode] at hcount

theorem AdapterInvariant.step {call : Call K Img} (h : Performs config s call t)
    (hs : AdapterInvariant config s) : AdapterInvariant config t := by
  have hlink := performs_linkStep h
  have hgate := h.gateStep hs.home
  refine ⟨?_, ?_, ?_⟩
  · rintro (hconnected | hopen)
    · rcases hlink.connected hconnected with hs' | hnode
      · exact hlink.node (hs.node (Or.inl hs'))
      · exact hnode
    · cases hgate with
      | opened henables => exact (enableChecks_eq_ok henables.checks).2.1
      | closed hcloses => simp [hcloses.gate] at hopen
      | kept hkeeps => exact hlink.node (hs.node (Or.inr (hkeeps.gate ▸ hopen)))
  · intro hopen
    cases hmessage : motionMessage call.operation with
    | some data =>
      rw [hlink.motion, hmessage, Option.getD_some]
      exact performs_motion_true h hmessage hopen
    | none =>
      rw [hlink.motion, hmessage, Option.getD_none]
      cases hgate with
      | opened henables => exact (enableChecks_eq_ok henables.checks).1
      | closed hcloses => simp [hcloses.gate] at hopen
      | kept hkeeps => exact hs.motion (hkeeps.gate ▸ hopen)
  · intro hopen
    cases hgate with
    | opened henables =>
      obtain ⟨joints, hjoints, -⟩ := (reset_eq_ok_iff _ _).mp henables.reset
      exact ⟨joints, hjoints⟩
    | closed hcloses => simp [hcloses.gate] at hopen
    | kept hkeeps => exact hs.home (hkeeps.gate ▸ hopen)

theorem adapterInvariant {start : K}
    (h : Run (Performs config) (Adapter.initial start) calls s) : AdapterInvariant config s :=
  h.invariant (fun _ _ _ hstep => AdapterInvariant.step hstep) (adapterInvariant_initial start)

/-- The motion flag is the last motion message, off before the first. -/
theorem armMotionEnabled_eq {start : K}
    (h : Run (Performs config) (Adapter.initial start) calls s) :
    s.armMotionEnabled = (lastMotionMessage calls).getD false := by
  induction h with
  | nil => rfl
  | @snoc calls call s t run last ih =>
    rw [(performs_linkStep last).motion, ih]
    cases hmessage : motionMessage call.operation <;>
      simp [lastMotionMessage, List.filterMap_append, hmessage]

/-! ## The request that opened the gate -/

/-- The latest successful enable request of a run: its checks passed on the gripper
state its snapshot measured, it reset the two detectors with that state, they have only
been updated since, and no call since has stopped the robot, reset one of them or opened
the gate. -/
inductive OpenedBy (config : AdapterConfig K) (start : K) :
    List (Call K Img) → Adapter K Img → Prop where
  | intro {before after : List (Call K Img)} {requested s : Adapter K Img}
      {readings : EnableReadings K} {joints : Fin jointCount → K} {snap : Snapshot K Img}
      {detector : TaskCompletionDetector K}
      (run : Run (Performs config) (Adapter.initial start) before requested)
      (snapshot : requested.snapshot config readings.snapshotTime = .ok snap)
      (enables : Enables config requested readings joints snap.gripperClosed detector)
      (filter : Relation.ReflTransGen (FilterUpdate config.gripper)
        (GripperTemporalFilter.reset snap.gripperClosed readings.filterTime) s.gripperFilter)
      (updates : Relation.ReflTransGen (DetectorUpdate config.completion) detector
        s.completionDetector)
      (routine : ∀ call ∈ after, ∀ effect ∈ call.effects, effect.IsRoutine) :
      OpenedBy config start (before ++
        ⟨.setEnabled true readings, enabledEffects readings snap.gripperClosed⟩ :: after) s

theorem OpenedBy.kept {start : K} {call : Call K Img} (h : OpenedBy config start calls s)
    (hkeeps : Keeps config s t call.effects) : OpenedBy config start (calls ++ [call]) t := by
  cases h with
  | @intro before after requested _ readings joints snap detector run snapshot enables filter
      updates routine =>
    rw [List.append_assoc, List.cons_append]
    refine .intro run snapshot enables (filter.trans hkeeps.filter.to_reflTransGen)
      (updates.trans hkeeps.detector.to_reflTransGen) ?_
    rw [List.forall_mem_append]
    exact ⟨routine, by simpa using hkeeps.routine⟩

private theorem openedBy {start : K} (h : Run (Performs config) (Adapter.initial start) calls s)
    (hopen : s.actionEnabled = true) : OpenedBy config start calls s := by
  induction h with
  | nil => simp [Adapter.initial] at hopen
  | @snoc calls call s t run last ih =>
    cases last.gateStep (adapterInvariant run).home with
    | opened henables =>
      obtain ⟨-, -, snap, hsnap, rfl⟩ := enableChecks_eq_ok henables.checks
      exact .intro run hsnap henables .refl .refl (by simp)
    | closed hcloses => simp [hcloses.gate] at hopen
    | kept hkeeps => exact (ih (hkeeps.gate ▸ hopen)).kept hkeeps

omit [FloatRounding.Rounding K] in
/-- A request that opens the gate is one that is answered with success. -/
theorem gateOpened_mem_iff {data : Bool} {readings : EnableReadings K} :
    .gateOpened ∈ (s.setEnabled config data readings).effects ↔
      data = true ∧
        ∃ message, (s.setEnabled config data readings).result = .ok ⟨true, message⟩ := by
  rw [setEnabled]
  cases data with
  | false =>
    simp only [Bool.false_eq_true, if_false, false_and, iff_false, disable]
    rw [publishStop]
    split_ifs <;> simp
  | true =>
    simp only [if_true, true_and]
    rw [enable]
    split
    · simp
    · dsimp only
      split <;> simp

/-- The lifecycle of the gate, for every sequence of calls from the initial state. -/
theorem gate_lifecycle (config : AdapterConfig K) (start : K)
    (h : Run (Performs config) (Adapter.initial start) calls s) :
    (s.actionEnabled = true →
      lastMotionMessage calls = some true ∧ OpenedBy config start calls s) ∧
    (∀ call t, Performs config s call t → s.actionEnabled = true → t.actionEnabled = false →
      .stop ∈ call.effects ∧ t.lastSafeJointCommand = none) ∧
    ∀ readings message, (s.setEnabled config true readings).result = .ok ⟨false, message⟩ →
      (s.setEnabled config true readings).adapter = s := by
  have hs := adapterInvariant h
  refine ⟨fun hopen => ⟨?_, openedBy h hopen⟩, ?_, ?_⟩
  · have hmotion := (armMotionEnabled_eq h).symm.trans (hs.motion hopen)
    cases hlast : lastMotionMessage calls with
    | none => simp [hlast] at hmotion
    | some data => simpa [hlast] using hmotion
  · intro call t hcall hopen hclosed
    cases hcall.gateStep hs.home with
    | opened henables => simp [enabledState] at hclosed
    | closed hcloses => exact ⟨hcloses.stop hopen (hs.node (Or.inr hopen)), hcloses.command hopen⟩
    | kept hkeeps => simp [hkeeps.gate, hopen] at hclosed
  · intro readings message hresult
    revert hresult
    simp only [setEnabled, if_true]
    rw [enable]
    split
    · exact fun _ => rfl
    · dsimp only
      split <;> simp

end Runs

/-- The start of a rollout with the default configuration: the first messages of every
subscription, the arm in the reset pose with an open gripper, and an enable request. -/
def rolloutStart : List (Operation ℚ Unit) := [
  .connect,
  .chestCallback (some ()) 1,
  .wristCallback (some ()) 1,
  .gripperCallback true,
  .motionEnabledCallback true 1,
  .jointCallback [] (floats homeJoints) 1,
  .setEnabled true ⟨1, 1, 1, .ok 1, .ok 1⟩]

/-- The gate is open after the start of a rollout, by its enable request. -/
theorem rolloutStart_openedBy :
    lastMotionMessage (performAll shippedConfig (Adapter.initial 0) rolloutStart).2 = some true ∧
      OpenedBy shippedConfig 0 (performAll shippedConfig (Adapter.initial 0) rolloutStart).2
        (performAll shippedConfig (Adapter.initial 0) rolloutStart).1 :=
  (gate_lifecycle shippedConfig 0 (run_performAll _ _ _)).1 (by decide +kernel)

end SmolVlaQgf.GateLifecycle
