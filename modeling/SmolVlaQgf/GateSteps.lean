import Mathlib.Logic.Relation
import SmolVlaQgf.ActionOutcomes
import SmolVlaQgf.TransitionRuns

/-!
# What one call does to the action gate

Every call opens the gate, leaves it closed, or keeps it open while the gripper
filter and the completion detector only advance. Everything the lifecycle of the
gate needs of the methods is in this case distinction. Calls that take no part in the
control of the arm are treated together.
-/

namespace SmolVlaQgf.GateSteps
open ExactFloats PolicySafetyGuard GripperFilter TaskCompletion ArmstrongConfiguration
  ArmstrongAdapter Adapter ActionOutcomes TransitionRuns

variable {K Img : Type} [Field K] [LinearOrder K] [FloorRing K] [FloatRounding.Rounding K]

structure Call (K Img : Type) where
  operation : Operation K Img
  effects : List (Effect K)

/-- The step relation of the adapter when every call is atomic. -/
def Performs (config : AdapterConfig K) (s : Adapter K Img) (call : Call K Img)
    (t : Adapter K Img) : Prop :=
  call.operation.perform config s = (t, call.effects)

def performAll (config : AdapterConfig K) :
    Adapter K Img → List (Operation K Img) → Adapter K Img × List (Call K Img)
  | s, [] => (s, [])
  | s, operation :: operations =>
      let performed := operation.perform config s
      let rest := performAll config performed.1 operations
      (rest.1, ⟨operation, performed.2⟩ :: rest.2)

theorem run_performAll (config : AdapterConfig K) (s : Adapter K Img)
    (operations : List (Operation K Img)) :
    Run (Performs config) s (performAll config s operations).2
      (performAll config s operations).1 := by
  induction operations generalizing s with
  | nil => exact .nil
  | cons operation operations ih =>
    have hstep : Performs config s ⟨operation, (operation.perform config s).2⟩
      (operation.perform config s).1 := rfl
    exact .cons hstep (ih _)

def FilterUpdate (config : GripperTemporalConfig K) (filter filter' : GripperTemporalFilter K) :
    Prop :=
  ∃ rawValue now contactActive result,
    filter.update config rawValue now contactActive = .ok (filter', result)

def DetectorUpdate (config : TaskCompletionConfig K)
    (detector detector' : TaskCompletionDetector K) : Prop :=
  ∃ joints gripperClosed now result,
    detector.update config joints gripperClosed now = .ok (detector', result)

/-- The gate keeps its position, and the two detectors are at most updated. -/
structure Keeps (config : AdapterConfig K) (s t : Adapter K Img) (effects : List (Effect K)) :
    Prop where
  gate : t.actionEnabled = s.actionEnabled
  filter : Relation.ReflGen (FilterUpdate config.gripper) s.gripperFilter t.gripperFilter
  detector : Relation.ReflGen (DetectorUpdate config.completion) s.completionDetector
    t.completionDetector
  routine : ∀ effect ∈ effects, effect.IsRoutine

/-- The gate is closed afterwards. If it was open, the stored command is gone and, with
a node to publish on, STOP went out. -/
structure Closes (s t : Adapter K Img) (effects : List (Effect K)) : Prop where
  gate : t.actionEnabled = false
  notOpened : .gateOpened ∉ effects
  command : s.actionEnabled = true → t.lastSafeJointCommand = none
  stop : s.actionEnabled = true → s.nodeCreated = true → .stop ∈ effects

def enabledState (s : Adapter K Img) (readings : EnableReadings K) (joints : Fin jointCount → K)
    (gripperClosed : Bool) (detector : TaskCompletionDetector K) : Adapter K Img :=
  { s with
    gripperFilter := GripperTemporalFilter.reset gripperClosed readings.filterTime
    lastGripperCommand := some gripperClosed
    completionDetector := detector
    completionResult := none
    completionStopPublished := false
    completionInitialJoints := some joints
    rolloutEndLogged := false
    actionEnabled := true }

def enabledEffects (readings : EnableReadings K) (gripperClosed : Bool) : List (Effect K) :=
  [.filterReset gripperClosed readings.filterTime, .detectorReset gripperClosed
    readings.detectorTime, .gateOpened]

/-- What an enable request does that passes its checks and resets the detector. -/
structure Enables (config : AdapterConfig K) (s : Adapter K Img) (readings : EnableReadings K)
    (joints : Fin jointCount → K) (gripperClosed : Bool) (detector : TaskCompletionDetector K) :
    Prop where
  checks : s.enableChecks config readings = .ok (joints, gripperClosed)
  reset : TaskCompletionDetector.reset config.completionHomeJoints gripperClosed
    readings.detectorTime = .ok detector

inductive GateStep (config : AdapterConfig K) (s : Adapter K Img) : Call K Img → Adapter K Img →
    Prop where
  | opened {readings joints gripperClosed detector}
      (h : Enables config s readings joints gripperClosed detector) :
      GateStep config s ⟨.setEnabled true readings, enabledEffects readings gripperClosed⟩
        (enabledState s readings joints gripperClosed detector)
  | closed {call : Call K Img} {t : Adapter K Img} (h : Closes s t call.effects) :
      GateStep config s call t
  | kept {call : Call K Img} {t : Adapter K Img} (h : Keeps config s t call.effects) :
      GateStep config s call t

variable {config : AdapterConfig K} {s t : Adapter K Img}

/-! ## Calls that do not touch the gate -/

omit [FloorRing K] in
theorem Keeps.of_eq {effects : List (Effect K)} (hgate : t.actionEnabled = s.actionEnabled)
    (hfilter : t.gripperFilter = s.gripperFilter)
    (hdetector : t.completionDetector = s.completionDetector)
    (hroutine : ∀ effect ∈ effects, effect.IsRoutine) : Keeps config s t effects where
  gate := hgate
  filter := hfilter ▸ .refl
  detector := hdetector ▸ .refl
  routine := hroutine

omit [FloorRing K] in
theorem Keeps.rfl : Keeps config s s [] :=
  .of_eq (Eq.refl _) (Eq.refl _) (Eq.refl _) (by simp)

omit [Field K] [LinearOrder K] [FloorRing K] [FloatRounding.Rounding K] in
theorem stop_mem_publishStop (h : s.nodeCreated = true) : Effect.stop ∈ s.publishStop := by
  simp [publishStop, h]

omit [Field K] [LinearOrder K] [FloorRing K] [FloatRounding.Rounding K] in
theorem publishRawAction_routine {values : Fin actionDim → PyFloat K} :
    ∀ effect ∈ s.publishRawAction values, effect.IsRoutine := by
  rw [publishRawAction]
  split_ifs <;> simp [Effect.IsRoutine]

omit [Field K] [LinearOrder K] [FloorRing K] [FloatRounding.Rounding K] in
private theorem publishGuardedAction_routine {values : Fin actionDim → K} :
    ∀ effect ∈ s.publishGuardedAction values, effect.IsRoutine := by
  rw [publishGuardedAction]
  split_ifs <;> simp [Effect.IsRoutine]

omit [Field K] [LinearOrder K] [FloorRing K] [FloatRounding.Rounding K] in
private theorem publishGripper_routine {temporal : GripperTemporalResult} :
    ∀ effect ∈ (s.publishGripper temporal).effects, effect.IsRoutine := by
  rw [publishGripper]
  split_ifs <;> simp [Effect.IsRoutine]

/-- Messages and publications that neither decide about commands nor close the gate. -/
def isPassive : Operation K Img → Bool
  | .jointCallback _ _ _ | .gripperCallback _ | .gripperContactCallback _ | .chestCallback _ _
  | .wristCallback _ _ | .resendLastJointCommand | .updatePolicyQueueState _ _ _
  | .setPolicyActionTimestep _ | .publishPolicyObservation _ _ => true
  | _ => false

structure SameControl (s t : Adapter K Img) : Prop where
  connected : t.connected = s.connected
  nodeCreated : t.nodeCreated = s.nodeCreated
  armMotionEnabled : t.armMotionEnabled = s.armMotionEnabled
  actionEnabled : t.actionEnabled = s.actionEnabled
  lastSafeJointCommand : t.lastSafeJointCommand = s.lastSafeJointCommand
  gripperFilter : t.gripperFilter = s.gripperFilter
  completionDetector : t.completionDetector = s.completionDetector
  completionResult : t.completionResult = s.completionResult
  completionStopPublished : t.completionStopPublished = s.completionStopPublished

omit [Field K] [LinearOrder K] [FloorRing K] [FloatRounding.Rounding K] in
theorem SameControl.rfl : SameControl s s where
  connected := Eq.refl _
  nodeCreated := Eq.refl _
  armMotionEnabled := Eq.refl _
  actionEnabled := Eq.refl _
  lastSafeJointCommand := Eq.refl _
  gripperFilter := Eq.refl _
  completionDetector := Eq.refl _
  completionResult := Eq.refl _
  completionStopPublished := Eq.refl _

theorem perform_sameControl {operation : Operation K Img} (h : isPassive operation = true) :
    SameControl s (operation.perform config s).1 := by
  cases operation with
  | jointCallback names positions now =>
    dsimp only [Operation.perform]
    rw [jointCallback]
    split <;> constructor <;> rfl
  | gripperCallback data => constructor <;> rfl
  | gripperContactCallback data => constructor <;> rfl
  | chestCallback decoded now => cases decoded <;> constructor <;> rfl
  | wristCallback decoded now => cases decoded <;> constructor <;> rfl
  | resendLastJointCommand =>
    dsimp only [Operation.perform, Outcome.change]
    rw [resendLastJointCommand]
    split_ifs
    · exact .rfl
    · split <;> exact .rfl
  | updatePolicyQueueState queueSize expectedChunkSize chunkReady => constructor <;> rfl
  | setPolicyActionTimestep timestep => constructor <;> rfl
  | publishPolicyObservation timestep observation =>
    dsimp only [Operation.perform, Outcome.change]
    rw [publishPolicyObservation]
    split_ifs
    · split
      · exact .rfl
      · constructor <;> rfl
    · exact .rfl
  | _ => cases h

theorem perform_routine {operation : Operation K Img} (h : isPassive operation = true) :
    ∀ effect ∈ (operation.perform config s).2, effect.IsRoutine := by
  cases operation with
  | resendLastJointCommand =>
    dsimp only [Operation.perform, Outcome.change]
    rw [resendLastJointCommand]
    split_ifs
    · simp
    · split <;> simp [Effect.IsRoutine]
  | publishPolicyObservation timestep observation =>
    dsimp only [Operation.perform, Outcome.change]
    rw [publishPolicyObservation]
    split_ifs
    · split <;> simp [Effect.IsRoutine]
    · simp
  | jointCallback | gripperCallback | gripperContactCallback | chestCallback | wristCallback
  | updatePolicyQueueState | setPolicyActionTimestep => simp [Operation.perform]
  | _ => cases h

/-! ## Calls that close the gate -/

omit [Field K] [LinearOrder K] [FloorRing K] [FloatRounding.Rounding K] in
theorem Closes.stopping {effects : List (Effect K)} (hgate : t.actionEnabled = false)
    (hcommand : t.lastSafeJointCommand = none) (heffects : .gateOpened ∉ effects) :
    Closes s t (effects ++ s.publishStop) where
  gate := hgate
  notOpened := by
    have hstop : .gateOpened ∉ s.publishStop := by
      rw [publishStop]
      split_ifs <;> simp
    simp [heffects, hstop]
  command := fun _ => hcommand
  stop := fun _ hnode => List.mem_append_right _ (stop_mem_publishStop hnode)

private theorem disconnect_gateStep {now : K} :
    GateStep config s ⟨.disconnect now, (s.disconnect now).effects⟩ (s.disconnect now).adapter := by
  rw [disconnect]
  split_ifs with hconnected
  · exact .closed (.stopping rfl rfl (by simp))
  · exact .kept .rfl

private theorem motionEnabledCallback_gateStep {data : Bool} {now : K} :
    GateStep config s ⟨.motionEnabledCallback data now, (s.motionEnabledCallback data now).effects⟩
      (s.motionEnabledCallback data now).adapter := by
  rw [motionEnabledCallback]
  dsimp only
  split_ifs
  · exact .closed (.stopping rfl rfl (by simp))
  · exact .kept (.of_eq rfl rfl rfl (by simp))

private theorem disable_gateStep {readings : EnableReadings K} :
    GateStep config s ⟨.setEnabled false readings, (s.disable readings.filterTime).effects⟩
      (s.disable readings.filterTime).adapter := by
  exact .closed (.stopping rfl rfl (by simp))

private theorem sendAction_gateStep {snapshotTime filterTime : K} {action : ActionDict K} :
    GateStep config s
      ⟨.sendAction snapshotTime filterTime action,
        (s.sendAction config snapshotTime filterTime action).effects⟩
      (s.sendAction config snapshotTime filterTime action).adapter := by
  have houtcome := sendAction_outcome config snapshotTime filterTime action s
  generalize s.sendAction config snapshotTime filterTime action = outcome at houtcome
  cases houtcome with
  | disconnected => exact .kept .rfl
  | gateClosed => exact .kept .rfl
  | stopped hopen hguard =>
    cases hguard with
    | unavailable => exact .kept .rfl
    | unmeasured => exact .kept .rfl
    | rejected =>
      exact .closed (.stopping rfl rfl fun h => publishRawAction_routine _ h)
  | @sent accepted filter temporal controllerJoints result sent hopen hupdate hsent =>
    subst hsent
    refine .kept ⟨by simp, ?_, by simpa using .refl, ?_⟩
    · simpa using .single ⟨_, _, _, temporal, hupdate⟩
    · simp only [List.forall_mem_append, List.append_nil, List.forall_mem_singleton]
      exact ⟨⟨publishRawAction_routine, publishGuardedAction_routine, trivial⟩,
        publishGripper_routine⟩

omit [FloorRing K] in
private theorem updateTaskCompletion_gateStep {joints : List (PyFloat K)} {gripperClosed : Bool}
    {now : K} :
    Closes s (s.updateTaskCompletion config joints gripperClosed now).adapter
        (s.updateTaskCompletion config joints gripperClosed now).effects ∨
      Keeps config s (s.updateTaskCompletion config joints gripperClosed now).adapter
        (s.updateTaskCompletion config joints gripperClosed now).effects := by
  rw [updateTaskCompletion]
  split_ifs with hactive
  · split
    · exact Or.inr .rfl
    · rename_i detector result hupdate
      dsimp only
      split_ifs
      · exact Or.inl (.stopping rfl rfl List.not_mem_nil)
      · exact Or.inr ⟨rfl, .refl, .single ⟨_, _, _, result, hupdate⟩, by simp⟩
  · exact Or.inr .rfl

/-- An observation changes the state by the completion update it makes, if any. -/
theorem getObservation_cases (config : AdapterConfig K) (snapshotTime completionTime : K)
    (s : Adapter K Img) :
    (∃ result, s.getObservation config snapshotTime completionTime = ⟨s, [], result⟩) ∨
    ∃ (joints : Fin jointCount → K) (gripperClosed : Bool) (result : _),
      s.getObservation config snapshotTime completionTime =
        ⟨(s.updateTaskCompletion config (floats joints) gripperClosed completionTime).adapter,
          (s.updateTaskCompletion config (floats joints) gripperClosed completionTime).effects,
          result⟩ := by
  rw [getObservation]
  split
  · exact Or.inl ⟨_, rfl⟩
  split
  · exact Or.inl ⟨_, rfl⟩
  rename_i snap _
  split
  · exact Or.inl ⟨_, rfl⟩
  rename_i joints _
  refine Or.inr ⟨joints, snap.gripperClosed, ?_⟩
  dsimp only
  split <;> rename_i hupdate <;> exact ⟨_, by rw [hupdate]⟩

private theorem getObservation_gateStep {snapshotTime completionTime : K} :
    Closes s (s.getObservation config snapshotTime completionTime).adapter
        (s.getObservation config snapshotTime completionTime).effects ∨
      Keeps config s (s.getObservation config snapshotTime completionTime).adapter
        (s.getObservation config snapshotTime completionTime).effects := by
  rcases getObservation_cases config snapshotTime completionTime s with
    ⟨result, h⟩ | ⟨joints, gripperClosed, result, h⟩
  · rw [h]
    exact Or.inr .rfl
  · rw [h]
    exact updateTaskCompletion_gateStep

/-! ## The enable service -/

/-- The home joints pass the check the completion detector's reset makes. -/
def HomeChecked (config : AdapterConfig K) : Prop :=
  ∃ joints, finiteTuple config.completionHomeJoints jointCount "initial joints" = .ok joints

omit [FloorRing K] [FloatRounding.Rounding K] in
theorem reset_eq_ok_iff (gripperClosed : Bool) (now : K) {detector : TaskCompletionDetector K} :
    TaskCompletionDetector.reset config.completionHomeJoints gripperClosed now = .ok detector ↔
      ∃ joints, finiteTuple config.completionHomeJoints jointCount "initial joints" = .ok joints ∧
        detector = .started joints now := by
  rw [TaskCompletionDetector.reset]
  apply bind_eq_ok_iff.trans
  simp [pure, Except.pure, eq_comm]

private theorem enable_gateStep {readings : EnableReadings K}
    (hhome : s.actionEnabled = true → HomeChecked config) :
    GateStep config s ⟨.setEnabled true readings, (s.enable config readings).effects⟩
      (s.enable config readings).adapter := by
  rw [enable]
  split
  · exact .kept .rfl
  · rename_i joints gripperClosed hchecks
    dsimp only
    split
    · rename_i hreset
      have hclosed : s.actionEnabled = false := by
        by_contra h
        obtain ⟨home, hchecked⟩ := hhome (by simpa using h)
        have hok := (reset_eq_ok_iff gripperClosed readings.detectorTime).mpr
          ⟨home, hchecked, rfl⟩
        rw [hreset] at hok
        cases hok
      exact .closed ⟨hclosed, by simp, by simp [hclosed], by simp [hclosed]⟩
    · rename_i detector hreset
      exact .opened ⟨hchecks, hreset⟩

/-! ## Every call -/

private theorem perform_gateStep (operation : Operation K Img)
    (hhome : s.actionEnabled = true → HomeChecked config) :
    GateStep config s ⟨operation, (operation.perform config s).2⟩
      (operation.perform config s).1 := by
  cases hpassive : isPassive operation with
  | true =>
    have hsame : SameControl s (operation.perform config s).1 := perform_sameControl hpassive
    exact .kept (.of_eq hsame.actionEnabled hsame.gripperFilter hsame.completionDetector
      (perform_routine hpassive))
  | false =>
    cases operation with
    | connect =>
      refine .kept ?_
      dsimp only [Operation.perform, Outcome.change]
      rw [connect]
      split_ifs <;> exact .of_eq rfl rfl rfl (by simp)
    | disconnect now => exact disconnect_gateStep
    | motionEnabledCallback data now => exact motionEnabledCallback_gateStep
    | setEnabled data readings =>
      cases data with
      | false => exact disable_gateStep
      | true => exact enable_gateStep hhome
    | sendAction snapshotTime filterTime action => exact sendAction_gateStep
    | updateTaskCompletion joints gripperClosed now =>
      exact updateTaskCompletion_gateStep.elim (fun h => .closed h) fun h => .kept h
    | getObservation snapshotTime completionTime =>
      exact getObservation_gateStep.elim (fun h => .closed h) fun h => .kept h
    | _ => cases hpassive

/-- The inversion lemma of the adapter: what a call does to the gate. -/
theorem Performs.gateStep {call : Call K Img} (h : Performs config s call t)
    (hhome : s.actionEnabled = true → HomeChecked config) : GateStep config s call t := by
  obtain ⟨operation, effects⟩ := call
  have hperform : operation.perform config s = (t, effects) := h
  simpa [hperform] using perform_gateStep operation hhome

end SmolVlaQgf.GateSteps
