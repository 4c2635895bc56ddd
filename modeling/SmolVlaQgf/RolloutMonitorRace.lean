import SmolVlaQgf.GateLifecycle
import SmolVlaQgf.RolloutStatus

/-!
# The race between completion and the status message

The executor thread publishes the status in two steps, the client thread completes
the task in one, and the monitor reads the messages in order. A completion between
the two steps puts the closed gate next to the incomplete result into one message,
and the monitor takes it for an abnormal stop.
-/

namespace SmolVlaQgf.RolloutMonitorRace
open ExactFloats FieldText TaskCompletion ArmstrongConfiguration ArmstrongAdapter Adapter
  ActionOutcomes GateSteps GateLifecycle TransitionRuns RolloutStatus

/-! ## The system -/

/-- `publisher` holds the snapshot of a status publication that has released the lock,
`queue` the published messages the monitor has yet to read, and `verdict` the first
result of the monitor. -/
structure State (K Img : Type) where
  adapter : Adapter K Img
  publisher : Option (StatusSnapshot K)
  queue : List Text
  monitor : Monitor
  verdict : Option (ℕ × Text)

inductive Label (K Img : Type) where
  | snapshot (now : K)
  | publish
  | call (operation : Operation K Img)
  | deliver
  | safety (data : Text)

def isRolloutCall {K Img : Type} : Operation K Img → Bool
  | .connect | .disconnect _ | .setEnabled _ _ => false
  | _ => true

def isCompletionCall {K Img : Type} : Operation K Img → Bool
  | .updateTaskCompletion _ _ _ | .getObservation _ _ => true
  | _ => false

/-- A safety status that reports no stop, no error and a powered, enabled robot. -/
def healthy (safety : Dict) : Bool :=
  !reads safety "robot_emergency_stop" "1" && !reads safety "robot_protective_stop" "1" &&
    !Monitor.errorReported safety &&
    !reads safety "robot_enabled" "0" && !reads safety "robot_powered_on" "0"

def completedResult : ℕ × Text := (0, "task_completed_returned_home".toList)

section Steps

variable {K Img : Type} [Field K] [LinearOrder K] [FloorRing K] [FloatRounding.Rounding K]

/-- A rollout right after its enable request, with nothing published yet. -/
def State.initial (adapter : Adapter K Img) (actionGateConfirmed : Bool) : State K Img where
  adapter
  publisher := none
  queue := []
  monitor := .new actionGateConfirmed
  verdict := none

def closesGate (config : AdapterConfig K) (s : State K Img) (operation : Operation K Img) : Bool :=
  s.adapter.actionEnabled && !(operation.perform config s.adapter).1.actionEnabled

/-- One step; nothing but task completion closes the gate, and the monitor returns at its
first result. -/
def next (config : AdapterConfig K) (s : State K Img) : Label K Img → Option (State K Img)
  | .snapshot now =>
      if s.publisher.isNone && s.adapter.nodeCreated then
        some { s with publisher := some (statusSnapshot now s.adapter) }
      else none
  | .publish => s.publisher.map fun snap =>
      { s with
        publisher := none
        queue := s.queue ++
          [statusText config snap s.adapter.connected s.adapter.actionEnabled] }
  | .call operation =>
      if isRolloutCall operation && (isCompletionCall operation || !closesGate config s operation)
      then some { s with adapter := (operation.perform config s.adapter).1 }
      else none
  | .deliver =>
      match s.queue with
      | [] => none
      | data :: rest =>
          if s.verdict.isNone then
            some { s with
              queue := rest
              monitor := s.monitor.smolvlaCallback data
              verdict := (s.monitor.smolvlaCallback data).result }
          else none
  | .safety data =>
      if s.verdict.isNone && healthy (fields data) then
        some { s with
          monitor := s.monitor.safetyCallback data
          verdict := (s.monitor.safetyCallback data).result }
      else none

def reportsOpen (data : Text) : Bool := reads (fields data) "action_enabled" "1"

/-- The monitor knows, or will know from a message on its way, that the gate was open. -/
def alerted (s : State K Img) : Bool := s.monitor.seenEnabled || s.queue.any reportsOpen

def Label.completes (config : AdapterConfig K) (s : State K Img) : Label K Img → Bool
  | .call operation => closesGate config s operation
  | _ => false

/-- No completing update between the two steps of a publication whose message the
monitor would take for a closed gate. -/
def Untorn (config : AdapterConfig K) (s : State K Img) (label : Label K Img) : Prop :=
  label.completes config s = true → s.publisher.isSome = true → alerted s = false

instance (config : AdapterConfig K) (s : State K Img) (label : Label K Img) :
    Decidable (Untorn config s label) := inferInstanceAs (Decidable (_ → _ → _))

end Steps

/-! ## What the monitor makes of a message -/

section Messages

def reportsCompleted (data : Text) : Bool := reads (fields data) "task_completed" "1"

def reportsClosed (data : Text) : Bool := reads (fields data) "action_enabled" "0"

/-- Every result on reading the queue in order is that of a completed rollout. -/
def SafeQueue (seenEnabled : Bool) : List Text → Prop
  | [] => True
  | data :: rest => reportsCompleted data = true ∨
      ((seenEnabled || reportsOpen data) && reportsClosed data) = false ∧
        SafeQueue (seenEnabled || reportsOpen data) rest

private theorem safeQueue_append {seenEnabled : Bool} {queue : List Text} {data : Text}
    (h : SafeQueue seenEnabled queue)
    (hdata : reportsCompleted data = true ∨
      ((seenEnabled || queue.any reportsOpen || reportsOpen data) && reportsClosed data) = false) :
    SafeQueue seenEnabled (queue ++ [data]) := by
  induction queue generalizing seenEnabled with
  | nil =>
    refine hdata.imp_right fun hgate => ⟨?_, trivial⟩
    simpa using hgate
  | cons first rest ih =>
    refine h.imp_right fun ⟨hgate, hrest⟩ => ⟨hgate, ih hrest ?_⟩
    simpa [Bool.or_assoc] using hdata

variable {m : Monitor}

private theorem result_of_completed (hsafety : healthy m.safety = true)
    (h : reads m.smolvla "task_completed" "1" = true) : m.result = some completedResult := by
  simp only [healthy, Bool.and_eq_true, Bool.not_eq_true'] at hsafety
  obtain ⟨⟨⟨⟨hstop, hprotective⟩, herror⟩, -⟩, -⟩ := hsafety
  simp only [Monitor.result, hstop, hprotective, herror, h, Bool.false_eq_true, if_false, if_true,
    completedResult]

private theorem result_of_running (hsafety : healthy m.safety = true)
    (h : reads m.smolvla "task_completed" "1" = false)
    (hgate : (m.seenEnabled && reads m.smolvla "action_enabled" "0") = false) :
    m.result = none := by
  simp only [healthy, Bool.and_eq_true, Bool.not_eq_true'] at hsafety
  obtain ⟨⟨⟨⟨hstop, hprotective⟩, herror⟩, henabled⟩, hpower⟩ := hsafety
  simp only [Monitor.result, hstop, hprotective, herror, h, hgate, henabled, hpower,
    Bool.false_eq_true, if_false, Bool.and_false]

end Messages

/-! ## The gate and the completion result -/

section Adapters

variable {K Img : Type} [Field K] [LinearOrder K] [FloorRing K] [FloatRounding.Rounding K]
variable {config : AdapterConfig K} {s t : Adapter K Img}

/-- What a successful enable request leaves of the completion fields. -/
structure RolloutStarted (s : Adapter K Img) : Prop where
  gate : s.actionEnabled = true
  result : s.completionResult = none
  stopPublished : s.completionStopPublished = false

/-- During a rollout the gate is closed exactly when the result is complete. -/
structure Coupled (s : Adapter K Img) : Prop where
  running : s.actionEnabled = true →
    s.completionStopPublished = false ∧ s.completionResult.any (·.completed) = false
  completed : s.actionEnabled = false → s.completionResult.any (·.completed) = true

omit [Field K] [LinearOrder K] [FloorRing K] [FloatRounding.Rounding K] in
theorem RolloutStarted.coupled (h : RolloutStarted s) : Coupled s where
  running := fun _ => ⟨h.stopPublished, by simp [h.result]⟩
  completed := fun hclosed => by simp [h.gate] at hclosed

/-- A call that leaves the completion fields alone and opens no gate. -/
structure LeavesCompletion (s t : Adapter K Img) : Prop where
  result : t.completionResult = s.completionResult
  stopPublished : t.completionStopPublished = s.completionStopPublished
  gate : t.actionEnabled = s.actionEnabled ∨ t.actionEnabled = false

omit [Field K] [LinearOrder K] [FloorRing K] [FloatRounding.Rounding K] in
theorem LeavesCompletion.rfl : LeavesCompletion s s := ⟨Eq.refl _, Eq.refl _, Or.inl (Eq.refl _)⟩

private theorem sendAction_leavesCompletion {snapshotTime filterTime : K} {action : ActionDict K} :
    LeavesCompletion s (s.sendAction config snapshotTime filterTime action).adapter := by
  have houtcome := sendAction_outcome config snapshotTime filterTime action s
  generalize s.sendAction config snapshotTime filterTime action = outcome at houtcome
  cases houtcome with
  | disconnected => exact .rfl
  | gateClosed => exact .rfl
  | stopped hopen hguard =>
    cases hguard with
    | rejected => exact ⟨rfl, rfl, Or.inr rfl⟩
    | _ => exact .rfl
  | sent hopen hupdate hsent =>
    subst hsent
    exact ⟨by simp, by simp, by simp⟩

private theorem perform_leavesCompletion {operation : Operation K Img}
    (hcall : isRolloutCall operation = true) (hother : isCompletionCall operation = false) :
    LeavesCompletion s (operation.perform config s).1 := by
  cases hpassive : isPassive operation with
  | true =>
    have hsame : SameControl s (operation.perform config s).1 := perform_sameControl hpassive
    exact ⟨hsame.completionResult, hsame.completionStopPublished, Or.inl hsame.actionEnabled⟩
  | false =>
    cases operation with
    | motionEnabledCallback data now =>
      simp only [Operation.perform, Outcome.change, motionEnabledCallback]
      split
      · exact ⟨rfl, rfl, Or.inr rfl⟩
      · exact ⟨rfl, rfl, Or.inl rfl⟩
    | sendAction snapshotTime filterTime action => exact sendAction_leavesCompletion
    | connect | disconnect | setEnabled => cases hcall
    | updateTaskCompletion | getObservation => cases hother
    | _ => cases hpassive

omit [FloorRing K] in
/-- A completion update closes the gate exactly when it stores a complete result. -/
theorem updateTaskCompletion_coupled {joints : List (PyFloat K)} {gripperClosed : Bool} {now : K}
    (h : Coupled s) :
    Coupled (s.updateTaskCompletion config joints gripperClosed now).adapter := by
  rw [updateTaskCompletion]
  split
  · rename_i hactive
    have hopen : s.actionEnabled = true := (Bool.and_eq_true_iff.mp hactive).1
    obtain ⟨hstop, -⟩ := h.running hopen
    split
    · exact h
    · rename_i detector result _
      dsimp only
      cases hcompleted : result.completed with
      | true =>
        rw [hstop]
        exact ⟨by simp [closeGate], fun _ => hcompleted⟩
      | false =>
        refine ⟨fun _ => ⟨hstop, hcompleted⟩, fun hclosed => ?_⟩
        exact absurd hopen (Bool.eq_false_iff.mp hclosed)
  · exact h

private theorem perform_coupled {operation : Operation K Img} (h : Coupled s)
    (hcall : isRolloutCall operation = true)
    (hgate : isCompletionCall operation = true ∨
      (s.actionEnabled = true → (operation.perform config s).1.actionEnabled = true)) :
    Coupled (operation.perform config s).1 := by
  cases hcompletion : isCompletionCall operation with
  | true =>
    cases operation with
    | updateTaskCompletion joints gripperClosed now => exact updateTaskCompletion_coupled h
    | getObservation snapshotTime completionTime =>
      simp only [Operation.perform, Outcome.change]
      rcases getObservation_cases config snapshotTime completionTime s with
        ⟨result, hresult⟩ | ⟨joints, gripperClosed, result, hresult⟩ <;> rw [hresult]
      · exact h
      · exact updateTaskCompletion_coupled h
    | _ => cases hcompletion
  | false =>
    have hleaves : LeavesCompletion s (operation.perform config s).1 :=
      perform_leavesCompletion hcall hcompletion
    have hkept := hgate.resolve_left (by simp [hcompletion])
    have hsame : (operation.perform config s).1.actionEnabled = s.actionEnabled := by
      cases hopen : s.actionEnabled with
      | true => exact hkept hopen
      | false => exact hleaves.gate.elim (fun h => h.trans hopen) id
    refine ⟨fun hopen => ?_, fun hclosed => ?_⟩
    · rw [hleaves.result, hleaves.stopPublished]
      exact h.running (hsame.symm.trans hopen)
    · rw [hleaves.result]
      exact h.completed (hsame.symm.trans hclosed)

end Adapters

/-! ## Runs -/

section Runs

variable {K Img : Type} [Field K] [LinearOrder K] [FloorRing K] [FloatRounding.Rounding K]
variable {config : AdapterConfig K} {s t : State K Img}

structure Invariant (s : State K Img) : Prop where
  coupled : Coupled s.adapter
  verdict : s.verdict = none ∨ s.verdict = some completedResult
  safety : healthy s.monitor.safety = true
  running : s.verdict = none → reads s.monitor.smolvla "task_completed" "1" = false ∧
    (s.monitor.seenEnabled && reads s.monitor.smolvla "action_enabled" "0") = false
  queue : s.verdict = none → SafeQueue s.monitor.seenEnabled s.queue
  pending : ∀ snap ∈ s.publisher,
    snap.taskCompleted = true ∨ s.adapter.actionEnabled = true ∨ alerted s = false

omit [Field K] [LinearOrder K] [FloorRing K] [FloatRounding.Rounding K] in
theorem invariant_initial {adapter : Adapter K Img} (h : RolloutStarted adapter)
    (actionGateConfirmed : Bool) : Invariant (State.initial adapter actionGateConfirmed) where
  coupled := h.coupled
  verdict := Or.inl rfl
  safety := rfl
  running := fun _ => ⟨rfl, Bool.and_false _⟩
  queue := fun _ => trivial
  pending := by simp [State.initial]

private theorem reads_flagText (dict : Dict) (key : String) (flag : Bool)
    (h : dict key.toList = some (flagText flag)) :
    reads dict key "1" = flag ∧ reads dict key "0" = !flag := by
  simp only [reads, h]
  cases flag <;> decide

omit [FloatRounding.Rounding K] in
theorem Invariant.publish (h : Invariant s) {snap : StatusSnapshot K}
    (hsnap : s.publisher = some snap) :
    Invariant { s with
      publisher := none
      queue := s.queue ++
        [statusText config snap s.adapter.connected s.adapter.actionEnabled] } where
  coupled := h.coupled
  verdict := h.verdict
  safety := h.safety
  running := h.running
  queue := fun hverdict => by
    apply safeQueue_append (h.queue hverdict)
    obtain ⟨hcompleted, -⟩ := reads_flagText _ _ _
      (fields_taskCompleted config snap s.adapter.connected s.adapter.actionEnabled)
    obtain ⟨hopen, hclosed⟩ := reads_flagText _ _ _
      (fields_actionEnabled config snap s.adapter.connected s.adapter.actionEnabled)
    rw [reportsCompleted, reportsOpen, reportsClosed, hcompleted, hopen, hclosed]
    rcases h.pending snap hsnap with hsnap | hgate | halerted
    · exact Or.inl hsnap
    · exact Or.inr (by simp [hgate])
    · rw [alerted] at halerted
      exact Or.inr (by simp [halerted])
  pending := by simp

omit [LinearOrder K] [FloorRing K] in
theorem Invariant.snapshot (h : Invariant s) (now : K) :
    Invariant { s with publisher := some (statusSnapshot now s.adapter) } where
  coupled := h.coupled
  verdict := h.verdict
  safety := h.safety
  running := h.running
  queue := h.queue
  pending := by
    rintro _ ⟨rfl⟩
    cases hgate : s.adapter.actionEnabled with
    | true => exact Or.inr (Or.inl rfl)
    | false => exact Or.inl (h.coupled.completed hgate)

theorem Invariant.call (h : Invariant s) {operation : Operation K Img}
    (hcall : isRolloutCall operation = true)
    (hgate : isCompletionCall operation = true ∨ closesGate config s operation = false)
    (huntorn : Untorn config s (.call operation)) :
    Invariant { s with adapter := (operation.perform config s.adapter).1 } where
  coupled := perform_coupled h.coupled hcall (hgate.imp_right fun hkept hopen => by
    simpa [closesGate, hopen] using hkept)
  verdict := h.verdict
  safety := h.safety
  running := h.running
  queue := h.queue
  pending := fun snap hsnap => by
    rcases h.pending snap hsnap with hcompleted | hopen | halerted
    · exact Or.inl hcompleted
    · refine Or.inr ?_
      cases hafter : (operation.perform config s.adapter).1.actionEnabled with
      | true => exact Or.inl rfl
      | false =>
        have hcloses : closesGate config s operation = true := by simp [closesGate, hopen, hafter]
        exact Or.inr (huntorn hcloses (Option.isSome_iff_exists.mpr ⟨snap, hsnap⟩))
    · exact Or.inr (Or.inr halerted)

omit [Field K] [LinearOrder K] [FloorRing K] [FloatRounding.Rounding K] in
theorem Invariant.deliver (h : Invariant s) {data : Text} {rest : List Text}
    (hqueue : s.queue = data :: rest) (hverdict : s.verdict = none) :
    Invariant { s with
      queue := rest
      monitor := s.monitor.smolvlaCallback data
      verdict := (s.monitor.smolvlaCallback data).result } := by
  have hpending : ∀ snap ∈ s.publisher, snap.taskCompleted = true ∨
      s.adapter.actionEnabled = true ∨ alerted { s with
        queue := rest
        monitor := s.monitor.smolvlaCallback data
        verdict := (s.monitor.smolvlaCallback data).result } = false := by
    intro snap hsnap
    refine (h.pending snap hsnap).imp_right (Or.imp_right fun halerted => ?_)
    rw [alerted, hqueue, List.any_cons, ← Bool.or_assoc] at halerted
    exact halerted
  have hsafe := h.queue hverdict
  rw [hqueue] at hsafe
  rcases hsafe with hcompleted | ⟨hgate, hrest⟩
  · have hresult := result_of_completed (m := s.monitor.smolvlaCallback data) h.safety hcompleted
    exact ⟨h.coupled, Or.inr hresult, h.safety, fun hnone => by simp [hresult] at hnone,
      fun hnone => by simp [hresult] at hnone, hpending⟩
  · cases hcompleted : reportsCompleted data with
    | true =>
      have hresult := result_of_completed (m := s.monitor.smolvlaCallback data) h.safety hcompleted
      exact ⟨h.coupled, Or.inr hresult, h.safety, fun hnone => by simp [hresult] at hnone,
        fun hnone => by simp [hresult] at hnone, hpending⟩
    | false =>
      have hresult := result_of_running (m := s.monitor.smolvlaCallback data) h.safety hcompleted
        hgate
      exact ⟨h.coupled, Or.inl hresult, h.safety, fun _ => ⟨hcompleted, hgate⟩, fun _ => hrest,
        hpending⟩

omit [Field K] [LinearOrder K] [FloorRing K] [FloatRounding.Rounding K] in
theorem Invariant.safetyStatus (h : Invariant s) {data : Text} (hverdict : s.verdict = none)
    (hhealthy : healthy (fields data) = true) :
    Invariant { s with
      monitor := s.monitor.safetyCallback data
      verdict := (s.monitor.safetyCallback data).result } := by
  obtain ⟨hcompleted, hgate⟩ := h.running hverdict
  have hresult := result_of_running (m := s.monitor.safetyCallback data) hhealthy hcompleted hgate
  exact ⟨h.coupled, Or.inl hresult, hhealthy, fun _ => ⟨hcompleted, hgate⟩,
    fun _ => h.queue hverdict, h.pending⟩

theorem Invariant.step {label : Label K Img} (h : Invariant s) (huntorn : Untorn config s label)
    (hnext : next config s label = some t) : Invariant t := by
  cases label with
  | snapshot now =>
    simp only [next, Option.ite_none_right_eq_some, Option.some.injEq] at hnext
    obtain ⟨-, rfl⟩ := hnext
    exact h.snapshot now
  | publish =>
    obtain ⟨snap, hsnap, rfl⟩ := Option.map_eq_some_iff.mp hnext
    exact h.publish hsnap
  | call operation =>
    simp only [next, Option.ite_none_right_eq_some, Option.some.injEq, Bool.and_eq_true,
      Bool.or_eq_true, Bool.not_eq_true'] at hnext
    obtain ⟨⟨hcall, hgate⟩, rfl⟩ := hnext
    exact h.call hcall hgate huntorn
  | deliver =>
    cases hqueue : s.queue with
    | nil => simp [next, hqueue] at hnext
    | cons data rest =>
      simp only [next, hqueue, Option.ite_none_right_eq_some, Option.some.injEq,
        Option.isNone_iff_eq_none] at hnext
      obtain ⟨hverdict, rfl⟩ := hnext
      exact h.deliver hqueue hverdict
  | safety data =>
    simp only [next, Option.ite_none_right_eq_some, Option.some.injEq, Bool.and_eq_true,
      Option.isNone_iff_eq_none] at hnext
    obtain ⟨⟨hverdict, hhealthy⟩, rfl⟩ := hnext
    exact h.safetyStatus hverdict hhealthy

/-- In every rollout without a torn status message, the first result of the monitor is
that of a completed task. -/
theorem untorn_rollout_result (config : AdapterConfig K) {adapter : Adapter K Img}
    (hstart : RolloutStarted adapter) (actionGateConfirmed : Bool) {labels : List (Label K Img)}
    {s : State K Img} (h : Run (Restricted (Untorn config) (Steps (next config)))
      (State.initial adapter actionGateConfirmed) labels s) :
    s.verdict = none ∨ s.verdict = some completedResult := by
  have hs : Invariant s := h.invariant
    (fun _ _ _ hstep hinv => hinv.step hstep.1 hstep.2)
    (invariant_initial hstart actionGateConfirmed)
  exact hs.verdict

end Runs

/-! ## Concrete rollouts -/

def startedAdapter : Adapter ℚ Unit :=
  (performAll shippedConfig (Adapter.initial 0) rolloutStart).1

def departAndRelease : List (Label ℚ Unit) := [
  .call (.updateTaskCompletion (floats fun i => homeJoints i + 1) true 3),
  .call (.updateTaskCompletion (floats fun i => homeJoints i + 1) false 6)]

/-- The return to the reset pose, after the minimum duration. -/
def returnHome : Label ℚ Unit := .call (.updateTaskCompletion (floats homeJoints) false 20)

/-- A rollout with status messages before and after its completion. -/
theorem whole_rollout_result :
    ∃ s, execute (restrict (Untorn shippedConfig) (next shippedConfig))
        (State.initial startedAdapter true)
        (departAndRelease ++ [.snapshot 19, .publish, .deliver, returnHome, .snapshot 21,
          .publish, .deliver]) = some s ∧
      (s.verdict = none ∨ s.verdict = some completedResult) := by
  obtain ⟨s, hs, hrun⟩ := exists_restricted_run (Untorn shippedConfig) (next shippedConfig)
    (State.initial startedAdapter true) (departAndRelease ++ [.snapshot 19, .publish, .deliver,
      returnHome, .snapshot 21, .publish, .deliver]) (by decide +kernel)
  have hstart : RolloutStarted startedAdapter :=
    ⟨by decide +kernel, by decide +kernel, by decide +kernel⟩
  exact ⟨s, hs, untorn_rollout_result shippedConfig hstart true hrun⟩

/-- A completion between the two steps of a publication is reported as a closed gate. -/
theorem torn_rollout_result :
    ∃ labels s, Run (Steps (next shippedConfig)) (State.initial startedAdapter true) labels s ∧
      s.verdict = some (23, "policy_gate_closed_without_completion".toList) := by
  obtain ⟨s, hrun, hverdict⟩ := exists_run_of_execute (next shippedConfig)
    (State.initial startedAdapter true)
    (departAndRelease ++ [.snapshot 19, returnHome, .publish, .deliver])
    (fun s => decide (s.verdict = some (23, "policy_gate_closed_without_completion".toList)))
    (by decide +kernel)
  exact ⟨_, s, hrun, of_decide_eq_true hverdict⟩

end SmolVlaQgf.RolloutMonitorRace
