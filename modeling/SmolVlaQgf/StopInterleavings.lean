import SmolVlaQgf.EventLogs
import SmolVlaQgf.GateLifecycle

/-!
# Interleavings of actions and handlers

The client thread runs `send_action` and `resend_last_joint_command` in separate
steps while the executor thread runs callbacks and services between them. Neither
method looks at the gate again once it has passed it, so a handler that closes or
reopens the gate in between does not reach the command already on its way. Runs
without such a handler step keep STOP final and resends current.
-/

namespace SmolVlaQgf.StopInterleavings
open ExactFloats PolicySafetyGuard GripperFilter ArmstrongConfiguration ArmstrongAdapter Adapter
  ActionOutcomes GateSteps GateLifecycle TransitionRuns EventLogs

/-! ## The interleaved system -/

/-- Where the client thread is. An action carries the number of its `send_action` call. -/
inductive Client (K : Type) where
  | idle
  | checked (call : ℕ) (action : ActionDict K)
  | guarded (call : ℕ) (accepted : AcceptedAction K)
  | filtered (call : ℕ) (accepted : AcceptedAction K) (temporal : GripperTemporalResult)
  | stored (call : ℕ) (temporal : GripperTemporalResult)
  | resending (call : ℕ) (command : Fin jointCount → K)

inductive Event (K : Type) where
  | enabled
  | stopped
  | started (call : ℕ)
  | joint (call : ℕ) (command : Fin jointCount → K)
  | gripper (call : ℕ) (requestedOpen : Bool)
  | republished (call : ℕ) (command : Fin jointCount → K)
  deriving DecidableEq

namespace Event

variable {K : Type}

def isEnabled : Event K → Bool
  | .enabled => true
  | _ => false

def isStopped : Event K → Bool
  | .stopped => true
  | _ => false

def isCommand : Event K → Bool
  | .joint _ _ | .gripper _ _ | .republished _ _ => true
  | _ => false

def isStart (call : ℕ) : Event K → Bool
  | .started call' => call' = call
  | _ => false

def resent : Event K → Option (ℕ × (Fin jointCount → K))
  | .republished call command => some (call, command)
  | _ => none

end Event

inductive Label (K Img : Type) where
  | startSend (action : ActionDict K)
  | guard (now : K)
  | filter (now : K)
  | store
  | publishGripper
  | checkResend
  | resend
  | complete (joints : List (PyFloat K)) (gripperClosed : Bool) (now : K)
  | handle (operation : Operation K Img)

/-- `storedBy` is the call that stored the last safe joint command. -/
structure State (K Img : Type) where
  adapter : Adapter K Img
  client : Client K
  calls : ℕ
  storedBy : ℕ
  log : List (Event K)

def isHandler {K Img : Type} : Operation K Img → Bool
  | .jointCallback _ _ _ | .gripperCallback _ | .gripperContactCallback _
  | .motionEnabledCallback _ _ | .chestCallback _ _ | .wristCallback _ _ | .setEnabled _ _ => true
  | _ => false

def opensGate {K : Type} : Effect K → Bool
  | .gateOpened => true
  | _ => false

def stopsRobot {K : Type} : Effect K → Bool
  | .stop => true
  | _ => false

def gateEvents {K : Type} (effects : List (Effect K)) : List (Event K) :=
  if effects.any opensGate then [.enabled]
  else if effects.any stopsRobot then [.stopped]
  else []

def gripperEvents {K : Type} (call : ℕ) (effects : List (Effect K)) : List (Event K) :=
  effects.filterMap fun | .gripperCommand requested => some (.gripper call requested) | _ => none

section Steps

variable {K Img : Type} [Field K] [LinearOrder K] [FloorRing K] [FloatRounding.Rounding K]

/-- The adapter after `connect`, an idle client and nothing observed. -/
def State.initial (config : AdapterConfig K) (start : K) : State K Img where
  adapter := ((Adapter.initial start).connect config).adapter
  client := .idle
  calls := 0
  storedBy := 0
  log := []

/-- A whole call of a method in one step. -/
def State.perform (config : AdapterConfig K) (s : State K Img) (operation : Operation K Img) :
    State K Img :=
  let performed := operation.perform config s.adapter
  { s with adapter := performed.1, log := s.log ++ gateEvents performed.2 }

/-- `send_action` up to its reading of the gate. -/
def State.startSend (action : ActionDict K) (s : State K Img) : State K Img :=
  if s.adapter.connected && s.adapter.actionEnabled then
    { s with
      client := .checked s.calls action
      calls := s.calls + 1
      log := s.log ++ [.started s.calls] }
  else s

def State.guard (config : AdapterConfig K) (now : K) (call : ℕ) (action : ActionDict K)
    (s : State K Img) : State K Img :=
  match s.adapter.guardAction config now action with
  | ⟨adapter, effects, .error _⟩ =>
      { s with adapter, client := .idle, log := s.log ++ gateEvents effects }
  | ⟨adapter, _, .ok accepted⟩ => { s with adapter, client := .guarded call accepted }

def State.filter (config : AdapterConfig K) (now : K) (call : ℕ) (accepted : AcceptedAction K)
    (s : State K Img) : State K Img :=
  match s.adapter.filterAction config now accepted with
  | ⟨adapter, _, .error _⟩ => { s with adapter, client := .idle }
  | ⟨adapter, _, .ok temporal⟩ => { s with adapter, client := .filtered call accepted temporal }

/-- Storage and publication of the joint command. -/
def State.store (config : AdapterConfig K) (call : ℕ) (accepted : AcceptedAction K)
    (temporal : GripperTemporalResult) (s : State K Img) : State K Img :=
  match s.adapter.storeAction config accepted temporal with
  | ⟨adapter, _, .error _⟩ => { s with adapter, client := .idle }
  | ⟨adapter, _, .ok command⟩ =>
      { s with
        adapter
        client := .stored call temporal
        storedBy := call
        log := s.log ++ [.joint call command] }

def State.publishGripper (call : ℕ) (temporal : GripperTemporalResult) (s : State K Img) :
    State K Img :=
  let published := s.adapter.publishGripper temporal
  { s with
    adapter := published.adapter
    client := .idle
    log := s.log ++ gripperEvents call published.effects }

/-- `resend_last_joint_command` up to its reading of the command. -/
def State.checkResend (s : State K Img) : State K Img :=
  if s.adapter.connected && s.adapter.actionEnabled then
    match s.adapter.lastSafeJointCommand with
    | none => s
    | some command => { s with client := .resending s.storedBy command }
  else s

def next (config : AdapterConfig K) (s : State K Img) (label : Label K Img) :
    Option (State K Img) :=
  match label, s.client with
  | .startSend action, .idle => some (s.startSend action)
  | .guard now, .checked call action => some (s.guard config now call action)
  | .filter now, .guarded call accepted => some (s.filter config now call accepted)
  | .store, .filtered call accepted temporal => some (s.store config call accepted temporal)
  | .publishGripper, .stored call temporal => some (s.publishGripper call temporal)
  | .checkResend, .idle => some s.checkResend
  | .resend, .resending call command =>
      some { s with client := .idle, log := s.log ++ [.republished call command] }
  | .complete joints gripperClosed now, .idle =>
      some (s.perform config (.updateTaskCompletion joints gripperClosed now))
  | .handle operation, _ => if isHandler operation then some (s.perform config operation) else none
  | _, _ => none

end Steps

/-! ## The two properties -/

section Properties

variable {K Img : Type}

/-- Every STOP is followed by an enable before the next command. -/
def StopIsFinal (log : List (Event K)) : Prop :=
  AtEvery (fun e before => e.isCommand → Answered (·.isStopped) (·.isEnabled) before) log

instance (log : List (Event K)) : Decidable (StopIsFinal log) :=
  inferInstanceAs (Decidable (AtEvery _ log))

def Current (call : ℕ) (log : List (Event K)) : Prop :=
  Answered (·.isEnabled) (·.isStart call) log

instance (call : ℕ) (log : List (Event K)) : Decidable (Current call log) :=
  inferInstanceAs (Decidable (Answered _ _ log))

/-- Every republished command is the joint command of a call that started after every
enable before it. -/
def ResendsAreCurrent (log : List (Event K)) : Prop :=
  AtEvery (fun e before => ∀ p ∈ e.resent, .joint p.1 p.2 ∈ before ∧ Current p.1 before) log

instance [DecidableEq K] (log : List (Event K)) : Decidable (ResendsAreCurrent log) :=
  inferInstanceAs (Decidable (AtEvery _ log))

/-- The client has passed the gate with a command it has yet to publish. -/
def Client.inFlight : Client K → Bool
  | .guarded _ _ | .filtered _ _ _ | .resending _ _ => true
  | .stored _ temporal => temporal.transitioned
  | _ => false

/-! ## The invariant -/

/-- What the client carries was produced after every enable so far. -/
def Client.Sound (log : List (Event K)) : Client K → Prop
  | .guarded call _ | .filtered call _ _ => Current call log
  | .resending call command => .joint call command ∈ log ∧ Current call log
  | _ => True

structure Invariant (s : State K Img) : Prop where
  final : StopIsFinal s.log
  current : ResendsAreCurrent s.log
  answered : s.adapter.actionEnabled = true → Answered (·.isStopped) (·.isEnabled) s.log
  passed : s.client.inFlight = true → s.adapter.actionEnabled = true
  client : s.client.Sound s.log
  stored : ∀ command ∈ s.adapter.lastSafeJointCommand,
    .joint s.storedBy command ∈ s.log ∧ Current s.storedBy s.log

variable {s t : State K Img} {adapter : Adapter K Img} {client : Client K}

private theorem stopIsFinal_append {log : List (Event K)} {e : Event K} (h : StopIsFinal log)
    (he : e.isCommand → Answered (·.isStopped) (·.isEnabled) log) : StopIsFinal (log ++ [e]) :=
  (atEvery_append_singleton _ _ _).mpr ⟨h, he⟩

private theorem resendsAreCurrent_append {log : List (Event K)} {e : Event K}
    (h : ResendsAreCurrent log)
    (he : ∀ p ∈ e.resent, .joint p.1 p.2 ∈ log ∧ Current p.1 log) :
    ResendsAreCurrent (log ++ [e]) :=
  (atEvery_append_singleton _ _ _).mpr ⟨h, he⟩

theorem Current.append {call : ℕ} {log : List (Event K)} {e : Event K} (h : Current call log)
    (he : e.isEnabled = false) : Current call (log ++ [e]) := by
  simp [Current, he] at h ⊢
  exact Or.inr h

theorem Client.Sound.append {log : List (Event K)} {e : Event K} (h : client.Sound log)
    (he : e.isEnabled = false) : client.Sound (log ++ [e]) := by
  cases client with
  | guarded call accepted => exact Current.append h he
  | filtered call accepted temporal => exact Current.append h he
  | resending call command => exact ⟨List.mem_append_left _ h.1, h.2.append he⟩
  | _ => trivial

/-- A client that holds nothing is sound whatever happened. -/
theorem Client.sound_of_not_inFlight {log : List (Event K)} (h : client.inFlight = false) :
    client.Sound log := by
  cases client with
  | guarded call accepted => cases h
  | filtered call accepted temporal => cases h
  | resending call command => cases h
  | _ => trivial

/-! ## Changes that preserve it -/

theorem Invariant.append (h : Invariant s) {e : Event K} (henabled : e.isEnabled = false)
    (hstopped : e.isStopped = false) (hcommand : e.isCommand → s.adapter.actionEnabled = true)
    (hresent : ∀ p ∈ e.resent, .joint p.1 p.2 ∈ s.log ∧ Current p.1 s.log) :
    Invariant { s with log := s.log ++ [e] } where
  final := stopIsFinal_append h.final fun he => h.answered (hcommand he)
  current := resendsAreCurrent_append h.current hresent
  answered := fun hopen => by
    simp only [answered_append_singleton, hstopped]
    exact ⟨by simp, Or.inr (h.answered hopen)⟩
  passed := h.passed
  client := h.client.append henabled
  stored := fun command hstored =>
    ⟨List.mem_append_left _ (h.stored command hstored).1,
      (h.stored command hstored).2.append henabled⟩

theorem Invariant.quiet (h : Invariant s) (hlog : t.log = s.log) (hcall : t.storedBy = s.storedBy)
    (hgate : t.adapter.actionEnabled = s.adapter.actionEnabled)
    (hcommand : t.adapter.lastSafeJointCommand = s.adapter.lastSafeJointCommand)
    (hpassed : t.client.inFlight = true → s.adapter.actionEnabled = true)
    (hclient : t.client.Sound s.log) : Invariant t where
  final := hlog ▸ h.final
  current := hlog ▸ h.current
  answered := fun hopen => hlog ▸ h.answered (hgate ▸ hopen)
  passed := fun hflight => hgate.trans (hpassed hflight)
  client := hlog ▸ hclient
  stored := fun command hstored => by
    rw [hlog, hcall]
    exact h.stored command (hcommand ▸ hstored)

/-- The gate ends up closed and the stored command is gone. -/
theorem Invariant.closed (h : Invariant s) (hgate : adapter.actionEnabled = false)
    (hcommand : adapter.lastSafeJointCommand = none) (hclient : client.inFlight = false)
    {events : List (Event K)} (hevents : events = [] ∨ events = [.stopped]) :
    Invariant { s with adapter, client, log := s.log ++ events } where
  final := by
    rcases hevents with rfl | rfl
    · simpa using h.final
    · exact stopIsFinal_append h.final (by simp [Event.isCommand])
  current := by
    rcases hevents with rfl | rfl
    · simpa using h.current
    · exact resendsAreCurrent_append h.current (by simp [Event.resent])
  answered := by simp [hgate]
  passed := fun hflight => absurd hflight (Bool.eq_false_iff.mp hclient)
  client := client.sound_of_not_inFlight hclient
  stored := by simp [hcommand]

theorem Invariant.opened (h : Invariant s) (hclient : s.client.inFlight = false)
    (hcommand : adapter.lastSafeJointCommand = none) :
    Invariant { s with adapter, log := s.log ++ [.enabled] } where
  final := stopIsFinal_append h.final (by simp [Event.isCommand])
  current := resendsAreCurrent_append h.current (by simp [Event.resent])
  answered := fun _ => by simp [Event.isStopped, Event.isEnabled]
  passed := fun hflight => absurd hflight (Bool.eq_false_iff.mp hclient)
  client := s.client.sound_of_not_inFlight hclient
  stored := by simp [hcommand]

end Properties

/-! ## Steps and runs -/

section Runs

variable {K Img : Type} [Field K] [LinearOrder K] [FloorRing K] [FloatRounding.Rounding K]

def Label.closesGate : Label K Img → Bool
  | .handle (.setEnabled false _) | .handle (.motionEnabledCallback false _) => true
  | _ => false

def Label.passesChecks (config : AdapterConfig K) (s : State K Img) : Label K Img → Bool
  | .handle (.setEnabled true readings) => (s.adapter.enableChecks config readings).isOk
  | _ => false

def Label.acceptedCall (config : AdapterConfig K) (s : State K Img) : Label K Img → Option ℕ
  | .guard now => match s.client with
    | .checked call action =>
        if (s.adapter.guardAction config now action).result.isOk then some call else none
    | _ => none
  | _ => none

/-- The gate is not closed under a command in flight, nor opened while a command is in
flight or stored, and the guard accepts an action only if the gate has stayed open since
the action read it. -/
def Uninterrupted (config : AdapterConfig K) (s : State K Img) (label : Label K Img) : Prop :=
  (label.closesGate = true → s.adapter.actionEnabled = true → s.client.inFlight = false) ∧
  (label.passesChecks config s = true →
    s.client.inFlight = false ∧ s.adapter.lastSafeJointCommand = none) ∧
  ∀ call ∈ label.acceptedCall config s, s.adapter.actionEnabled = true ∧ Current call s.log

instance (config : AdapterConfig K) (s : State K Img) (label : Label K Img) :
    Decidable (Uninterrupted config s label) :=
  inferInstanceAs (Decidable ((_ → _ → _) ∧ (_ → _ ∧ _) ∧ ∀ call ∈ _, _ ∧ _))

variable {config : AdapterConfig K} {s t : State K Img}

omit [Field K] [LinearOrder K] [FloorRing K] [FloatRounding.Rounding K] in
theorem Invariant.startSend (h : Invariant s) (action : ActionDict K) :
    Invariant (s.startSend action) := by
  rw [State.startSend]
  split_ifs
  · have happend := h.append (e := .started s.calls) rfl rfl (by simp [Event.isCommand])
      (by simp [Event.resent])
    exact happend.quiet rfl rfl rfl rfl nofun trivial
  · exact h

omit [Field K] [LinearOrder K] [FloorRing K] [FloatRounding.Rounding K] in
private theorem not_any_opensGate {effects : List (Effect K)} (h : .gateOpened ∉ effects) :
    ¬effects.any opensGate = true := by
  rw [Bool.not_eq_true, List.any_eq_false]
  intro effect heffect
  cases effect with
  | gateOpened => exact absurd heffect h
  | _ => simp [opensGate]

omit [Field K] [LinearOrder K] [FloorRing K] [FloatRounding.Rounding K] in
private theorem gateEvents_of_notMem {effects : List (Effect K)} (h : .gateOpened ∉ effects) :
    gateEvents effects = [] ∨ gateEvents effects = [.stopped] := by
  rw [gateEvents, if_neg (not_any_opensGate h)]
  split_ifs
  · exact Or.inr rfl
  · exact Or.inl rfl

omit [FloatRounding.Rounding K] in
theorem Invariant.guard (h : Invariant s) {now : K} {call : ℕ} {action : ActionDict K}
    (haccepts : (∃ accepted, (s.adapter.guardAction config now action).result = .ok accepted) →
      s.adapter.actionEnabled = true ∧ Current call s.log) :
    Invariant (s.guard config now call action) := by
  have houtcome := guardAction_outcome config now action s.adapter
  rw [State.guard]
  generalize s.adapter.guardAction config now action = outcome at houtcome haccepts
  cases houtcome with
  | unavailable => exact h.quiet (List.append_nil _) rfl rfl rfl nofun trivial
  | unmeasured => exact h.quiet (List.append_nil _) rfl rfl rfl nofun trivial
  | rejected =>
    exact h.closed rfl rfl rfl (gateEvents_of_notMem (Closes.stopping (t := s.adapter.closeGate)
      rfl rfl fun hmem => publishRawAction_routine _ hmem).notOpened)
  | accepted accepted =>
    obtain ⟨hopen, hcurrent⟩ := haccepts ⟨accepted, rfl⟩
    exact h.quiet rfl rfl rfl rfl (fun _ => hopen) hcurrent

omit [FloorRing K] in
theorem Invariant.filter (h : Invariant s) {now : K} {call : ℕ} {accepted : AcceptedAction K}
    (hclient : s.client = .guarded call accepted) :
    Invariant (s.filter config now call accepted) := by
  have hopen := h.passed (by rw [hclient]; trivial)
  have hcurrent := h.client
  rw [hclient] at hcurrent
  rw [State.filter]
  rcases filterAction_cases config now accepted s.adapter with ⟨e, he⟩ | ⟨filter, temporal, hok⟩
  · rw [he]
    exact h.quiet rfl rfl rfl rfl nofun trivial
  · rw [hok]
    exact h.quiet rfl rfl rfl rfl (fun _ => hopen) hcurrent

omit [FloatRounding.Rounding K] in
theorem Invariant.store (h : Invariant s) {call : ℕ} {accepted : AcceptedAction K}
    {temporal : GripperTemporalResult} (hclient : s.client = .filtered call accepted temporal) :
    Invariant (s.store config call accepted temporal) := by
  have hopen := h.passed (by rw [hclient]; trivial)
  have hcurrent := h.client
  rw [hclient] at hcurrent
  rw [State.store]
  rcases storeAction_cases config accepted temporal s.adapter with
    ⟨effects, e, he⟩ | ⟨effects, command, hok⟩
  · rw [he]
    exact h.quiet rfl rfl rfl rfl nofun trivial
  · rw [hok]
    have happend := h.append (e := .joint call command) rfl rfl (fun _ => hopen)
      (by simp [Event.resent])
    refine ⟨happend.final, happend.current, happend.answered, fun _ => hopen, trivial, ?_⟩
    rintro _ ⟨rfl⟩
    exact ⟨by simp, hcurrent.append rfl⟩

omit [Field K] [LinearOrder K] [FloorRing K] [FloatRounding.Rounding K] in
theorem Invariant.publishGripper (h : Invariant s) {call : ℕ} {temporal : GripperTemporalResult}
    (hclient : s.client = .stored call temporal) :
    Invariant (s.publishGripper call temporal) := by
  rw [State.publishGripper]
  by_cases htransitioned : temporal.transitioned = true
  · have hopen := h.passed (by rw [hclient]; exact htransitioned)
    have happend := h.append (e := .gripper call !temporal.commandClosed) rfl rfl (fun _ => hopen)
      (by simp [Event.resent])
    refine happend.quiet ?_ rfl (by simp) (by simp) nofun trivial
    simp [Adapter.publishGripper, htransitioned, gripperEvents]
  · refine h.quiet ?_ rfl (by simp) (by simp) nofun trivial
    simp [Adapter.publishGripper, htransitioned, gripperEvents]

omit [Field K] [LinearOrder K] [FloorRing K] [FloatRounding.Rounding K] in
theorem Invariant.checkResend (h : Invariant s) : Invariant s.checkResend := by
  rw [State.checkResend]
  split_ifs with hopen
  · split
    · exact h
    · rename_i command hcommand
      simp only [Bool.and_eq_true] at hopen
      exact h.quiet rfl rfl rfl rfl (fun _ => hopen.2) (h.stored command hcommand)
  · exact h

omit [Field K] [LinearOrder K] [FloorRing K] [FloatRounding.Rounding K] in
theorem Invariant.resend (h : Invariant s) {call : ℕ} {command : Fin jointCount → K}
    (hclient : s.client = .resending call command) :
    Invariant { s with client := .idle, log := s.log ++ [.republished call command] } := by
  have hopen := h.passed (by rw [hclient]; trivial)
  have hsound := h.client
  rw [hclient] at hsound
  have happend := h.append (e := .republished call command) rfl rfl (fun _ => hopen)
    (by rintro _ ⟨rfl⟩; exact hsound)
  exact happend.quiet rfl rfl rfl rfl nofun trivial

omit [Field K] [LinearOrder K] [FloorRing K] [FloatRounding.Rounding K] in
private theorem disable_stopping (now : K) (s : Adapter K Img) :
    Closes s (s.disable now).adapter (s.disable now).effects :=
  .stopping rfl rfl (by simp)

theorem Invariant.complete (h : Invariant s) {joints : List (PyFloat K)} {gripperClosed : Bool}
    {now : K} (hclient : s.client = .idle) :
    Invariant (s.perform config (.updateTaskCompletion joints gripperClosed now)) := by
  have hidle : s.client.inFlight = false := by rw [hclient]; rfl
  rw [State.perform]
  dsimp only [Operation.perform, Outcome.change]
  rw [updateTaskCompletion]
  split_ifs
  · split
    · exact h.quiet (List.append_nil _) rfl rfl rfl h.passed h.client
    · dsimp only
      split_ifs
      · have hstop : Closes s.adapter s.adapter.closeGate ([] ++ s.adapter.publishStop) :=
          .stopping rfl rfl List.not_mem_nil
        exact h.closed rfl rfl hidle (gateEvents_of_notMem hstop.notOpened)
      · exact h.quiet (List.append_nil _) rfl rfl rfl h.passed h.client
  · exact h.quiet (List.append_nil _) rfl rfl rfl h.passed h.client

theorem Invariant.enable (h : Invariant s) {readings : EnableReadings K}
    (hcondition : Uninterrupted config s (.handle (.setEnabled true readings))) :
    Invariant (s.perform config (.setEnabled true readings)) := by
  rw [State.perform]
  dsimp only [Operation.perform, Outcome.change]
  simp only [setEnabled, if_true]
  rw [Adapter.enable]
  split
  · exact h.quiet (List.append_nil _) rfl rfl rfl h.passed h.client
  · rename_i joints gripperClosed hchecks
    dsimp only
    split
    · exact h.quiet (List.append_nil _) rfl rfl rfl h.passed h.client
    · obtain ⟨hidle, hcommand⟩ := hcondition.2.1 (by simp [Label.passesChecks, hchecks, Except.isOk,
        Except.toBool])
      exact h.opened hidle hcommand

theorem Invariant.disable (h : Invariant s) {readings : EnableReadings K}
    (hcondition : Uninterrupted config s (.handle (.setEnabled false readings))) :
    Invariant (s.perform config (.setEnabled false readings)) := by
  have hidle : s.client.inFlight = false := by
    cases hflight : s.client.inFlight with
    | false => rfl
    | true => exact hflight.symm.trans (hcondition.1 rfl (h.passed hflight))
  exact h.closed rfl rfl hidle (gateEvents_of_notMem (disable_stopping _ _).notOpened)

theorem Invariant.motion (h : Invariant s) {data : Bool} {now : K}
    (hcondition : Uninterrupted config s (.handle (.motionEnabledCallback data now))) :
    Invariant (s.perform config (.motionEnabledCallback data now)) := by
  rw [State.perform]
  dsimp only [Operation.perform, Outcome.change]
  rw [motionEnabledCallback]
  dsimp only
  split_ifs with hlost
  · obtain ⟨hopen, rfl⟩ : s.adapter.actionEnabled = true ∧ data = false := by simpa using hlost
    exact h.closed rfl rfl (hcondition.1 rfl hopen) (gateEvents_of_notMem
      (Closes.stopping (s := s.adapter) (t := s.adapter.closeGate) rfl rfl (by simp)).notOpened)
  · exact h.quiet (List.append_nil _) rfl rfl rfl h.passed h.client

omit [Field K] [LinearOrder K] [FloorRing K] [FloatRounding.Rounding K] in
private theorem gateEvents_of_routine {effects : List (Effect K)}
    (h : ∀ effect ∈ effects, effect.IsRoutine) : gateEvents effects = [] := by
  have hopened := not_any_opensGate fun hmem => h _ hmem
  have hstopped : ¬effects.any stopsRobot := by
    rw [Bool.not_eq_true, List.any_eq_false]
    intro effect heffect hstops
    cases effect with
    | stop => exact h _ heffect
    | _ => cases hstops
  rw [gateEvents, if_neg hopened, if_neg hstopped]

theorem Invariant.passive (h : Invariant s) {operation : Operation K Img}
    (hpassive : isPassive operation = true) : Invariant (s.perform config operation) := by
  have hsame : SameControl s.adapter (operation.perform config s.adapter).1 :=
    perform_sameControl hpassive
  have hevents : gateEvents (operation.perform config s.adapter).2 = [] :=
    gateEvents_of_routine (perform_routine hpassive)
  refine h.quiet ?_ rfl hsame.actionEnabled hsame.lastSafeJointCommand h.passed h.client
  rw [State.perform, hevents, List.append_nil]

theorem Invariant.handle (h : Invariant s) {operation : Operation K Img}
    (hhandler : isHandler operation = true)
    (hcondition : Uninterrupted config s (.handle operation)) :
    Invariant (s.perform config operation) := by
  cases hpassive : isPassive operation with
  | true => exact h.passive hpassive
  | false =>
    cases operation with
    | motionEnabledCallback data now => exact h.motion hcondition
    | setEnabled data readings =>
      cases data with
      | false => exact h.disable hcondition
      | true => exact h.enable hcondition
    | jointCallback | gripperCallback | gripperContactCallback | chestCallback | wristCallback =>
      cases hpassive
    | _ => cases hhandler

theorem Invariant.step {label : Label K Img} (h : Invariant s)
    (hcondition : Uninterrupted config s label) (hnext : next config s label = some t) :
    Invariant t := by
  simp only [next] at hnext
  split at hnext
  · obtain rfl := Option.some.inj hnext
    exact h.startSend _
  · obtain rfl := Option.some.inj hnext
    rename_i hclient
    refine h.guard fun ⟨accepted, hok⟩ => hcondition.2.2 _ ?_
    simp [Label.acceptedCall, hclient, hok, Except.isOk, Except.toBool]
  · obtain rfl := Option.some.inj hnext
    exact h.filter ‹_›
  · obtain rfl := Option.some.inj hnext
    exact h.store ‹_›
  · obtain rfl := Option.some.inj hnext
    exact h.publishGripper ‹_›
  · obtain rfl := Option.some.inj hnext
    exact h.checkResend
  · obtain rfl := Option.some.inj hnext
    exact h.resend ‹_›
  · obtain rfl := Option.some.inj hnext
    exact h.complete ‹_›
  · split_ifs at hnext with hhandler
    obtain rfl := Option.some.inj hnext
    exact h.handle hhandler hcondition
  · cases hnext

omit [FloorRing K] [FloatRounding.Rounding K] in
theorem invariant_initial (config : AdapterConfig K) (start : K) :
    Invariant (State.initial config start : State K Img) := by
  have hcommand : (State.initial config start : State K Img).adapter.lastSafeJointCommand = none :=
    rfl
  have hgate : (State.initial config start : State K Img).adapter.actionEnabled = false := rfl
  refine ⟨atEvery_nil _, atEvery_nil _, ?_, ?_, trivial, ?_⟩
  · simp [hgate]
  · exact nofun
  · simp [hcommand]

/-- In every run all of whose steps are uninterrupted, STOP is final and resends are
current. -/
theorem uninterrupted_stop_final (config : AdapterConfig K) (start : K)
    {labels : List (Label K Img)} {s : State K Img}
    (h : Run (Restricted (Uninterrupted config) (Steps (next config)))
      (State.initial config start) labels s) :
    StopIsFinal s.log ∧ ResendsAreCurrent s.log := by
  have hs : Invariant s := h.invariant
    (fun _ _ _ hstep hinv => hinv.step hstep.1 hstep.2) (invariant_initial config start)
  exact ⟨hs.final, hs.current⟩

end Runs

/-! ## Concrete runs -/

/-- The start of a rollout as steps of the executor thread. -/
def startLabels : List (Label ℚ Unit) := rolloutStart.tail.map .handle

/-- A `send_action` that holds the reset pose, from start to end. -/
def sendLabels : List (Label ℚ Unit) := [
  .startSend (featureDict fun i => .finite (withGripper homeJoints 0 i)),
  .guard 1, .filter 1, .store, .publishGripper]

def disableLabel : Label ℚ Unit := .handle (.setEnabled false ⟨1, 1, 1, .ok 1, .ok 1⟩)

def enableLabel : Label ℚ Unit := .handle (.setEnabled true ⟨1, 1, 1, .ok 1, .ok 1⟩)

/-- A rollout that sends, resends and is then disabled has no interrupted step. -/
theorem rollout_stop_final :
    ∃ s, execute (restrict (Uninterrupted shippedConfig) (next shippedConfig))
        (State.initial shippedConfig 0)
        (startLabels ++ sendLabels ++ [.checkResend, .resend, disableLabel]) = some s ∧
      StopIsFinal s.log ∧ ResendsAreCurrent s.log := by
  obtain ⟨s, hs, hrun⟩ := exists_restricted_run (Uninterrupted shippedConfig) (next shippedConfig)
    (State.initial shippedConfig 0)
    (startLabels ++ sendLabels ++ [.checkResend, .resend, disableLabel]) (by decide +kernel)
  exact ⟨s, hs, uninterrupted_stop_final shippedConfig 0 hrun⟩

/-- A disable request between the guard and the publication does not stop the command; a
second enable request leaves the command of the first for a resend. -/
theorem interrupted_stop_not_final :
    (∃ labels s, Run (Steps (next shippedConfig)) (State.initial shippedConfig 0 : State ℚ Unit)
      labels s ∧ ¬StopIsFinal s.log) ∧
    ∃ labels s, Run (Steps (next shippedConfig)) (State.initial shippedConfig 0 : State ℚ Unit)
      labels s ∧ ¬ResendsAreCurrent s.log := by
  constructor
  · obtain ⟨s, hrun, hlog⟩ := exists_run_of_execute (next shippedConfig)
      (State.initial shippedConfig 0)
      (startLabels ++ sendLabels.take 3 ++ [disableLabel] ++ sendLabels.drop 3)
      (fun s => !decide (StopIsFinal s.log)) (by decide +kernel)
    exact ⟨_, s, hrun, by simpa using hlog⟩
  · obtain ⟨s, hrun, hlog⟩ := exists_run_of_execute (next shippedConfig)
      (State.initial shippedConfig 0)
      (startLabels ++ sendLabels ++ [enableLabel, .checkResend, .resend])
      (fun s => !decide (ResendsAreCurrent s.log)) (by decide +kernel)
    exact ⟨_, s, hrun, by simpa using hlog⟩

end SmolVlaQgf.StopInterleavings
