import Mathlib.Data.Set.Insert
import SmolVlaQgf.SmolvlaLauncher

/-!
# The stages of a launch
-/

namespace SmolVlaQgf.LauncherStages
open FieldText ShellScripts ShellScripts.Script RobotStack SmolvlaLauncher

inductive Target where
  | service (service : Service)
  | process (process : Process)
  deriving DecidableEq

/-- What an event of a launch can show. -/
inductive Fact where
  | camerasChecked
  | robotAtRest
  | armTyped
  | powered
  | enabled
  | gripperOn
  | firstChunk
  | servo
  | moveTyped
  | settled (target : Target)
  | never
  deriving DecidableEq

/-- A status text with the given fields has been waited for successfully. -/
def Confirms (topic : StatusTopic) (fields : List String) (event : Event Command) : Prop :=
  ∃ timeout contains, event.command = .waitString topic timeout contains ∧
    event.succeeded = true ∧ ∀ field ∈ fields, field ∈ contains

/-- The service was told to switch off, or it was not in the list of services; the process
was stopped. -/
def Ended : Target → Event Command → Prop
  | .service service, event => event.command = .callService service false ∨
      ∃ status services, event = ⟨.listServices service, .exits status services⟩ ∧
        ¬(status = 0 ∧ listed service services = true)
  | .process process, event => event.command = .stopProcess process

def isRequired : Command → Bool
  | .loadEnvironment | .print | .appendEvent _ | .stopProcess .policyClient => true
  | _ => false

/-- An event that cuts a shutdown short: a signal, a missing environment, a line that could not
be written to the terminal or to the event log, or a client that could not be stopped. -/
def CutsShort (event : Event Command) : Prop :=
  event.interrupted = true ∨ event.succeeded = false ∧ isRequired event.command = true

instance : DecidablePred CutsShort := fun event => inferInstanceAs (Decidable
  (event.interrupted = true ∨ event.succeeded = false ∧ isRequired event.command = true))

def Holds : Fact → Event Command → Prop
  | .camerasChecked, event => event.command = .checkCameraFps ∧ event.succeeded = true
  | .robotAtRest, event => Confirms .safetyStatus
      (["robot_powered_on=0", "robot_enabled=0", "motion_enabled=0"] ++ errorFree) event
  | .armTyped, event => event = ⟨.ask .arm, .exits 0 "ARM".toList⟩
  | .powered, event => Confirms .safetyStatus ("robot_powered_on=1" :: errorFree) event
  | .enabled, event => Confirms .safetyStatus ("robot_enabled=1" :: errorFree) event
  | .gripperOn, event => ∃ output, event = ⟨.callService .gripperEnabled true, .exits 0 output⟩ ∧
      reportsSuccess output = true
  | .firstChunk, event => Confirms .policyStatus firstChunkReady event
  | .servo, event => Confirms .safetyStatus ("motion_enabled=1" :: errorFree) event
  | .moveTyped, event => event = ⟨.ask .move, .exits 0 "MOVE".toList⟩
  | .settled target, event => Ended target event ∨ CutsShort event
  | .never, _ => False

def switchOnNeeds : Service → Set Fact
  | .poweredOn => {.armTyped}
  | .robotEnabled => {.armTyped, .powered}
  | .gripperEnabled => {.armTyped, .enabled}
  | .gripperOpen => {.armTyped, .gripperOn}
  | .motionEnabled => {.armTyped, .powered, .enabled, .firstChunk}
  | .policyEnabled => {.moveTyped, .servo}

def settledBefore : Service → Set Fact
  | .policyEnabled | .gripperOpen => ∅
  | .motionEnabled => {.settled (.service .policyEnabled)}
  | .gripperEnabled => {.settled (.service .policyEnabled), .settled (.service .motionEnabled)}
  | .robotEnabled =>
      {.settled (.service .policyEnabled), .settled (.service .motionEnabled),
        .settled (.service .gripperEnabled)}
  | .poweredOn =>
      {.settled (.service .policyEnabled), .settled (.service .motionEnabled),
        .settled (.service .gripperEnabled), .settled (.service .robotEnabled)}

def shutdownServices : Set Fact :=
  {.settled (.service .policyEnabled), .settled (.service .motionEnabled),
    .settled (.service .gripperEnabled), .settled (.service .robotEnabled),
    .settled (.service .poweredOn)}

def settledBeforeStop : Process → Set Fact
  | .policyClient => shutdownServices
  | .policyServer => insert (.settled (.process .policyClient)) shutdownServices

def turnedToBefore : Target → Set Fact
  | .service service => settledBefore service
  | .process process => settledBeforeStop process

/-- What must have been seen before a command; while `closing`, nothing is started, asked or
switched on. -/
def Needs (closing : Bool) : Command → Set Fact
  | .startComponent _ | .startProcess _ => if closing then {.never} else ∅
  | .ask .arm => if closing then {.never} else {.camerasChecked, .robotAtRest}
  | .ask .move => if closing then {.never} else {.firstChunk, .servo}
  | .callService service true => if closing then {.never} else switchOnNeeds service
  | .callService service false | .listServices service => settledBefore service
  | .stopProcess process => settledBeforeStop process
  | _ => ∅

def Closing : Command → Prop
  | .startComponent _ | .startProcess _ | .ask _ | .callService _ true => False
  | _ => True

theorem closing_of_guarded {events : List (Event Command)}
    (h : Guarded Holds (Needs true) events) {event : Event Command} (hevent : event ∈ events) :
    Closing event.command := by
  obtain ⟨before, after, rfl⟩ := List.append_of_mem hevent
  have hneeds := h before event after rfl
  have hnever : ¬∃ seen ∈ before, Holds .never seen := fun ⟨_, _, h⟩ => h
  rcases event with ⟨command, reply⟩
  cases command with
  | startComponent component => exact absurd (hneeds .never rfl) hnever
  | startProcess process => exact absurd (hneeds .never rfl) hnever
  | ask prompt =>
    cases prompt with
    | arm => exact absurd (hneeds .never rfl) hnever
    | move => exact absurd (hneeds .never rfl) hnever
  | callService service value =>
    cases value with
    | true => exact absurd (hneeds .never rfl) hnever
    | false => trivial
  | _ => trivial

/-! ## Switching off -/

/-- Where a shutdown stops early it has been cut short, which settles every service. -/
def settledByCut (_stop : Stop) : Set Fact := Set.range Fact.settled

/-- The facts at the end of a command that never fails. -/
def whenZero (known : Set Fact) (status : ℕ) : Set Fact := {fact | status = 0 → fact ∈ known}

private theorem holds_settled_of_signal {fact : Fact} (h : fact ∈ Set.range Fact.settled)
    (command : Command) (number : ℕ) : Holds fact ⟨command, .signal number⟩ := by
  obtain ⟨target, rfl⟩ := h
  exact Or.inr (Or.inl rfl)

section Off

variable {V : Type} {errexit closing : Bool} {known : Set Fact} {service : Service}

private theorem callBool_off (hknown : settledBefore service ⊆ known) :
    Secures Holds (Needs closing) errexit known
      (callBool service false : Script V Command ℕ)
      (fun _ => insert (.settled (.service service)) known)
      settledByCut := by
  refine .bind (.capture (G := fun _ => insert (.settled (.service service)) known) ?_ ?_ ?_) ?_
  · exact hknown
  · intro status output fact hfact
    rcases hfact with rfl | hfact
    · exact Or.inr (Or.inl (Or.inl rfl))
    · exact Or.inl hfact
  · exact fun number fact hfact => Or.inr (holds_settled_of_signal hfact _ number)
  · intro reply
    exact .ite (fun _ => .pure fun _ h => h) fun _ => .pure fun _ h => h

private theorem serviceAvailable_off (hknown : settledBefore service ⊆ known) :
    Secures Holds (Needs closing) errexit known
      (serviceAvailable service : Script V Command ℕ)
      (fun status => if status = 0 then known else insert (.settled (.service service)) known)
      settledByCut := by
  refine .bind (.capture (G := fun reply =>
    if reply.1 = 0 ∧ listed service reply.2 = true then known
    else insert (.settled (.service service)) known) ?_ ?_ ?_) ?_
  · exact hknown
  · intro status services fact hfact
    split at hfact
    · exact Or.inl hfact
    · rcases hfact with rfl | hfact
      · exact Or.inr (Or.inl (Or.inr ⟨status, services, rfl, ‹_›⟩))
      · exact Or.inl hfact
  · exact fun number fact hfact => Or.inr (holds_settled_of_signal hfact _ number)
  · rintro ⟨status, services⟩
    refine .ite (fun h => .pure ?_) fun h => .pure ?_
    · simp [h]
    · simp [h]

private theorem run_keeps {command : Command} {lost : Stop → Set Fact}
    (hneeds : Needs closing command = ∅)
    (hlost : ∀ number, ∀ fact ∈ lost (.signalled number),
      fact ∈ known ∨ Holds fact ⟨command, .signal number⟩) :
    Secures Holds (Needs closing) errexit known (Script.run command : Script V Command ℕ)
      (fun _ => known) lost :=
  .run (hneeds ▸ Set.empty_subset _) (fun _ _ _ h => Or.inl h) hlost

/-- A failure of these commands cuts a shutdown short, and so settles every target. -/
theorem run_cutting {command : Command} {targets : Set Fact}
    (htargets : targets ⊆ Set.range Fact.settled) (hneeds : Needs closing command = ∅)
    (hrequired : isRequired command = true) :
    Secures Holds (Needs closing) errexit known (Script.run command : Script V Command ℕ)
      (fun status => if status = 0 then known else targets) fun _ => targets := by
  refine .run (hneeds ▸ Set.empty_subset _) (fun status output fact hfact => ?_) ?_
  · split at hfact
    · exact Or.inl hfact
    · obtain ⟨target, rfl⟩ := htargets hfact
      have hfailed : (Event.mk command (.exits status output)).succeeded = false := by
        simpa [Event.succeeded] using ‹¬status = 0›
      exact Or.inr (Or.inr (Or.inr ⟨hfailed, hrequired⟩))
  · exact fun number fact hfact => Or.inr (holds_settled_of_signal (htargets hfact) _ number)

private theorem line_cutting {x : Script V Command ℕ} {targets : Set Fact}
    (h : Secures Holds (Needs closing) true known x
      (fun status => if status = 0 then known else targets) fun _ => targets) :
    Secures Holds (Needs closing) true known (Script.line x) (fun _ => known)
      fun _ => targets :=
  (h.line fun status hstatus => by simp [hstatus]).mono subset_rfl (fun _ => by simp)
    fun _ => subset_rfl

private theorem line_print_off {targets : Set Fact} (htargets : targets ⊆ Set.range Fact.settled) :
    Secures Holds (Needs closing) true known
      (Script.line (Script.run .print) : Script V Command Unit) (fun _ => known)
      fun _ => targets :=
  line_cutting (run_cutting htargets rfl rfl)

private theorem tryBool_off (hknown : settledBefore service ⊆ known) :
    Secures Holds (Needs closing) true known
      (tryBool service false : Script V Command ℕ)
      (whenZero (insert (.settled (.service service)) known)) settledByCut := by
  refine .bind (.tested (serviceAvailable_off hknown)) fun status =>
    .ite (fun h => ?_) fun h => ?_
  · rw [if_pos h]
    exact .orElse (callBool_off hknown) (fun _ _ => .pure fun fact hfact => hfact rfl)
      fun fact hfact => hfact rfl
  · rw [if_neg h]
    exact .bind (line_print_off subset_rfl) fun _ => .pure fun fact hfact => hfact rfl

private theorem orElse_callBool_off (hknown : settledBefore service ⊆ known) :
    Secures Holds (Needs closing) errexit known
      (Script.orElse (callBool service false) (return 0) : Script V Command ℕ)
      (whenZero (insert (.settled (.service service)) known)) settledByCut :=
  .orElse (callBool_off hknown) (fun _ _ => .pure fun _ hfact => hfact rfl)
    fun _ hfact => hfact rfl

private theorem run_alive {component : Component} {lost : Stop → Set Fact}
    (hlost : ∀ number, ∀ fact ∈ lost (.signalled number),
      fact ∈ known ∨ Holds fact ⟨.componentAlive component, .signal number⟩) :
    Secures Holds (Needs closing) errexit known (alive component : Script V Command ℕ)
      (fun _ => known) lost :=
  .run (Set.empty_subset _) (fun _ _ _ h => Or.inl h) hlost

private theorem switchOff_off {component : Component} (hknown : settledBefore service ⊆ known) :
    Secures Holds (Needs closing) true known
      (switchOff component service : Script V Command ℕ)
      (whenZero (insert (.settled (.service service)) known)) settledByCut := by
  refine .bind (.tested (run_alive fun number fact h =>
    Or.inr (holds_settled_of_signal h _ number))) fun status => .ite (fun _ => ?_) fun _ => ?_
  · exact orElse_callBool_off hknown
  · exact tryBool_off hknown

/-- A line that cannot fail passes on what its command has shown. -/
theorem line_whenZero {x : Script V Command ℕ} {shown : Set Fact} {lost : Stop → Set Fact}
    (h : Secures Holds (Needs closing) true known x (whenZero shown) lost) :
    Secures Holds (Needs closing) true known (Script.line x) (fun _ => shown) lost :=
  (h.line fun _ hstatus _ _ hzero => absurd hzero hstatus).mono subset_rfl
    (fun _ _ hfact _ => hfact) fun _ => subset_rfl

private theorem disableRobot_off (hknown : settledBefore .robotEnabled ⊆ known) :
    Secures Holds (Needs closing) true known (disableRobot : Script V Command ℕ)
      (whenZero (insert (.settled (.service .poweredOn))
        (insert (.settled (.service .robotEnabled)) known)))
      settledByCut := by
  have hpower : settledBefore .poweredOn ⊆ insert (.settled (.service .robotEnabled)) known := by
    intro fact hfact
    simp only [settledBefore, Set.mem_insert_iff, Set.mem_singleton_iff] at hfact
    rcases hfact with rfl | rfl | rfl | rfl
    · exact Or.inr (hknown (by simp [settledBefore]))
    · exact Or.inr (hknown (by simp [settledBefore]))
    · exact Or.inr (hknown (by simp [settledBefore]))
    · exact Or.inl rfl
  refine .bind (.tested (run_alive fun number fact h =>
    Or.inr (holds_settled_of_signal h _ number))) fun status => .ite (fun _ => ?_) fun _ => ?_
  · exact .bind (line_whenZero (orElse_callBool_off hknown)) fun _ => orElse_callBool_off hpower
  · exact .bind (line_whenZero (tryBool_off hknown)) fun _ => tryBool_off hpower

private theorem shutdownServices_subset : shutdownServices ⊆ Set.range Fact.settled := by
  intro fact hfact
  simp only [shutdownServices, Set.mem_insert_iff, Set.mem_singleton_iff] at hfact
  rcases hfact with rfl | rfl | rfl | rfl | rfl
  · exact ⟨_, rfl⟩
  · exact ⟨_, rfl⟩
  · exact ⟨_, rfl⟩
  · exact ⟨_, rfl⟩
  · exact ⟨_, rfl⟩

private theorem stopStack_off :
    Secures Holds (Needs closing) true known (stopStack : Script V Command ℕ)
      (fun _ => shutdownServices) fun _ => shutdownServices := by
  have hcut : ∀ (command : Command) (number : ℕ), ∀ fact ∈ shutdownServices,
      fact ∈ shutdownServices ∨ Holds fact ⟨command, .signal number⟩ :=
    fun _ _ _ h => Or.inl h
  refine .bind ((line_whenZero (tryBool_off (Set.empty_subset known))).mono subset_rfl
    (fun _ => subset_rfl) fun _ => shutdownServices_subset) fun _ => ?_
  refine .bind ((line_whenZero (switchOff_off ?_)).mono subset_rfl
    (fun _ => subset_rfl) fun _ => shutdownServices_subset) fun _ => ?_
  · simp [settledBefore]
  refine .bind ((line_whenZero (switchOff_off ?_)).mono subset_rfl
    (fun _ => subset_rfl) fun _ => shutdownServices_subset) fun _ => ?_
  · simp [settledBefore, Set.insert_subset_iff]
  refine .bind (G := fun _ => shutdownServices) ((line_whenZero (disableRobot_off ?_)).mono
    subset_rfl (fun _ => ?_) fun _ => shutdownServices_subset) fun _ => ?_
  · simp [settledBefore, Set.insert_subset_iff]
  · simp [shutdownServices, Set.insert_subset_iff]
  refine .bind (.line (run_keeps rfl (hcut _)) fun _ _ => subset_rfl) fun _ => ?_
  refine .bind (.line (run_keeps rfl (hcut _)) fun _ _ => subset_rfl) fun _ => ?_
  exact run_keeps rfl (hcut _)

private theorem stackScript_stop_off :
    Secures Holds (Needs closing) true known (stackScript .stop)
      (fun _ => shutdownServices) fun _ => shutdownServices :=
  .bind (line_cutting (run_cutting shutdownServices_subset rfl rfl)) fun _ => stopStack_off

def shutdownTargets : Set Fact :=
  insert (.settled (.process .policyServer))
    (insert (.settled (.process .policyClient)) shutdownServices)

private theorem shutdownTargets_subset : shutdownTargets ⊆ Set.range Fact.settled := by
  rintro fact (rfl | rfl | hfact)
  · exact ⟨_, rfl⟩
  · exact ⟨_, rfl⟩
  · exact shutdownServices_subset hfact

private theorem stack_stop_off :
    Secures Holds (Needs closing) errexit known (stack .stop : Script V Command ℕ)
      (fun _ => shutdownServices) fun _ => shutdownTargets :=
  .child stackScript_stop_off rfl (fun _ => subset_rfl) (fun _ => subset_rfl)
    fun number _ hfact => holds_settled_of_signal (shutdownTargets_subset hfact) _ number

private theorem emitLauncherEvent_off (event : StopSource → String) :
    Secures Holds (Needs closing) errexit known (emitLauncherEvent event)
      (fun status => if status = 0 then known else shutdownTargets)
      fun _ => shutdownTargets :=
  .withVariables fun _ => run_cutting shutdownTargets_subset rfl rfl

/-- The targets a stopped process adds. -/
theorem line_stopProcess_off {process : Process} {lost : Set Fact}
    (hneeds : settledBeforeStop process ⊆ known) (hlost : lost ⊆ Set.range Fact.settled)
    (hfailed : ∀ status output, status ≠ 0 → ∀ fact ∈ lost,
      fact ∈ insert (.settled (.process process)) known ∨
        Holds fact ⟨.stopProcess process, .exits status output⟩) :
    Secures Holds (Needs closing) true known
      (Script.line (Script.run (.stopProcess process)) : Script V Command Unit)
      (fun _ => insert (.settled (.process process)) known) fun _ => lost := by
  have hended : ∀ reply, Holds (.settled (.process process)) ⟨.stopProcess process, reply⟩ :=
    fun _ => Or.inl rfl
  have hrun : Secures Holds (Needs closing) true known
      (Script.run (.stopProcess process) : Script V Command ℕ)
      (fun status => if status = 0 then insert (.settled (.process process)) known else lost)
      fun _ => lost := by
    refine .run hneeds (fun status output fact hfact => ?_) fun number fact hfact =>
      Or.inr (holds_settled_of_signal (hlost hfact) _ number)
    split at hfact
    · rcases hfact with rfl | hfact
      · exact Or.inr (hended _)
      · exact Or.inl hfact
    · rcases hfailed status output ‹_› fact hfact with (rfl | hknown) | hholds
      · exact Or.inr (hended _)
      · exact Or.inl hknown
      · exact Or.inr hholds
  exact (hrun.line fun status hstatus => by simp [hstatus]).mono subset_rfl (fun _ => by simp)
    fun _ => subset_rfl

/-- Every end of the trap has settled every target. -/
theorem cleanup_off (exitCode : ℕ) :
    Secures Holds (Needs closing) true known (cleanup exitCode)
      (fun _ => shutdownTargets) fun _ => shutdownTargets := by
  refine .bind (line_print_off shutdownTargets_subset) fun _ => ?_
  refine .bind (line_cutting (emitLauncherEvent_off _)) fun _ => ?_
  refine .bind (line_print_off shutdownTargets_subset) fun _ => ?_
  have hstop : Secures Holds (Needs closing) true known
      (Script.orElse (stack .stop) (return 0) : Script StopSource Command ℕ)
      (whenZero shutdownServices) fun _ => shutdownTargets :=
    .orElse stack_stop_off (fun _ _ => .pure fun _ h => h rfl) fun _ h => h rfl
  refine .bind (line_whenZero hstop) fun _ => ?_
  refine .bind (line_stopProcess_off subset_rfl shutdownTargets_subset ?_) fun _ => ?_
  · intro status output hstatus fact hfact
    obtain ⟨target, rfl⟩ := shutdownTargets_subset hfact
    refine Or.inr (Or.inr (Or.inr ⟨?_, rfl⟩))
    simpa [Event.succeeded] using hstatus
  refine .bind (line_stopProcess_off subset_rfl shutdownTargets_subset
    fun _ _ _ _ h => Or.inl h) fun _ => ?_
  refine .bind (.line (.orElse (run_keeps rfl fun _ _ h => Or.inl h)
    (fun _ _ => .pure subset_rfl) subset_rfl) fun _ _ => subset_rfl) fun _ => ?_
  refine .bind (line_print_off shutdownTargets_subset) fun _ => ?_
  exact .exit subset_rfl

end Off

/-! ## Switching on -/

/-- The facts at the end of a command that has succeeded. -/
def onlyZero (shown : Set Fact) (status : ℕ) : Set Fact := {fact | status = 0 ∧ fact ∈ shown}

/-- Where a script ends with a failure nothing is promised. -/
structure Failing (lost : Stop → Set Fact) : Prop where
  signalled : ∀ number, lost (.signalled number) = ∅
  exited : ∀ status, status ≠ 0 → lost (.exited status) = ∅

/-- An action of the stack never exits with status zero before its end. -/
def unlessFailed (stop : Stop) : Set Fact := {_fact | stop.status = 0}

theorem failing_unlessFailed : Failing unlessFailed where
  signalled number := by simp [unlessFailed, Stop.status]
  exited status hstatus := by simp [unlessFailed, Stop.status, hstatus]

section On

variable {V : Type} {errexit : Bool} {known shown : Set Fact} {lost : Stop → Set Fact}

/-- A command is issued and shows, if it succeeds, the given facts. -/
theorem run_shows {command : Command} (hlost : Failing lost)
    (hneeds : Needs false command ⊆ known)
    (hshown : ∀ fact ∈ shown, fact ∈ known ∨ ∀ output, Holds fact ⟨command, .exits 0 output⟩) :
    Secures Holds (Needs false) errexit known (Script.run command : Script V Command ℕ)
      (fun status => if status = 0 then shown else known) lost := by
  refine .run hneeds (fun status output fact hfact => ?_) fun number fact hfact => ?_
  · split at hfact
    · subst status
      exact (hshown fact hfact).imp_right fun h => h output
    · exact Or.inl hfact
  · rw [hlost.signalled] at hfact
    exact hfact.elim

theorem line_shows {x : Script V Command ℕ} (hlost : Failing lost)
    (h : Secures Holds (Needs false) true known x (onlyZero shown) lost) :
    Secures Holds (Needs false) true known (Script.line x) (fun _ => shown) lost :=
  (h.line fun status hstatus => by rw [hlost.exited status hstatus]; exact Set.empty_subset _).mono
    subset_rfl (fun _ _ hfact => ⟨rfl, hfact⟩) fun _ => subset_rfl

private theorem run_ends {command : Command} (hlost : Failing lost)
    (hneeds : Needs false command ⊆ known)
    (hshown : ∀ fact ∈ shown, fact ∈ known ∨ ∀ output, Holds fact ⟨command, .exits 0 output⟩) :
    Secures Holds (Needs false) errexit known (Script.run command : Script V Command ℕ)
      (onlyZero shown) lost :=
  (run_shows hlost hneeds hshown).mono subset_rfl
    (fun status fact h => by rw [if_pos h.1]; exact h.2) fun _ => subset_rfl

theorem line_run_keeps {command : Command} (hlost : Failing lost)
    (hneeds : Needs false command = ∅) :
    Secures Holds (Needs false) true known
      (Script.line (Script.run command) : Script V Command Unit) (fun _ => known) lost :=
  line_shows hlost (run_ends hlost (hneeds ▸ Set.empty_subset _) fun _ h => Or.inl h)

private theorem callBool_on {service : Service} (hlost : Failing lost)
    (hneeds : switchOnNeeds service ⊆ known)
    (hshown : ∀ fact ∈ shown, fact ∈ known ∨
      ∀ output, reportsSuccess output = true →
        Holds fact ⟨.callService service true, .exits 0 output⟩) :
    Secures Holds (Needs false) errexit known
      (callBool service true : Script V Command ℕ) (onlyZero shown) lost := by
  refine .bind (.capture (G := fun reply =>
    if reply.1 = 0 ∧ reportsSuccess reply.2 = true then shown else known) hneeds ?_ ?_) ?_
  · intro status output fact hfact
    split at hfact
    · obtain ⟨rfl, hsuccess⟩ := ‹_ ∧ _›
      exact (hshown fact hfact).imp_right fun h => h output hsuccess
    · exact Or.inl hfact
  · intro number fact hfact
    rw [hlost.signalled] at hfact
    exact hfact.elim
  · rintro ⟨status, output⟩
    refine .ite (fun h => .pure ?_) fun h => .pure ?_
    · rw [if_pos h]
      exact fun _ hfact => hfact.2
    · exact fun _ hfact => absurd hfact.1 Nat.one_ne_zero

private theorem line_callBool {service : Service} (hlost : Failing lost)
    (hneeds : switchOnNeeds service ⊆ known) :
    Secures Holds (Needs false) true known
      (Script.line (callBool service true) : Script V Command Unit) (fun _ => known) lost :=
  line_shows hlost (callBool_on hlost hneeds fun _ h => Or.inl h)

theorem confirms_of_subset {topic : StatusTopic} {timeout : ℕ} {fields contains : List String}
    (h : fields ⊆ contains) (output : Text) :
    Confirms topic fields ⟨.waitString topic timeout contains, .exits 0 output⟩ :=
  ⟨timeout, contains, rfl, rfl, fun _ hfield => h hfield⟩

theorem shows_insert (fact : Fact) {command : Command}
    (h : ∀ output, Holds fact ⟨command, .exits 0 output⟩) :
    ∀ g ∈ insert fact known, g ∈ known ∨ ∀ output, Holds g ⟨command, .exits 0 output⟩ := by
  rintro g (rfl | hg)
  · exact Or.inr h
  · exact Or.inl hg

private theorem powerOn_on (hlost : Failing lost) (harm : .armTyped ∈ known) :
    Secures Holds (Needs false) true known (powerOn : Script V Command ℕ)
      (onlyZero (insert .powered known)) lost := by
  refine .bind (line_callBool hlost (Set.singleton_subset_iff.mpr harm)) fun _ => ?_
  exact run_ends hlost (Set.empty_subset _) (shows_insert _ fun output =>
    confirms_of_subset (by simp [errorFree]) output)

/-- A state that is confirmed, or else brought about. -/
theorem ifConfirmed_on {timeout : ℕ} {contains : List String} {x : Script V Command ℕ}
    {fact : Fact} (hlost : Failing lost)
    (hfact : ∀ output, Holds fact
      ⟨.waitString .safetyStatus timeout contains, .exits 0 output⟩)
    (hx : Secures Holds (Needs false) true known x (onlyZero (insert fact known)) lost) :
    Secures Holds (Needs false) true known (Script.orElse (waitStatus timeout contains) x)
      (onlyZero (insert fact known)) lost := by
  refine .orElse (run_shows hlost (Set.empty_subset _) (shows_insert fact hfact))
    (fun status hstatus => ?_) ?_
  · rw [if_neg hstatus]
    exact hx
  · rw [if_pos rfl]
    exact fun _ h => h.2

private theorem enableRobot_on (hlost : Failing lost) (harm : .armTyped ∈ known) :
    Secures Holds (Needs false) true known (enableRobot : Script V Command ℕ)
      (onlyZero (insert .enabled known)) lost := by
  refine .bind (G := fun _ => insert .powered known) (line_shows hlost (ifConfirmed_on hlost ?_
    (powerOn_on hlost harm))) fun _ => ?_
  · exact fun output => confirms_of_subset (by simp [errorFree]) output
  refine .bind (line_callBool hlost ?_) fun _ => run_ends hlost (Set.empty_subset _) ?_
  · simp [switchOnNeeds, Set.insert_subset_iff, harm]
  · rintro fact (rfl | hfact)
    · exact Or.inr fun output => confirms_of_subset (by simp [errorFree]) output
    · exact Or.inl (Or.inr hfact)

private theorem openGripper_on (hlost : Failing lost) (harm : .armTyped ∈ known)
    (henabled : .enabled ∈ known) :
    Secures Holds (Needs false) true known (openGripper : Script V Command ℕ)
      (onlyZero known) lost := by
  refine .bind (G := fun _ => insert .gripperOn known) (line_shows hlost (callBool_on hlost ?_ ?_))
    fun _ => ?_
  · simp [switchOnNeeds, Set.insert_subset_iff, harm, henabled]
  · rintro fact (rfl | hfact)
    · exact Or.inr fun output hsuccess => ⟨output, rfl, hsuccess⟩
    · exact Or.inl hfact
  · refine .bind (line_callBool hlost ?_) fun _ => ?_
    · simp [switchOnNeeds, Set.insert_subset_iff, harm]
    · exact run_ends hlost (Set.empty_subset _) fun _ h => Or.inl (Or.inr h)

theorem prepareStack_on (hlost : Failing lost) (harm : .armTyped ∈ known) :
    Secures Holds (Needs false) true known (prepareStack : Script V Command ℕ)
      (onlyZero (insert .enabled known)) lost := by
  refine .bind (G := fun _ => insert .enabled known) (line_shows hlost (ifConfirmed_on hlost ?_
    (enableRobot_on hlost harm))) fun _ => openGripper_on hlost (Or.inr harm) (Or.inl rfl)
  exact fun output => confirms_of_subset (by simp [errorFree]) output

theorem enterServo_on (hlost : Failing lost) (harm : .armTyped ∈ known)
    (hchunk : .firstChunk ∈ known) :
    Secures Holds (Needs false) true known (enterServo : Script V Command ℕ)
      (onlyZero (insert .servo known)) lost := by
  refine .bind (line_run_keeps hlost rfl) fun _ => ?_
  refine .bind (G := fun _ => insert .powered (insert .enabled known))
    (line_shows hlost (run_ends hlost (Set.empty_subset _) ?_)) fun _ => ?_
  · rintro fact (rfl | rfl | hfact)
    · exact Or.inr fun output => confirms_of_subset (by simp [errorFree]) output
    · exact Or.inr fun output => confirms_of_subset (by simp [errorFree]) output
    · exact Or.inl hfact
  · refine .bind (line_callBool hlost ?_) fun _ => ?_
    · simp [switchOnNeeds, Set.insert_subset_iff, harm, hchunk]
    · refine run_ends hlost (Set.empty_subset _) ?_
      rintro fact (rfl | hfact)
      · exact Or.inr fun output => confirms_of_subset (by simp [errorFree]) output
      · exact Or.inl (Or.inr (Or.inr hfact))

theorem enablePolicy_on (hlost : Failing lost) (hmove : .moveTyped ∈ known)
    (hservo : .servo ∈ known) :
    Secures Holds (Needs false) true known (RobotStack.enablePolicy : Script V Command ℕ)
      (onlyZero known) lost :=
  callBool_on hlost (by simp [switchOnNeeds, Set.insert_subset_iff, hmove, hservo])
    fun _ h => Or.inl h

theorem keeps_on {command : Command} (hlost : Failing lost)
    (hneeds : Needs false command = ∅) :
    Secures Holds (Needs false) errexit known (Script.run command : Script V Command ℕ)
      (fun _ => known) lost :=
  run_keeps hneeds fun number fact hfact => by
    rw [hlost.signalled] at hfact
    exact hfact.elim

theorem capture_on {command : Command} (hlost : Failing lost)
    (hneeds : Needs false command = ∅) :
    Secures Holds (Needs false) errexit known
      (Script.capture command : Script V Command (ℕ × Text)) (fun _ => known) lost :=
  .capture (hneeds ▸ Set.empty_subset _) (fun _ _ _ h => Or.inl h) fun number fact hfact => by
    rw [hlost.signalled] at hfact
    exact hfact.elim

private theorem preflight_on (hlost : Failing lost) :
    Secures Holds (Needs false) errexit known (preflight : Script V Command ℕ)
      (fun _ => known) lost := by
  refine .bind (.tested (keeps_on hlost rfl)) fun _ => .ite (fun _ => .pure subset_rfl) fun _ => ?_
  refine .bind (.tested (keeps_on hlost rfl)) fun _ => .ite (fun _ => .pure subset_rfl) fun _ => ?_
  refine .bind (.tested (keeps_on hlost rfl)) fun _ => .ite (fun _ => .pure subset_rfl) fun _ => ?_
  refine .bind (capture_on hlost rfl) fun _ => .ite (fun _ => .pure subset_rfl) fun _ => ?_
  refine .bind (capture_on hlost rfl) fun _ => .ite (fun _ => .pure subset_rfl) fun _ => ?_
  exact .pure subset_rfl

private theorem requireAlive_on {component : Component} (hlost : Failing lost) :
    Secures Holds (Needs false) errexit known
      (requireAlive component : Script V Command ℕ) (fun _ => known) lost :=
  .bind (.tested (keeps_on hlost rfl)) fun _ =>
    .ite (fun _ => .pure subset_rfl) fun _ => .pure subset_rfl

private theorem observationChecks_on (hlost : Failing lost) :
    Secures Holds (Needs false) false known
      (Script.lines (observationChecks ++ [Script.run .checkCameraFps]) : Script V Command ℕ)
      (fun status => if status = 0 then insert .camerasChecked known else known) lost := by
  refine .lines_ignored (fun x hx => ?_)
    (run_shows hlost (Set.empty_subset _) (shows_insert _ fun _ => ⟨rfl, rfl⟩))
  simp only [observationChecks, List.mem_cons, List.not_mem_nil, or_false] at hx
  rcases hx with rfl | rfl | rfl | rfl | rfl | rfl | rfl | rfl
  · exact keeps_on hlost rfl
  · exact requireAlive_on hlost
  · exact requireAlive_on hlost
  · exact requireAlive_on hlost
  · exact keeps_on hlost rfl
  · exact keeps_on hlost rfl
  · exact keeps_on hlost rfl
  · exact keeps_on hlost rfl

theorem startStack_on (hlost : Failing lost) :
    Secures Holds (Needs false) true known (startStack : Script V Command ℕ)
      (onlyZero (insert .camerasChecked known)) lost := by
  have halive : ∀ (component : Component) (errexit : Bool),
      Secures Holds (Needs false) errexit known (alive component : Script V Command ℕ)
        (fun _ => known) lost := fun _ _ => keeps_on hlost rfl
  refine .bind (.tested (.orElse (.orElse (halive .arm _) (fun _ _ => halive .gripper _)
    subset_rfl) (fun _ _ => halive .cameras _) subset_rfl)) fun running => ?_
  refine .ite (fun _ => .exit ?_) fun _ => ?_
  · rw [hlost.exited 3 (by decide)]
    exact Set.empty_subset _
  refine .bind (.line (preflight_on hlost) fun status h => ?_) fun _ => ?_
  · rw [hlost.exited status h]
    exact Set.empty_subset _
  refine .bind (line_run_keeps hlost rfl) fun _ => ?_
  refine .bind (line_run_keeps hlost rfl) fun _ => ?_
  refine .bind (line_run_keeps hlost rfl) fun _ => ?_
  refine .bind (.tested (observationChecks_on hlost)) fun status => .ite (fun h => ?_) fun h => ?_
  · rw [if_pos h]
    exact .pure fun _ hfact => hfact.2
  · rw [if_neg h]
    refine .bind (line_run_keeps hlost rfl) fun _ => ?_
    refine .bind (line_run_keeps hlost rfl) fun _ => ?_
    refine .bind (line_run_keeps hlost rfl) fun _ => ?_
    exact .pure fun _ hfact => absurd hfact.1 Nat.one_ne_zero

/-- The camera check alone decides a start that comes to its end: whatever the other lines of
the tested block reply, the start succeeds if the check does, and else the three components
are stopped again. -/
theorem startStack_decided {v v' : V} {events : List (Event Command)} {status : ℕ}
    (h : (startStack : Script V Command ℕ).Run true v events (some (.ok status, v'))) :
    ∃ before checked output after,
      events = before ++ ⟨.checkCameraFps, .exits checked output⟩ :: after ∧
        (checked = 0 → status = 0 ∧ after = []) ∧
        (checked ≠ 0 → status = 1 ∧ after.map Event.command =
          [.stopComponent .gripper, .stopComponent .arm, .stopComponent .cameras]) := by
  obtain ⟨running, w, first, rest, rfl, _, hstart⟩ := exists_run_of_bind h
  split at hstart
  · cases (Dialogue.run_done_iff.mp hstart).2
  obtain ⟨_, w₁, second, rest₁, rfl, _, hcameras⟩ := exists_run_of_bind hstart
  obtain ⟨_, w₂, third, rest₂, rfl, _, harm⟩ := exists_run_of_bind hcameras
  obtain ⟨_, w₃, fourth, rest₃, rfl, _, hgripper⟩ := exists_run_of_bind harm
  obtain ⟨_, w₄, fifth, rest₄, rfl, _, hchecks⟩ := exists_run_of_bind hgripper
  obtain ⟨checked, w₅, block, after, rfl, hblock, hend⟩ := exists_run_of_bind hchecks
  obtain ⟨checks, last, w₆, rfl, hlast⟩ := exists_run_last hblock
  obtain ⟨output, rfl⟩ := eq_of_run_run hlast
  refine ⟨first ++ (second ++ (third ++ (fourth ++ (fifth ++ checks)))), checked, output, after,
    by simp, fun hzero => ?_, fun hne => ?_⟩
  · rw [if_pos hzero] at hend
    exact (eq_of_run_pure hend).symm
  · rw [if_neg hne] at hend
    obtain ⟨_, u, events₁, rest₅, rfl, hstop, hrest⟩ := exists_run_of_bind hend
    obtain ⟨_, u₁, events₂, rest₆, rfl, hstop₁, hrest₁⟩ := exists_run_of_bind hrest
    obtain ⟨_, u₂, events₃, rest₇, rfl, hstop₂, hrest₂⟩ := exists_run_of_bind hrest₁
    obtain ⟨rfl, rfl⟩ := eq_of_run_pure hrest₂
    exact ⟨rfl, by simp [command_of_run_line hstop, command_of_run_line hstop₁,
      command_of_run_line hstop₂]⟩

/-- A start during which the arm has died and no service has appeared. -/
def deadArmReplies : List Reply :=
  List.replicate 3 (.exits 1 []) ++ List.replicate 10 (.exits 0 []) ++
    [.exits 1 [], .exits 0 []] ++ List.replicate 4 (.exits 1 []) ++ [.exits 0 []]

/-- It is reported as a success. -/
theorem startStack_without_arm :
    ∃ before output, ((startStack : Script Unit Command ℕ) true ()).play deadArmReplies =
      (before ++ [⟨.checkCameraFps, .exits 0 output⟩], some (.ok 0, ())) := by
  have hplay : (((startStack : Script Unit Command ℕ) true ()).play deadArmReplies).2 =
      some (.ok 0, ()) := rfl
  obtain ⟨before, checked, output, after, hevents, hzero, hne⟩ :=
    startStack_decided (hplay ▸ Dialogue.run_play _ deadArmReplies)
  by_cases hchecked : checked = 0
  · obtain ⟨-, rfl⟩ := hzero hchecked
    exact ⟨before, output, Prod.ext (hchecked ▸ hevents) hplay⟩
  · exact absurd (hne hchecked).1 (by decide)

/-- An action brings its facts to the script that runs it. -/
theorem stack_on {action : Action} (hlost : Failing lost)
    (h : Secures Holds (Needs false) true known (action.body : Script Unit Command ℕ)
      (onlyZero shown) unlessFailed) :
    Secures Holds (Needs false) errexit known (stack action : Script V Command ℕ)
      (onlyZero shown) lost := by
  refine .child (.bind (line_run_keeps failing_unlessFailed rfl) fun _ => h) rfl
    (fun _ => subset_rfl) (fun stop fact hfact => hfact.1) fun number fact hfact => ?_
  rw [hlost.signalled] at hfact
  exact hfact.elim

theorem line_stack {action : Action} (hlost : Failing lost)
    (h : Secures Holds (Needs false) true known (action.body : Script Unit Command ℕ)
      (onlyZero shown) unlessFailed) :
    Secures Holds (Needs false) true known
      (Script.line (stack action) : Script V Command Unit) (fun _ => shown) lost :=
  line_shows hlost (stack_on hlost h)

end On

end SmolVlaQgf.LauncherStages
