import Mathlib.Data.List.Basic
import Mathlib.Data.List.Chain
import Mathlib.Data.List.Forall2
import Mathlib.Data.List.Induction
import Mathlib.Data.Set.Basic

/-!
# Shell scripts

A script issues commands and goes on by their replies. It runs with `set -e` in force or in
a place where that is ignored, over its own variables, and may start other scripts and trap
its own end. Every initial part of an exchange with the outside is a run, so what holds of
all runs holds at every moment. The last section is a rule of sequencing: which commands a
script issues only after certain facts have been seen.
-/

namespace SmolVlaQgf.ShellScripts

/-- How a command comes back: with a status and its output, or because a signal came in. -/
inductive Reply where
  | exits (status : ℕ) (output : List Char)
  | signal (number : ℕ)
  deriving DecidableEq

structure Event (C : Type) where
  command : C
  reply : Reply
  deriving DecidableEq

/-- The command came back with status zero. -/
def Event.succeeded {C : Type} (event : Event C) : Bool :=
  match event.reply with
  | .exits status _ => status = 0
  | .signal _ => false

def Event.interrupted {C : Type} (event : Event C) : Bool :=
  match event.reply with
  | .exits _ _ => false
  | .signal _ => true

/-! ## Dialogues -/

/-- A result, or a command with what follows on each reply; a dialogue is suspended where a
loop is not followed further. -/
inductive Dialogue (C α : Type) where
  | done (a : α)
  | suspended
  | issue (command : C) (next : Reply → Dialogue C α)

namespace Dialogue

variable {C α β : Type}

def bind : Dialogue C α → (α → Dialogue C β) → Dialogue C β
  | done a, f => f a
  | suspended, _ => suspended
  | issue command next, f => issue command fun reply => (next reply).bind f

/-- The runs of a dialogue; the result is missing while it goes on. -/
inductive Run : Dialogue C α → List (Event C) → Option α → Prop where
  | done (a : α) : Run (.done a) [] (some a)
  | suspended : Run .suspended [] none
  | waiting (command : C) (next : Reply → Dialogue C α) : Run (.issue command next) [] none
  | replied {command : C} {next : Reply → Dialogue C α} {events : List (Event C)}
      {result : Option α} (reply : Reply) (rest : Run (next reply) events result) :
      Run (.issue command next) (⟨command, reply⟩ :: events) result

def play : Dialogue C α → List Reply → List (Event C) × Option α
  | done a, _ => ([], some a)
  | suspended, _ => ([], none)
  | issue _ _, [] => ([], none)
  | issue command next, reply :: replies =>
      (⟨command, reply⟩ :: ((next reply).play replies).1, ((next reply).play replies).2)

theorem run_play (dialogue : Dialogue C α) (replies : List Reply) :
    Run dialogue (dialogue.play replies).1 (dialogue.play replies).2 := by
  induction dialogue generalizing replies with
  | done a => exact .done a
  | suspended => exact .suspended
  | issue command next ih =>
    cases replies with
    | nil => exact .waiting command next
    | cons reply replies => exact .replied reply (ih reply replies)

theorem run_done_iff {a : α} {events : List (Event C)} {result : Option α} :
    Run (.done a) events result ↔ events = [] ∧ result = some a := by
  constructor
  · intro h
    cases h
    exact ⟨rfl, rfl⟩
  · intro h
    obtain ⟨rfl, rfl⟩ := h
    exact .done a

theorem run_issue_iff {command : C} {next : Reply → Dialogue C α} {events : List (Event C)}
    {result : Option α} :
    Run (.issue command next) events result ↔
      (events = [] ∧ result = none) ∨
        ∃ reply rest, events = ⟨command, reply⟩ :: rest ∧ Run (next reply) rest result := by
  constructor
  · intro h
    cases h with
    | waiting => exact Or.inl ⟨rfl, rfl⟩
    | replied reply rest => exact Or.inr ⟨reply, _, rfl, rest⟩
  · intro h
    rcases h with ⟨rfl, rfl⟩ | ⟨reply, rest, rfl, h⟩
    · exact .waiting command next
    · exact .replied reply h

/-- A run of two dialogues in a row stops in the first, or completes it first. -/
theorem run_bind_iff {dialogue : Dialogue C α} {f : α → Dialogue C β}
    {events : List (Event C)} {result : Option β} :
    Run (dialogue.bind f) events result ↔
      (Run dialogue events none ∧ result = none) ∨
        ∃ a first second, events = first ++ second ∧ Run dialogue first (some a) ∧
          Run (f a) second result := by
  induction dialogue generalizing events with
  | done a =>
    constructor
    · intro h
      exact Or.inr ⟨a, [], events, rfl, .done a, h⟩
    · intro h
      rcases h with ⟨h, rfl⟩ | ⟨b, first, second, rfl, hfirst, hsecond⟩
      · cases h
      · cases hfirst
        exact hsecond
  | suspended =>
    constructor
    · intro h
      cases h
      exact Or.inl ⟨.suspended, rfl⟩
    · intro h
      rcases h with ⟨h, rfl⟩ | ⟨b, first, second, rfl, hfirst, hsecond⟩
      · cases h
        exact .suspended
      · cases hfirst
  | issue command next ih =>
    simp only [bind, run_issue_iff, ih]
    constructor
    · intro h
      rcases h with ⟨rfl, rfl⟩ | ⟨reply, rest, rfl, h⟩
      · exact Or.inl ⟨Or.inl ⟨rfl, trivial⟩, rfl⟩
      · rcases h with ⟨h, rfl⟩ | ⟨a, first, second, rfl, hfirst, hsecond⟩
        · exact Or.inl ⟨Or.inr ⟨reply, rest, rfl, h⟩, rfl⟩
        · exact Or.inr ⟨a, ⟨command, reply⟩ :: first, second, rfl,
            Or.inr ⟨reply, first, rfl, hfirst⟩, hsecond⟩
    · intro h
      rcases h with ⟨⟨rfl, _⟩ | ⟨reply, rest, rfl, h⟩, rfl⟩ |
        ⟨a, first, second, rfl, ⟨_, hfirst⟩ | ⟨reply, rest, rfl, hfirst⟩, hsecond⟩
      · exact Or.inl ⟨rfl, rfl⟩
      · exact Or.inr ⟨reply, rest, rfl, Or.inl ⟨h, rfl⟩⟩
      · cases hfirst
      · exact Or.inr ⟨reply, rest ++ second, rfl, Or.inr ⟨a, rest, second, rfl, hfirst, hsecond⟩⟩

end Dialogue

/-! ## Scripts -/

/-- How a script ends before its last command. -/
inductive Stop where
  | exited (status : ℕ)
  | signalled (number : ℕ)
  deriving DecidableEq

def Stop.status : Stop → ℕ
  | exited status => status
  | signalled number => 128 + number

/-- A piece of a script with variables `V`; the first argument tells whether a failing
command ends the script. -/
def Script (V C α : Type) : Type := Bool → V → Dialogue C (Except Stop α × V)

namespace Script

variable {V C α β : Type}

protected def pure (a : α) : Script V C α := fun _ v => .done (.ok a, v)

protected def bind (x : Script V C α) (f : α → Script V C β) : Script V C β := fun errexit v =>
  (x errexit v).bind fun
    | (.ok a, v) => f a errexit v
    | (.error stop, v) => .done (.error stop, v)

instance : Monad (Script V C) where
  pure := Script.pure
  bind := Script.bind

def capture (command : C) : Script V C (ℕ × List Char) := fun _ v =>
  .issue command fun
    | .exits status output => .done (.ok (status, output), v)
    | .signal number => .done (.error (.signalled number), v)

def run (command : C) : Script V C ℕ := do
  let (status, _) ← capture command
  return status

def exit (status : ℕ) : Script V C α := fun _ v => .done (.error (.exited status), v)

/-- The rest of a loop that is not followed further. -/
def suspended : Script V C α := fun _ _ => .suspended

def assign (f : V → V) : Script V C Unit := fun _ v => .done (.ok (), f v)

def withVariables (x : V → Script V C α) : Script V C α := fun errexit v => x v errexit v

/-- Tested by `if`, `!`, `&&` or `||`: a failure in it does not end the script. -/
def tested (x : Script V C α) : Script V C α := fun _ v => x false v

/-- Where `set -e` is in force a failure ends the script. -/
def check (status : ℕ) : Script V C Unit := fun errexit v =>
  if errexit = true ∧ status ≠ 0 then .done (.error (.exited status), v) else .done (.ok (), v)

def line (x : Script V C ℕ) : Script V C Unit := do check (← x)

/-- Lines of commands; their status is that of the last one. -/
def lines : List (Script V C ℕ) → Script V C ℕ
  | [] => pure 0
  | [x] => x
  | x :: xs => do
      line x
      lines xs

/-- `x || y` -/
def orElse (x y : Script V C ℕ) : Script V C ℕ := do
  let status ← tested x
  if status = 0 then return 0 else y

/-- Another script, run by its own shell; `wait` is the waiting for it. -/
def child (wait : C) (x : Script Unit C ℕ) : Script V C ℕ := fun errexit v =>
  (x true ()).bind fun (result, ()) =>
    (do
      let _ ← run wait
      return match result with
        | .ok status => status
        | .error stop => stop.status : Script V C ℕ) errexit v

/-- A trapped signal runs its handler, which a further signal cuts short, and then `atExit`;
another signal kills the script. So many signals are followed. -/
def afterSignal (onSignal : ℕ → Option (Script V C Unit)) (atExit : ℕ → Script V C ℕ) :
    ℕ → ℕ → Script V C ℕ
  | 0, _ => suspended
  | signals + 1, number =>
      match onSignal number with
      | none => fun _ v => .done (.error (.signalled number), v)
      | some handler => fun errexit v => (handler errexit v).bind fun
          | (.ok (), v) => atExit (128 + number) errexit v
          | (.error (.exited status), v) => atExit status errexit v
          | (.error (.signalled further), v) =>
              afterSignal onSignal atExit signals further errexit v

/-- A script with traps: every end runs `atExit` with the status, unless a signal without a
handler kills it. -/
def trapExit (signals : ℕ) (onSignal : ℕ → Option (Script V C Unit))
    (atExit : ℕ → Script V C ℕ) (x : Script V C ℕ) : Script V C ℕ := fun errexit v =>
  (x errexit v).bind fun
    | (.ok status, v) => atExit status errexit v
    | (.error (.exited status), v) => atExit status errexit v
    | (.error (.signalled number), v) => afterSignal onSignal atExit signals number errexit v

/-- A run of a piece of a script from given variables. -/
def Run (x : Script V C α) (errexit : Bool) (v : V) (events : List (Event C))
    (result : Option (Except Stop α × V)) : Prop := (x errexit v).Run events result

/-- What a run of a continuation adds to a run that has come to a result. -/
theorem run_bind_iff {x : Script V C α} {f : α → Script V C β} {errexit : Bool} {v : V}
    {events : List (Event C)} {result : Option (Except Stop β × V)} :
    Run (x >>= f) errexit v events result ↔
      (Run x errexit v events none ∧ result = none) ∨
      (∃ stop v', Run x errexit v events (some (.error stop, v')) ∧
        result = some (.error stop, v')) ∨
      ∃ a v' first second, events = first ++ second ∧
        Run x errexit v first (some (.ok a, v')) ∧ Run (f a) errexit v' second result := by
  change (Dialogue.Run (Dialogue.bind _ _) _ _) ↔ _
  rw [Dialogue.run_bind_iff]
  constructor
  · intro h
    rcases h with h | ⟨⟨stop | a, v'⟩, first, second, rfl, hfirst, hsecond⟩
    · exact Or.inl h
    · cases hsecond
      exact Or.inr (Or.inl ⟨stop, v', (List.append_nil first).symm ▸ hfirst, rfl⟩)
    · exact Or.inr (Or.inr ⟨a, v', first, second, rfl, hfirst, hsecond⟩)
  · intro h
    rcases h with h | ⟨stop, v', hrun, rfl⟩ | ⟨a, v', first, second, rfl, hfirst, hsecond⟩
    · exact Or.inl h
    · exact Or.inr ⟨(.error stop, v'), events, [], by simp, hrun, .done _⟩
    · exact Or.inr ⟨(.ok a, v'), first, second, rfl, hfirst, hsecond⟩

theorem exists_run_of_bind {x : Script V C α} {f : α → Script V C β} {errexit : Bool} {v v' : V}
    {events : List (Event C)} {b : β}
    (h : (x >>= f).Run errexit v events (some (.ok b, v'))) :
    ∃ a w first second, events = first ++ second ∧ x.Run errexit v first (some (.ok a, w)) ∧
      (f a).Run errexit w second (some (.ok b, v')) := by
  rcases run_bind_iff.mp h with ⟨_, hnone⟩ | ⟨stop, u, _, hstop⟩ | h
  · cases hnone
  · cases hstop
  · exact h

theorem eq_of_run_pure {errexit : Bool} {v v' : V} {events : List (Event C)} {a b : α}
    (h : (pure a : Script V C α).Run errexit v events (some (.ok b, v'))) :
    events = [] ∧ b = a := by
  obtain ⟨hevents, hresult⟩ := Dialogue.run_done_iff.mp h
  cases hresult
  exact ⟨hevents, rfl⟩

theorem eq_of_run_capture {command : C} {errexit : Bool} {v v' : V} {events : List (Event C)}
    {reply : ℕ × List Char}
    (h : (capture command : Script V C _).Run errexit v events (some (.ok reply, v'))) :
    events = [⟨command, .exits reply.1 reply.2⟩] := by
  rcases Dialogue.run_issue_iff.mp h with ⟨_, hnone⟩ | ⟨answer, rest, rfl, hrest⟩
  · cases hnone
  · cases answer with
    | signal number => cases hrest
    | exits status output =>
      cases hrest
      rfl

theorem eq_of_run_run {command : C} {errexit : Bool} {v v' : V} {events : List (Event C)}
    {status : ℕ}
    (h : (run command : Script V C ℕ).Run errexit v events (some (.ok status, v'))) :
    ∃ output, events = [⟨command, .exits status output⟩] := by
  obtain ⟨reply, w, first, second, rfl, hfirst, hsecond⟩ := exists_run_of_bind h
  obtain ⟨rfl, rfl⟩ := eq_of_run_pure hsecond
  exact ⟨reply.2, by rw [eq_of_run_capture hfirst, List.append_nil]⟩

theorem command_of_run_line {command : C} {errexit : Bool} {v v' : V} {events : List (Event C)}
    (h : (line (run command) : Script V C Unit).Run errexit v events (some (.ok (), v'))) :
    events.map Event.command = [command] := by
  obtain ⟨status, w, first, second, rfl, hfirst, hsecond⟩ := exists_run_of_bind h
  obtain ⟨output, rfl⟩ := eq_of_run_run hfirst
  rw [Run, check] at hsecond
  split at hsecond
  · cases hsecond
  · cases hsecond
    rfl

section Traps

variable {onSignal : ℕ → Option (Script V C Unit)} {atExit : ℕ → Script V C ℕ}
  {errexit : Bool} {v : V} {events : List (Event C)} {result : Except Stop ℕ × V}

def Killed (onSignal : ℕ → Option (Script V C Unit)) (result : Except Stop ℕ × V) : Prop :=
  ∃ number, onSignal number = none ∧ result.1 = .error (.signalled number)

def RunsAtExit (atExit : ℕ → Script V C ℕ) (errexit : Bool) (events : List (Event C))
    (result : Except Stop ℕ × V) : Prop :=
  ∃ before after status v, events = before ++ after ∧
    (atExit status).Run errexit v after (some result)

theorem RunsAtExit.append (h : RunsAtExit atExit errexit events result)
    (first : List (Event C)) : RunsAtExit atExit errexit (first ++ events) result := by
  obtain ⟨before, after, status, w, rfl, hrun⟩ := h
  exact ⟨first ++ before, after, status, w, (List.append_assoc _ _ _).symm, hrun⟩

theorem killed_or_runsAtExit_afterSignal {signals number : ℕ}
    (h : (afterSignal onSignal atExit signals number).Run errexit v events (some result)) :
    Killed onSignal result ∨ RunsAtExit atExit errexit events result := by
  induction signals generalizing number v events with
  | zero => cases h
  | succ signals ih =>
    rw [Run, afterSignal] at h
    cases hhandler : onSignal number with
    | none =>
      rw [hhandler] at h
      obtain ⟨-, hresult⟩ := Dialogue.run_done_iff.mp h
      cases hresult
      exact Or.inl ⟨number, hhandler, rfl⟩
    | some handler =>
      rw [hhandler] at h
      rcases Dialogue.run_bind_iff.mp h with ⟨_, hnone⟩ |
        ⟨⟨(status | further) | _, w⟩, first, second, rfl, _, hsecond⟩
      · cases hnone
      · exact Or.inr ⟨first, second, status, w, rfl, hsecond⟩
      · exact (ih hsecond).imp_right fun h => h.append first
      · exact Or.inr ⟨first, second, 128 + number, w, rfl, hsecond⟩

/-- A run of a script with traps that comes to its end has run what the trap runs, unless it
was killed. -/
theorem killed_or_runsAtExit {signals : ℕ} {x : Script V C ℕ}
    (h : (trapExit signals onSignal atExit x).Run errexit v events (some result)) :
    Killed onSignal result ∨ RunsAtExit atExit errexit events result := by
  rcases Dialogue.run_bind_iff.mp h with ⟨_, hnone⟩ |
    ⟨⟨(status | number) | status, w⟩, first, second, rfl, _, hsecond⟩
  · cases hnone
  · exact Or.inr ⟨first, second, status, w, rfl, hsecond⟩
  · exact (killed_or_runsAtExit_afterSignal hsecond).imp_right fun h => h.append first
  · exact Or.inr ⟨first, second, status, w, rfl, hsecond⟩

end Traps

/-- Of lines that come to an end where `set -e` is ignored, the last one gives the result. -/
theorem exists_run_last {xs : List (Script V C ℕ)} {y : Script V C ℕ} {v v' : V}
    {events : List (Event C)} {status : ℕ}
    (h : (lines (xs ++ [y])).Run false v events (some (.ok status, v'))) :
    ∃ before after w, events = before ++ after ∧ y.Run false w after (some (.ok status, v')) := by
  induction xs generalizing v events with
  | nil => exact ⟨[], events, v, rfl, h⟩
  | cons z zs ih =>
    have hstep : (line z >>= fun _ => lines (zs ++ [y])).Run false v events
        (some (.ok status, v')) := by
      cases zs with
      | nil => exact h
      | cons w ws => exact h
    rcases run_bind_iff.mp hstep with ⟨_, hnone⟩ | ⟨stop, u, _, hstop⟩ |
      ⟨_, u, first, second, rfl, _, hsecond⟩
    · cases hnone
    · cases hstop
    · obtain ⟨before, after, w, rfl, hy⟩ := ih hsecond
      exact ⟨first ++ before, after, w, (List.append_assoc _ _ _).symm, hy⟩

end Script

/-! ## What is seen before a command -/

section Guards

variable {C F V α β : Type} (holds : F → Event C → Prop) (needs : C → Set F)

def Seen (fact : F) (events : List (Event C)) : Prop := ∃ event ∈ events, holds fact event

/-- Each command was issued after all that it needs had been seen. -/
def Guarded (events : List (Event C)) : Prop :=
  ∀ before event after, events = before ++ event :: after →
    ∀ fact ∈ needs event.command, Seen holds fact before

variable {holds needs}

theorem Seen.append {fact : F} {events : List (Event C)} (h : Seen holds fact events)
    (more : List (Event C)) : Seen holds fact (events ++ more) := by
  obtain ⟨event, hevent, hfact⟩ := h
  exact ⟨event, List.mem_append_left more hevent, hfact⟩

theorem Guarded.nil : Guarded holds needs ([] : List (Event C)) := by
  intro before event after h
  simp at h

theorem Guarded.snoc {events : List (Event C)} {event : Event C}
    (h : Guarded holds needs events)
    (hevent : ∀ fact ∈ needs event.command, Seen holds fact events) :
    Guarded holds needs (events ++ [event]) := by
  intro before last after heq
  rcases List.eq_nil_or_concat after with rfl | ⟨rest, final, rfl⟩
  · obtain ⟨rfl, hlast⟩ := List.append_inj' heq rfl
    cases hlast
    exact hevent
  · have hevents : events ++ [event] = (before ++ last :: rest) ++ [final] := by simpa using heq
    exact h before last rest (List.append_inj' hevents rfl).1

/-- Facts each of which is needed for what shows the next one have been seen in this order. -/
theorem Guarded.inOrder {facts : List F} {last : F} {events : List (Event C)}
    (h : Guarded holds needs events)
    (hchain : (facts ++ [last]).IsChain fun fact next =>
      ∀ event ∈ events, holds next event → fact ∈ needs event.command)
    (hseen : Seen holds last events) :
    ∃ shown : List (Event C), shown.Sublist events ∧
      List.Forall₂ holds (facts ++ [last]) shown := by
  induction facts using List.reverseRecOn generalizing last events with
  | nil =>
    obtain ⟨event, hevent, hshown⟩ := hseen
    exact ⟨[event], List.singleton_sublist.mpr hevent, .cons hshown .nil⟩
  | append_singleton facts fact ih =>
    obtain ⟨event, hevent, hshown⟩ := hseen
    obtain ⟨before, after, rfl⟩ := List.append_of_mem hevent
    rw [List.isChain_append] at hchain
    obtain ⟨hfacts, -, hnext⟩ := hchain
    have hneeded := hnext fact (by simp) last (by simp) event hevent hshown
    have hbefore : Guarded holds needs before := fun first e rest heq =>
      h first e (rest ++ event :: after) (by rw [heq]; simp)
    have hearlier := hfacts.imp fun f g hfg e he => hfg e (List.mem_append_left _ he)
    obtain ⟨shown, hsublist, hall⟩ := ih hbefore hearlier (h before event after rfl fact hneeded)
    refine ⟨shown ++ [event], hsublist.append ?_, List.rel_append hall (.cons hshown .nil)⟩
    exact List.singleton_sublist.mpr List.mem_cons_self

variable (holds needs)

def Attained (gained : α → Set F) (lost : Stop → Set F) (events : List (Event C)) :
    Option (Except Stop α × V) → Prop
  | none => True
  | some (.ok a, _) => ∀ fact ∈ gained a, Seen holds fact events
  | some (.error stop, _) => ∀ fact ∈ lost stop, Seen holds fact events

/-- Once the facts `known` have been seen, every run of `x` is guarded; the facts `gained`
have been seen at its end, and the facts `lost` where it ends the script. -/
def Secures (errexit : Bool) (known : Set F) (x : Script V C α) (gained : α → Set F)
    (lost : Stop → Set F) : Prop :=
  ∀ v past events result, Guarded holds needs past → (∀ fact ∈ known, Seen holds fact past) →
    x.Run errexit v events result →
      Guarded holds needs (past ++ events) ∧ Attained holds gained lost (past ++ events) result

variable {holds needs}

namespace Secures

variable {errexit : Bool} {K K₀ : Set F} {G H : α → Set F}
  {L M : Stop → Set F} {x : Script V C α}

theorem mono (h : Secures holds needs errexit K x G L) (hknown : K ⊆ K₀)
    (hgained : ∀ a, H a ⊆ G a) (hlost : ∀ stop, M stop ⊆ L stop) :
    Secures holds needs errexit K₀ x H M := by
  intro v past events result hpast hseen hrun
  obtain ⟨hguarded, hattained⟩ := h v past events result hpast
    (fun fact hfact => hseen fact (hknown hfact)) hrun
  refine ⟨hguarded, ?_⟩
  match result, hattained with
  | none, _ => trivial
  | some (.ok a, _), hattained => exact fun fact hfact => hattained fact (hgained a hfact)
  | some (.error stop, _), hattained => exact fun fact hfact => hattained fact (hlost stop hfact)

theorem pure {a : α} (h : G a ⊆ K) :
    Secures holds needs errexit K (Pure.pure a : Script V C α) G L := by
  intro v past events result hpast hseen hrun
  cases hrun
  rw [List.append_nil]
  exact ⟨hpast, fun fact hfact => hseen fact (h hfact)⟩

theorem exit {status : ℕ} (h : L (.exited status) ⊆ K) :
    Secures holds needs errexit K (Script.exit status : Script V C α) G L := by
  intro v past events result hpast hseen hrun
  cases hrun
  rw [List.append_nil]
  exact ⟨hpast, fun fact hfact => hseen fact (h hfact)⟩

theorem suspended :
    Secures holds needs errexit K (Script.suspended : Script V C α) G L := by
  intro v past events result hpast hseen hrun
  cases hrun
  exact ⟨by simpa using hpast, trivial⟩

theorem assign {f : V → V} {G : Unit → Set F} (h : G () ⊆ K) :
    Secures holds needs errexit K (Script.assign f : Script V C Unit) G L := by
  intro v past events result hpast hseen hrun
  cases hrun
  rw [List.append_nil]
  exact ⟨hpast, fun fact hfact => hseen fact (h hfact)⟩

theorem withVariables {x : V → Script V C α}
    (h : ∀ v, Secures holds needs errexit K (x v) G L) :
    Secures holds needs errexit K (Script.withVariables x) G L :=
  fun v past events result hpast hseen hrun => h v v past events result hpast hseen hrun

theorem bind {f : α → Script V C β} {H : β → Set F}
    (hx : Secures holds needs errexit K x G L)
    (hf : ∀ a, Secures holds needs errexit (G a) (f a) H L) :
    Secures holds needs errexit K (x >>= f) H L := by
  intro v past events result hpast hseen hrun
  rcases Script.run_bind_iff.mp hrun with ⟨hx', rfl⟩ | ⟨stop, v', hx', rfl⟩ |
    ⟨a, v', first, second, rfl, hfirst, hsecond⟩
  · exact ⟨(hx v past events none hpast hseen hx').1, trivial⟩
  · exact hx v past events _ hpast hseen hx'
  · obtain ⟨hguarded, hgained⟩ := hx v past first _ hpast hseen hfirst
    rw [← List.append_assoc]
    exact hf a v' (past ++ first) second result hguarded hgained hsecond

/-- A command is issued once all it needs is known, and its reply may show further facts. -/
theorem capture {command : C} {G : ℕ × List Char → Set F} (hneeds : needs command ⊆ K)
    (hgained : ∀ status output, ∀ fact ∈ G (status, output),
      fact ∈ K ∨ holds fact ⟨command, .exits status output⟩)
    (hlost : ∀ number, ∀ fact ∈ L (.signalled number),
      fact ∈ K ∨ holds fact ⟨command, .signal number⟩) :
    Secures holds needs errexit K (Script.capture command : Script V C (ℕ × List Char))
      G L := by
  intro v past events result hpast hseen hrun
  have hissue : ∀ reply, Guarded holds needs (past ++ [⟨command, reply⟩]) := fun reply =>
    hpast.snoc fun fact hfact => hseen fact (hneeds hfact)
  have hshown : ∀ reply fact, fact ∈ K ∨ holds fact ⟨command, reply⟩ →
      Seen holds fact (past ++ [⟨command, reply⟩]) := by
    intro reply fact hfact
    rcases hfact with hknown | hholds
    · exact (hseen fact hknown).append _
    · exact ⟨⟨command, reply⟩, by simp, hholds⟩
  rcases Dialogue.run_issue_iff.mp hrun with ⟨rfl, rfl⟩ | ⟨reply, rest, rfl, hrest⟩
  · exact ⟨by simpa using hpast, trivial⟩
  · cases reply with
    | exits status output =>
      cases hrest
      exact ⟨hissue _, fun fact hfact => hshown _ fact (hgained status output fact hfact)⟩
    | signal number =>
      cases hrest
      exact ⟨hissue _, fun fact hfact => hshown _ fact (hlost number fact hfact)⟩

theorem run {command : C} {G : ℕ → Set F} (hneeds : needs command ⊆ K)
    (hgained : ∀ status output, ∀ fact ∈ G status,
      fact ∈ K ∨ holds fact ⟨command, .exits status output⟩)
    (hlost : ∀ number, ∀ fact ∈ L (.signalled number),
      fact ∈ K ∨ holds fact ⟨command, .signal number⟩) :
    Secures holds needs errexit K (Script.run command : Script V C ℕ) G L :=
  bind (G := fun reply => G reply.1) (capture hneeds hgained hlost) fun _ =>
    pure fun _ h => h

theorem tested (h : Secures holds needs false K x G L) :
    Secures holds needs errexit K (Script.tested x) G L := h

theorem ite {p : Prop} [Decidable p] {y : Script V C α}
    (hx : p → Secures holds needs errexit K x G L)
    (hy : ¬p → Secures holds needs errexit K y G L) :
    Secures holds needs errexit K (if p then x else y) G L := by
  split
  · exact hx ‹_›
  · exact hy ‹_›

section Commands

variable {x y : Script V C ℕ} {G H : ℕ → Set F}

theorem check {status : ℕ} {S : Set F} (hgained : status = 0 → S ⊆ K)
    (hlost : status ≠ 0 → L (.exited status) ⊆ K) :
    Secures holds needs true K (Script.check status : Script V C Unit) (fun _ => S) L := by
  intro v past events result hpast hseen hrun
  by_cases hstatus : status = 0
  · rw [Script.Run, Script.check, if_neg fun h => h.2 hstatus] at hrun
    cases hrun
    rw [List.append_nil]
    exact ⟨hpast, fun fact hfact => hseen fact (hgained hstatus hfact)⟩
  · rw [Script.Run, Script.check, if_pos ⟨rfl, hstatus⟩] at hrun
    cases hrun
    rw [List.append_nil]
    exact ⟨hpast, fun fact hfact => hseen fact (hlost hstatus hfact)⟩

/-- A line that fails ends the script, so the next line may rely on its success. -/
theorem line (hx : Secures holds needs true K x G L)
    (hfailed : ∀ status, status ≠ 0 → L (.exited status) ⊆ G status) :
    Secures holds needs true K (Script.line x) (fun _ => G 0) L :=
  bind hx fun status => check (by rintro rfl; exact fun _ h => h) (hfailed status)

/-- Where `set -e` is ignored a line says nothing about its success. -/
theorem line_ignored {H : Unit → Set F}
    (hx : Secures holds needs false K x G L)
    (hgained : ∀ status, H () ⊆ G status) :
    Secures holds needs false K (Script.line x) H L :=
  bind hx fun status v past events result hpast hseen hrun => by
    rw [Script.Run, Script.check, if_neg fun h => Bool.false_ne_true h.1] at hrun
    cases hrun
    rw [List.append_nil]
    exact ⟨hpast, fun fact hfact => hseen fact (hgained status hfact)⟩

/-- Where `set -e` is ignored only the last of several lines decides. -/
theorem lines_ignored {xs : List (Script V C ℕ)}
    (hxs : ∀ z ∈ xs, Secures holds needs false K z (fun _ => K) L)
    (hy : Secures holds needs false K y G L) :
    Secures holds needs false K (Script.lines (xs ++ [y])) G L := by
  induction xs with
  | nil => exact hy
  | cons z zs ih =>
    have hz := hxs z List.mem_cons_self
    have hrest := ih fun w hw => hxs w (List.mem_cons_of_mem z hw)
    cases zs with
    | nil => exact bind (line_ignored hz fun _ _ h => h) fun _ => hrest
    | cons w ws => exact bind (line_ignored hz fun _ _ h => h) fun _ => hrest

theorem orElse (hx : Secures holds needs false K x G L)
    (hy : ∀ status, status ≠ 0 → Secures holds needs errexit (G status) y H L)
    (hzero : H 0 ⊆ G 0) :
    Secures holds needs errexit K (Script.orElse x y) H L :=
  bind (tested hx) fun status => by
    by_cases hstatus : status = 0
    · subst hstatus
      simpa using pure hzero
    · simpa [hstatus] using hy status hstatus

/-- The facts a child has shown, however it ended, are known to its parent by its status. -/
theorem child {wait : C} {z : Script Unit C ℕ} {G₀ : ℕ → Set F}
    {L₀ : Stop → Set F}
    (hz : Secures holds needs true K z G₀ L₀) (hwait : needs wait = ∅)
    (hgained : ∀ status, G status ⊆ G₀ status)
    (hlost : ∀ stop, G stop.status ⊆ L₀ stop)
    (hsignal : ∀ number, ∀ fact ∈ L (.signalled number), holds fact ⟨wait, .signal number⟩) :
    Secures holds needs errexit K (Script.child wait z : Script V C ℕ) G L := by
  intro v past events result hpast hseen hrun
  have hwaiting : ∀ status, Secures holds needs errexit (G status)
      (do let _ ← Script.run wait; return status : Script V C ℕ) G L := fun status =>
    bind (run (hwait ▸ Set.empty_subset _) (fun _ _ _ h => Or.inl h) fun number fact h =>
      Or.inr (hsignal number fact h)) fun _ => pure fun _ h => h
  rcases Dialogue.run_bind_iff.mp hrun with ⟨hz', rfl⟩ |
    ⟨⟨stop | status, _⟩, first, second, rfl, hfirst, hsecond⟩
  · exact ⟨(hz () past events none hpast hseen hz').1, trivial⟩
  · obtain ⟨hguarded, hattained⟩ := hz () past first _ hpast hseen hfirst
    rw [← List.append_assoc]
    exact hwaiting stop.status v (past ++ first) second result hguarded
      (fun fact hfact => hattained fact (hlost stop hfact)) hsecond
  · obtain ⟨hguarded, hattained⟩ := hz () past first _ hpast hseen hfirst
    rw [← List.append_assoc]
    exact hwaiting status v (past ++ first) second result hguarded
      (fun fact hfact => hattained fact (hgained status hfact)) hsecond

section Traps

variable {onSignal : ℕ → Option (Script V C Unit)} {atExit : ℕ → Script V C ℕ}
  {M : Stop → Set F}

/-- Where the traps take over, nothing is taken for granted. -/
theorem afterSignal
    (hsignal : ∀ number handler, onSignal number = some handler →
      Secures holds needs errexit ∅ handler (fun _ => ∅) fun _ => ∅)
    (hexit : ∀ status, Secures holds needs errexit ∅ (atExit status) H M)
    (hkilled : ∀ number, M (.signalled number) = ∅) (signals number : ℕ) :
    Secures holds needs errexit ∅ (Script.afterSignal onSignal atExit signals number) H M := by
  induction signals generalizing number with
  | zero => exact suspended
  | succ signals ih =>
    intro v past events result hpast hseen hrun
    rw [Script.Run, Script.afterSignal] at hrun
    cases hsome : onSignal number with
    | none =>
      rw [hsome] at hrun
      obtain ⟨rfl, rfl⟩ := Dialogue.run_done_iff.mp hrun
      rw [List.append_nil]
      refine ⟨hpast, fun fact hfact => ?_⟩
      rw [hkilled number] at hfact
      exact hfact.elim
    | some handler =>
      rw [hsome] at hrun
      have hhandler := hsignal number handler hsome
      rcases Dialogue.run_bind_iff.mp hrun with ⟨hfirst, rfl⟩ |
        ⟨⟨(status | further) | _, w⟩, first, second, rfl, hfirst, hsecond⟩
      · exact ⟨(hhandler v past events none hpast hseen hfirst).1, trivial⟩
      all_goals
        have hguarded := (hhandler v past first _ hpast hseen hfirst).1
        rw [← List.append_assoc]
      · exact hexit status w (past ++ first) second result hguarded (fun _ h => h.elim) hsecond
      · exact ih further w (past ++ first) second result hguarded (fun _ h => h.elim) hsecond
      · exact hexit _ w (past ++ first) second result hguarded (fun _ h => h.elim) hsecond

theorem trapExit (hx : Secures holds needs errexit K x G L)
    (hsignal : ∀ number handler, onSignal number = some handler →
      Secures holds needs errexit ∅ handler (fun _ => ∅) fun _ => ∅)
    (hexit : ∀ status, Secures holds needs errexit ∅ (atExit status) H M)
    (hkilled : ∀ number, M (.signalled number) = ∅) (signals : ℕ) :
    Secures holds needs errexit K (Script.trapExit signals onSignal atExit x) H M := by
  intro v past events result hpast hseen hrun
  rcases Dialogue.run_bind_iff.mp hrun with ⟨hx', rfl⟩ |
    ⟨⟨(status | number) | status, w⟩, first, second, rfl, hfirst, hsecond⟩
  · exact ⟨(hx v past events none hpast hseen hx').1, trivial⟩
  all_goals
    have hguarded := (hx v past first _ hpast hseen hfirst).1
    rw [← List.append_assoc]
  · exact hexit status w (past ++ first) second result hguarded (fun _ h => h.elim) hsecond
  · exact afterSignal hsignal hexit hkilled signals number w (past ++ first) second result
      hguarded (fun _ h => h.elim) hsecond
  · exact hexit status w (past ++ first) second result hguarded (fun _ h => h.elim) hsecond

end Traps

end Commands

end Secures

end Guards

end SmolVlaQgf.ShellScripts
