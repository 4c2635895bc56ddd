import Mathlib.Logic.Basic

/-!
# Computations with hooks

A computation asks a hook several times and goes on with its answers. A hook may have a state; the
results of a computation under two hooks agree if one hook simulates the other. A machine answers
a history of events one after the other.
-/

namespace SmolVlaQgf.HookedComputations

variable {E S T Q A R D : Type}

inductive Hooked (Q A R : Type) where
  | done (result : R)
  | ask (query : Q) (next : A → Hooked Q A R)

/-- A hook with a state, which also an error may change. -/
abbrev Hook (E S Q A : Type) := Q → S → Except E A × S

def Hooked.run (hook : Hook E S Q A) : Hooked Q A R → S → Except E R × S
  | .done result, s => (.ok result, s)
  | .ask query next, s =>
      match hook query s with
      | (.error error, s) => (.error error, s)
      | (.ok answer, s) => (next answer).run hook s

/-! ## Simulation -/

def Agree (rel : S → T → Prop) (outcome : A × S) (other : A × T) : Prop :=
  outcome.1 = other.1 ∧ rel outcome.2 other.2

theorem Hooked.run_agree {rel : S → T → Prop} {hook : Hook E S Q A} {other : Hook E T Q A}
    (hhook : ∀ query s t, rel s t → Agree rel (hook query s) (other query t))
    (computation : Hooked Q A R) {s : S} {t : T} (hrel : rel s t) :
    Agree rel (computation.run hook s) (computation.run other t) := by
  induction computation generalizing s t with
  | done result => exact ⟨rfl, hrel⟩
  | ask query next ih =>
    obtain ⟨hanswer, hstate⟩ := hhook query s t hrel
    rw [run, run]
    generalize hook query s = first at hanswer hstate ⊢
    generalize other query t = second at hanswer hstate ⊢
    obtain ⟨answer, s⟩ := first
    obtain ⟨answer', t⟩ := second
    obtain rfl : answer = answer' := hanswer
    cases answer with
    | error error => exact ⟨rfl, hstate⟩
    | ok answer => exact ih answer hstate

/-! ## Hooks without a state -/

def answering (answer : Q → Except E A) : Hook E S Q A := fun query s => (answer query, s)

def logged (answer : Q → Except E (A × D)) : Hook E (List D) Q A := fun query log =>
  match answer query with
  | .error error => (.error error, log)
  | .ok (answer, entry) => (.ok answer, log ++ [entry])

/-! ## Machines -/

abbrev Machine (V O S : Type) := V → S → O × S

variable {V O : Type}

def Machine.run (machine : Machine V O S) : List V → S → List O × S
  | [], s => ([], s)
  | event :: events, s =>
      let (outcome, s) := machine event s
      let (outcomes, s) := machine.run events s
      (outcome :: outcomes, s)

theorem Machine.run_append (machine : Machine V O S) (events more : List V) (s : S) :
    machine.run (events ++ more) s =
      ((machine.run events s).1 ++ (machine.run more (machine.run events s).2).1,
        (machine.run more (machine.run events s).2).2) := by
  induction events generalizing s with
  | nil => rfl
  | cons event events ih =>
    have hrest := ih (machine event s).2
    have houtcomes := congrArg (fun outcomes => (machine event s).1 :: outcomes.1) hrest
    have hstate := congrArg Prod.snd hrest
    exact Prod.ext houtcomes hstate

theorem Machine.run_agree {rel : S → T → Prop} {machine : Machine V O S} {other : Machine V O T}
    (hstep : ∀ event s t, rel s t → Agree rel (machine event s) (other event t))
    (events : List V) {s : S} {t : T} (hrel : rel s t) :
    Agree rel (machine.run events s) (other.run events t) := by
  induction events generalizing s t with
  | nil => exact ⟨rfl, hrel⟩
  | cons event events ih =>
    obtain ⟨houtcome, hstate⟩ := hstep event s t hrel
    obtain ⟨houtcomes, hrest⟩ := ih hstate
    exact ⟨congrArg₂ List.cons houtcome houtcomes, hrest⟩

end SmolVlaQgf.HookedComputations
