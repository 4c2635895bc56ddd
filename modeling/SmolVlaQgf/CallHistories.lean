import Mathlib.Data.Nat.Notation

/-!
# Histories of calls that may raise

An object is a state, a method a computation that changes it and returns a value or
raises. What a method assigned before it raised stays assigned.
-/

namespace SmolVlaQgf.CallHistories

variable {ε σ α : Type}

theorem run_ite {c : Prop} [Decidable c] (call call' : EStateM ε σ α) (s : σ) :
    (if c then call else call').run s = if c then call.run s else call'.run s := by
  split <;> rfl

def stateAfter (call : EStateM ε σ α) (s : σ) : σ :=
  match call.run s with
  | .ok _ t => t
  | .error _ t => t

def returned (call : EStateM ε σ α) (s : σ) : Option α :=
  match call.run s with
  | .ok a _ => some a
  | .error _ _ => none

def RaisesUnchanged (call : EStateM ε σ α) (s : σ) : Prop :=
  returned call s = none → stateAfter call s = s

def stateBefore (calls : ℕ → EStateM ε σ α) (s : σ) : ℕ → σ
  | 0 => s
  | n + 1 => stateAfter (calls n) (stateBefore calls s n)

def returnedAt (calls : ℕ → EStateM ε σ α) (s : σ) (n : ℕ) : Option α :=
  returned (calls n) (stateBefore calls s n)

/-- A pure function that may fail, as a method: a failure assigns nothing. -/
def ofFunction (f : σ → Except ε (σ × α)) : EStateM ε σ α := fun s =>
  match f s with
  | .ok (t, a) => .ok a t
  | .error e => .error e s

section OfFunction

variable {f : σ → Except ε (σ × α)} {s : σ}

theorem run_ofFunction : (ofFunction f).run s = match f s with
    | .ok (t, a) => .ok a t
    | .error e => .error e s := rfl

theorem returned_ofFunction_eq_none_iff :
    returned (ofFunction f) s = none ↔ ∃ e, f s = .error e := by
  rw [returned, run_ofFunction]
  cases f s <;> simp

/-- A method given by a pure function leaves the state it found when it raises. -/
theorem raisesUnchanged_ofFunction : RaisesUnchanged (ofFunction f) s := by
  intro h
  obtain ⟨e, he⟩ := returned_ofFunction_eq_none_iff.mp h
  simp [stateAfter, run_ofFunction, he]

end OfFunction

end SmolVlaQgf.CallHistories
