import Mathlib.Algebra.Order.Field.Basic
import Mathlib.Data.Fin.Tuple.Basic
import Mathlib.Data.List.OfFn

/-!
# Floats over exact arithmetic

A float is a finite number of an ordered field, an infinity or NaN; finite
arithmetic is exact. Comparisons are the IEEE ones, so every comparison with NaN
is false. Tables of floats are read through the finiteness test a program makes
before it computes with them.
-/

namespace SmolVlaQgf.ExactFloats

inductive PyFloat (K : Type*) where
  | finite (value : K)
  | posInf
  | negInf
  | nan
  deriving DecidableEq

namespace PyFloat

variable {K : Type*}

/-- `math.isfinite` -/
def isFinite : PyFloat K → Bool
  | .finite _ => true
  | _ => false

def exact [Zero K] : PyFloat K → K
  | .finite x => x
  | _ => 0

@[simp] theorem isFinite_finite (x : K) : (finite x).isFinite = true := rfl

@[simp] theorem exact_finite [Zero K] (x : K) : (finite x).exact = x := rfl

/-- IEEE `<=` -/
def le [LE K] [DecidableLE K] : PyFloat K → PyFloat K → Bool
  | .finite x, .finite y => decide (x ≤ y)
  | .finite _, .posInf | .negInf, .finite _ | .negInf, .posInf => true
  | .posInf, .posInf | .negInf, .negInf => true
  | _, _ => false

/-- IEEE `<` -/
def lt [LT K] [DecidableLT K] : PyFloat K → PyFloat K → Bool
  | .finite x, .finite y => decide (x < y)
  | .finite _, .posInf | .negInf, .finite _ | .negInf, .posInf => true
  | _, _ => false

/-- `float(flag)` of a Python bool. -/
def ofBool [Zero K] [One K] (flag : Bool) : PyFloat K := .finite (if flag then 1 else 0)

end PyFloat

/-- Reading a tuple that was built entry by entry. -/
theorem get_ofFn_cast {α : Type*} {n : ℕ} (f : Fin n → α) (h : n = (List.ofFn f).length)
    (i : Fin n) : (List.ofFn f).get (i.cast h) = f i := by
  rw [List.get_ofFn]
  rfl

def floats {K : Type*} {n : ℕ} (values : Fin n → K) : List (PyFloat K) :=
  List.ofFn fun i => .finite (values i)

@[simp] theorem length_floats {K : Type*} {n : ℕ} (values : Fin n → K) :
    (floats values).length = n := by simp [floats]

/-- `max(values)` of a non-empty tuple. -/
def maximum {K : Type*} [Max K] : {n : ℕ} → (Fin (n + 1) → K) → K
  | 0, values => values 0
  | _ + 1, values => max (values 0) (maximum fun i => values i.succ)

theorem le_maximum_iff {K : Type*} [LinearOrder K] {n : ℕ} {values : Fin (n + 1) → K} {x : K} :
    x ≤ maximum values ↔ ∃ i, x ≤ values i := by
  induction n with
  | zero => exact ⟨fun h => ⟨0, h⟩, fun ⟨i, hi⟩ => by rwa [Fin.fin_one_eq_zero i] at hi⟩
  | succ n ih =>
    rw [maximum, le_max_iff, ih]
    exact (Fin.exists_fin_succ (P := fun i => x ≤ values i)).symm

/-- A fallible step followed by another succeeds when both do. -/
theorem bind_eq_ok_iff {ε α β : Type*} {x : Except ε α} {f : α → Except ε β} {b : β} :
    x.bind f = .ok b ↔ ∃ a, x = .ok a ∧ f a = .ok b := by
  cases x with
  | error e => simp [Except.bind]
  | ok a => simp [Except.bind]

/-- Steps that are preceded by a conditional `throw`. -/
theorem guarded_eq_ok_iff {ε β : Type*} {c : Prop} [Decidable c] {e : ε} {rest : Except ε β}
    {b : β} :
    (if c then (throw e : Except ε PUnit) >>= fun _ => rest else rest) = .ok b ↔
      ¬c ∧ rest = .ok b := by
  by_cases hc : c
  · simp [hc, throw, throwThe, MonadExceptOf.throw, bind, Except.bind]
  · simp [hc]

/-- Evaluate a table of fallible entries in index order, stopping at the first error. -/
def forEach {α ε : Type*} : {n : ℕ} → (Fin n → Except ε α) → Except ε (Fin n → α)
  | 0, _ => .ok fun i => i.elim0
  | _ + 1, g => do
    let first ← g 0
    let rest ← forEach fun i => g i.succ
    return Fin.cons first rest

/-- The loop succeeds exactly when every entry does. -/
theorem forEach_eq_ok_iff {α ε : Type*} {n : ℕ} {g : Fin n → Except ε α} {f : Fin n → α} :
    forEach g = .ok f ↔ ∀ i, g i = .ok (f i) := by
  induction n with
  | zero =>
    simp only [forEach, Except.ok.injEq]
    exact ⟨fun _ i => i.elim0, fun _ => funext fun i => i.elim0⟩
  | succ n ih =>
    rw [Fin.forall_fin_succ]
    cases h0 : g 0 with
    | error e => simp [forEach, h0, bind, Except.bind]
    | ok a =>
      cases hrest : forEach (fun i => g i.succ) with
      | error e =>
        simp only [forEach, h0, hrest, bind, Except.bind, reduceCtorEq, false_iff, not_and]
        intro _ hall
        exact absurd (ih.mpr hall) (by simp [hrest])
      | ok r =>
        have hr := ih.mp hrest
        simp only [forEach, h0, hrest, bind, Except.bind, pure, Except.pure, Except.ok.injEq]
        constructor
        · rintro rfl
          exact ⟨rfl, hr⟩
        · rintro ⟨ha, hall⟩
          refine funext (Fin.cases ha fun i => ?_)
          exact Except.ok.inj ((hr i).symm.trans (hall i))

/-- The error of the loop is the error of one of its entries. -/
theorem forEach_eq_error {α ε : Type*} {n : ℕ} {g : Fin n → Except ε α} {e : ε}
    (h : forEach g = .error e) : ∃ i, g i = .error e := by
  induction n with
  | zero => cases h
  | succ n ih =>
    simp only [forEach, bind, Except.bind] at h
    split at h
    · rename_i hfirst
      obtain rfl := Except.error.inj h
      exact ⟨0, hfirst⟩
    · split at h
      · rename_i hrest
        obtain rfl := Except.error.inj h
        obtain ⟨i, hi⟩ := ih hrest
        exact ⟨i.succ, hi⟩
      · cases h

end SmolVlaQgf.ExactFloats
