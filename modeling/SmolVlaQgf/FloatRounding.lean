import SmolVlaQgf.ExactFloats
import Mathlib.Tactic.Linarith
import Mathlib.Tactic.Ring

/-!
# Rounded float arithmetic

A float operation rounds its exact result. The rounding is a parameter: it is monotone, keeps
zero and one, never gives NaN and has a bounded error. Exact arithmetic and binary64 are such
roundings. Overflow gives an infinity.
-/

namespace SmolVlaQgf.FloatRounding
open ExactFloats

/-- How exact results are rounded to floats. The numbers that `toFloat` keeps are the floats; the
difference of two of them has no underflow. -/
class Rounding (K : Type*) [Field K] [LinearOrder K] where
  toFloat : K → PyFloat K
  toFloat_ne_nan (x : K) : toFloat x ≠ .nan
  toFloat_mono {x y : K} : x ≤ y → (toFloat x).le (toFloat y) = true
  toFloat_idem {x y : K} : toFloat x = .finite y → toFloat y = .finite y
  toFloat_zero : toFloat 0 = .finite 0
  toFloat_one : toFloat 1 = .finite 1
  exists_le_toFloat (d : K) : ∃ x, (PyFloat.finite d).le (toFloat x) = true
  unitRoundoff : K
  underflow : K
  unitRoundoff_nonneg : 0 ≤ unitRoundoff
  unitRoundoff_lt_one : unitRoundoff < 1
  underflow_nonneg : 0 ≤ underflow
  toFloat_error {x y : K} : toFloat x = .finite y → |y - x| ≤ unitRoundoff * |x| + underflow
  sub_error {x y d : K} : toFloat x = .finite x → toFloat y = .finite y →
    toFloat (x - y) = .finite d → |d - (x - y)| ≤ unitRoundoff * |x - y|

export Rounding (toFloat)

attribute [simp] Rounding.toFloat_ne_nan Rounding.toFloat_zero Rounding.toFloat_one

section Exact

variable {K : Type*}

private theorem finite_ne_nan (x : K) : PyFloat.finite x ≠ .nan := nofun

private theorem finite_idem {x y : K} (h : PyFloat.finite x = .finite y) :
    PyFloat.finite y = .finite y := h ▸ rfl

variable [LinearOrder K]

private theorem finite_mono {x y : K} (h : x ≤ y) : (PyFloat.finite x).le (.finite y) = true :=
  decide_eq_true h

private theorem exists_le_finite (d : K) : ∃ x, (PyFloat.finite d).le (.finite x) = true :=
  ⟨d, finite_mono le_rfl⟩

variable [Field K] [IsStrictOrderedRing K]

omit [IsStrictOrderedRing K] in
private theorem noError_nonneg : (0 : K) ≤ 0 := le_rfl

private theorem noError_lt_one : (0 : K) < 1 := zero_lt_one

private theorem finite_error {x y : K} (h : PyFloat.finite x = .finite y) :
    |y - x| ≤ 0 * |x| + 0 := by
  cases h
  simp

private theorem finite_sub_error {x y d : K} (_ : PyFloat.finite x = .finite x)
    (_ : PyFloat.finite y = .finite y) (h : PyFloat.finite (x - y) = .finite d) :
    |d - (x - y)| ≤ 0 * |x - y| := by
  cases h
  simp

variable (K)

/-- Exact arithmetic rounds nothing. -/
@[reducible] def Rounding.exact : Rounding K where
  toFloat := .finite
  toFloat_ne_nan := finite_ne_nan
  toFloat_mono := finite_mono
  toFloat_idem := finite_idem
  toFloat_zero := rfl
  toFloat_one := rfl
  exists_le_toFloat := exists_le_finite
  unitRoundoff := 0
  underflow := 0
  unitRoundoff_nonneg := noError_nonneg
  unitRoundoff_lt_one := noError_lt_one
  underflow_nonneg := noError_nonneg
  toFloat_error := finite_error
  sub_error := finite_sub_error

end Exact

theorem toFloat_nonneg {K : Type*} [Field K] [LinearOrder K] [Rounding K] {x : K} (h : 0 ≤ x) :
    (PyFloat.finite 0).le (toFloat x) = true :=
  Rounding.toFloat_zero (K := K) ▸ Rounding.toFloat_mono h

end SmolVlaQgf.FloatRounding

namespace SmolVlaQgf.ExactFloats.PyFloat

/-! ## The order of floats -/

section Order

variable {K : Type*} [LinearOrder K] {a b c : PyFloat K} {x y : K}

@[simp] theorem finite_le_finite : (finite x).le (finite y) = true ↔ x ≤ y := decide_eq_true_iff

@[simp] theorem finite_lt_finite : (finite x).lt (finite y) = true ↔ x < y := decide_eq_true_iff

theorem le_trans (hab : a.le b = true) (hbc : b.le c = true) : a.le c = true := by
  cases a <;> cases b <;> cases c <;> simp_all [le]
  exact hab.trans hbc

theorem le_refl (ha : a ≠ nan) : a.le a = true := by
  cases a <;> simp_all [le]

/-- Floats other than NaN are linearly ordered. -/
theorem lt_eq_false_iff (ha : a ≠ nan) (hb : b ≠ nan) : a.lt b = false ↔ b.le a = true := by
  cases a <;> cases b <;> simp_all [le, lt]

/-- A float other than NaN reaches a bound that it is not below. -/
theorem finite_le_iff (ha : a ≠ nan) : (finite x).le a = true ↔ ¬a.lt (finite x) = true := by
  rw [Bool.not_eq_true, lt_eq_false_iff ha (by simp)]

theorem lt_of_lt_of_le (hab : a.lt b = true) (hbc : b.le c = true) : a.lt c = true := by
  cases a <;> cases b <;> cases c <;> simp_all [le, lt]
  exact hab.trans_le hbc

theorem lt_of_le_of_lt (hab : a.le b = true) (hbc : b.lt c = true) : a.lt c = true := by
  cases a <;> cases b <;> cases c <;> simp_all [le, lt]
  exact hab.trans_lt hbc

theorem le_of_lt (hab : a.lt b = true) : a.le b = true := by
  cases a <;> cases b <;> simp_all [le, lt]
  exact hab.le

theorem lt_irrefl (a : PyFloat K) : a.lt a = false := by
  cases a <;> simp [lt]

theorem ne_of_lt (hab : a.lt b = true) : a ≠ b := by
  rintro rfl
  rw [lt_irrefl] at hab
  cases hab

theorem lt_of_le_of_ne (hab : a.le b = true) (hne : a ≠ b) : a.lt b = true := by
  cases a <;> cases b <;> simp_all [le, lt]
  exact hab.lt_of_ne hne

theorem ne_nan_of_le_left (hab : a.le b = true) : a ≠ nan := by
  cases a <;> simp_all [le]

theorem ne_nan_of_le_right (hab : a.le b = true) : b ≠ nan := by
  cases a <;> cases b <;> simp_all [le]

end Order

/-! ## Maxima and minima

`max` keeps its first argument unless a later one is greater, so it passes over a later NaN and
keeps a first one. -/

section Maximum

variable {K : Type*} [LinearOrder K]

/-- `max(a, b)` -/
def max (a b : PyFloat K) : PyFloat K := if a.lt b then b else a

/-- `min(a, b)` -/
def min (a b : PyFloat K) : PyFloat K := if b.lt a then b else a

/-- `max` of a first float and the ones after it. -/
def maxFrom (first : PyFloat K) : List (PyFloat K) → PyFloat K
  | [] => first
  | next :: rest => maxFrom (first.max next) rest

/-- `max(values)` of a non-empty tuple. -/
def maximum {n : ℕ} (values : Fin (n + 1) → PyFloat K) : PyFloat K :=
  maxFrom (values ⟨0, n.succ_pos⟩) (List.ofFn fun i : Fin n => values i.succ)

variable {a b d first : PyFloat K} {rest : List (PyFloat K)}

theorem max_ne_nan (ha : a ≠ nan) : a.max b ≠ nan := by
  rw [max]
  split_ifs with h
  · exact ne_nan_of_le_right (le_of_lt h)
  · exact ha

theorem le_max_left (ha : a ≠ nan) : a.le (a.max b) = true := by
  rw [max]
  split_ifs with h
  · exact le_of_lt h
  · exact le_refl ha

theorem le_max_right (ha : a ≠ nan) (hb : b ≠ nan) : b.le (a.max b) = true := by
  rw [max]
  split_ifs with h
  · exact le_refl hb
  · exact (lt_eq_false_iff ha hb).mp (Bool.eq_false_of_not_eq_true h)

theorem max_eq_or (a b : PyFloat K) : a.max b = a ∨ a.max b = b := by
  rw [max]
  split_ifs
  · exact Or.inr rfl
  · exact Or.inl rfl

theorem max_le_max_left (ha : a ≠ nan) (h : b.le d = true) :
    (a.max b).le (a.max d) = true := by
  rcases max_eq_or a b with heq | heq
  · rw [heq]
    exact le_max_left ha
  · rw [heq]
    exact le_trans h (le_max_right ha (ne_nan_of_le_right h))

theorem max_eq_right (h : a.le b = true) : a.max b = b := by
  rw [max]
  split_ifs with hlt
  · rfl
  · exact not_imp_comm.mp (lt_of_le_of_ne h) hlt

theorem le_maxFrom (hfirst : first ≠ nan) : first.le (maxFrom first rest) = true := by
  induction rest generalizing first with
  | nil => exact le_refl hfirst
  | cons next rest ih => exact le_trans (le_max_left hfirst) (ih (max_ne_nan hfirst))

theorem le_maxFrom_of_mem (hfirst : first ≠ nan) (hd : d ∈ rest) (hne : d ≠ nan) :
    d.le (maxFrom first rest) = true := by
  induction rest generalizing first with
  | nil => cases hd
  | cons next rest ih =>
    rcases List.mem_cons.mp hd with rfl | hd
    · exact le_trans (le_max_right hfirst hne) (le_maxFrom (max_ne_nan hfirst))
    · exact ih (max_ne_nan hfirst) hd

theorem maxFrom_mem (first : PyFloat K) (rest : List (PyFloat K)) :
    maxFrom first rest = first ∨ maxFrom first rest ∈ rest := by
  induction rest generalizing first with
  | nil => exact Or.inl rfl
  | cons next rest ih =>
    rcases ih (first.max next) with heq | hmem
    · rw [maxFrom, heq]
      rcases max_eq_or first next with hfirst | hnext
      · exact Or.inl hfirst
      · rw [hnext]
        exact Or.inr List.mem_cons_self
    · exact Or.inr (List.mem_cons_of_mem _ hmem)

theorem maxFrom_nan (rest : List (PyFloat K)) : maxFrom nan rest = nan := by
  induction rest with
  | nil => rfl
  | cons next rest ih => exact ih

variable {n : ℕ} {values : Fin (n + 1) → PyFloat K}

theorem exists_maximum_eq (values : Fin (n + 1) → PyFloat K) : ∃ i, maximum values = values i := by
  rcases maxFrom_mem (values ⟨0, n.succ_pos⟩) (List.ofFn fun i : Fin n => values i.succ)
    with heq | hmem
  · exact ⟨0, heq⟩
  · obtain ⟨i, hi⟩ := List.mem_ofFn.mp hmem
    exact ⟨i.succ, hi.symm⟩

/-- Only a first NaN makes the maximum NaN, and no other value is above it. -/
theorem le_maximum (h : maximum values ≠ nan) (i : Fin (n + 1)) (hi : values i ≠ nan) :
    (values i).le (maximum values) = true := by
  have hfirst : values ⟨0, n.succ_pos⟩ ≠ nan :=
    fun hnan => h (by rw [maximum, hnan, maxFrom_nan])
  cases i using Fin.cases with
  | zero => exact le_maxFrom hi
  | succ i => exact le_maxFrom_of_mem hfirst (List.mem_ofFn.mpr ⟨i, rfl⟩) hi

theorem lt_eq_false_of_maximum_le {bound : K} (h : (maximum values).le (finite bound) = true)
    (i : Fin (n + 1)) : (finite bound).lt (values i) = false := by
  by_cases hi : values i = nan
  · rw [hi]
    rfl
  · exact (lt_eq_false_iff (by simp) hi).mpr (le_trans (le_maximum (ne_nan_of_le_left h) i hi) h)

theorem maximum_le {bound : PyFloat K} (h : ∀ i, (values i).le bound = true) :
    (maximum values).le bound = true := by
  obtain ⟨i, hi⟩ := exists_maximum_eq values
  exact hi ▸ h i

/-- The maximum of floats other than NaN reaches what one of them reaches. -/
theorem le_maximum_iff {bound : PyFloat K} (h : ∀ i, values i ≠ nan) :
    bound.le (maximum values) = true ↔ ∃ i, bound.le (values i) = true := by
  obtain ⟨j, hj⟩ := exists_maximum_eq values
  constructor
  · exact fun hle => ⟨j, hj ▸ hle⟩
  · rintro ⟨i, hle⟩
    exact le_trans hle (le_maximum (hj ▸ h j) i (h i))

end Maximum

/-! ## Operations -/

/-- `abs(a)` -/
def abs {K : Type*} [Lattice K] [AddGroup K] : PyFloat K → PyFloat K
  | finite x => finite |x|
  | posInf | negInf => posInf
  | nan => nan

theorem abs_ne_nan {K : Type*} [Lattice K] [AddGroup K] {a : PyFloat K} (ha : a ≠ nan) :
    a.abs ≠ nan := by
  cases a <;> simp_all [abs]

section Operations

variable {K : Type*} [Field K] [LinearOrder K]

def infinite (x : K) : PyFloat K := if 0 < x then posInf else if x < 0 then negInf else nan

def neg : PyFloat K → PyFloat K
  | finite x => finite (-x)
  | posInf => negInf
  | negInf => posInf
  | nan => nan

variable [FloatRounding.Rounding K]

/-- `a + b` -/
def add : PyFloat K → PyFloat K → PyFloat K
  | finite x, finite y => FloatRounding.toFloat (x + y)
  | nan, _ | _, nan | posInf, negInf | negInf, posInf => nan
  | posInf, _ | _, posInf => posInf
  | negInf, _ | _, negInf => negInf

/-- `a - b` -/
def sub : PyFloat K → PyFloat K → PyFloat K
  | finite x, finite y => FloatRounding.toFloat (x - y)
  | a, b => a.add b.neg

/-- `a * b` -/
def mul : PyFloat K → PyFloat K → PyFloat K
  | finite x, finite y => FloatRounding.toFloat (x * y)
  | nan, _ | _, nan => nan
  | posInf, finite x | finite x, posInf => infinite x
  | negInf, finite x | finite x, negInf => infinite (-x)
  | posInf, posInf | negInf, negInf => posInf
  | posInf, negInf | negInf, posInf => negInf

/-- `a / b` for `b` other than 0. -/
def div : PyFloat K → PyFloat K → PyFloat K
  | finite x, finite y => FloatRounding.toFloat (x / y)
  | nan, _ | _, nan => nan
  | finite _, _ => finite 0
  | posInf, finite y => infinite y
  | negInf, finite y => infinite (-y)
  | _, _ => nan

variable {a b c : PyFloat K} {x : K}

omit [Field K] [FloatRounding.Rounding K] in
theorem le_posInf (ha : a ≠ nan) : a.le posInf = true := by
  cases a <;> simp_all [le]

omit [Field K] [FloatRounding.Rounding K] in
theorem negInf_le (ha : a ≠ nan) : negInf.le a = true := by
  cases a <;> simp_all [le]

omit [FloatRounding.Rounding K] in
theorem infinite_of_pos (hx : 0 < x) : infinite x = posInf := if_pos hx

variable [IsStrictOrderedRing K]

omit [FloatRounding.Rounding K] in
theorem infinite_neg_of_pos (hx : 0 < x) : infinite (-x) = negInf := by
  rw [infinite, if_neg (neg_nonpos.mpr hx.le).not_gt, if_pos (neg_neg_of_pos hx)]

theorem div_le_div (hab : a.le b = true) (hx : 0 < x) :
    (a.div (finite x)).le (b.div (finite x)) = true := by
  cases a with
  | finite y =>
    cases b with
    | finite z =>
      have hyz := finite_le_finite.mp hab
      exact FloatRounding.Rounding.toFloat_mono (div_le_div_of_nonneg_right hyz hx.le)
    | posInf =>
      rw [div, div, infinite_of_pos hx]
      exact le_posInf (FloatRounding.Rounding.toFloat_ne_nan _)
    | negInf | nan => cases hab
  | posInf =>
    cases b with
    | posInf =>
      rw [div, infinite_of_pos hx]
      rfl
    | finite z | negInf | nan => cases hab
  | negInf =>
    rw [div, infinite_neg_of_pos hx]
    cases b with
    | finite z => exact negInf_le (FloatRounding.Rounding.toFloat_ne_nan _)
    | posInf =>
      rw [div, infinite_of_pos hx]
      rfl
    | negInf =>
      rw [div, infinite_neg_of_pos hx]
      rfl
    | nan => cases hab
  | nan => cases hab

theorem sub_le_sub_left (hab : a.le b = true) (x : K) :
    ((finite x).sub b).le ((finite x).sub a) = true := by
  cases a with
  | finite y =>
    cases b with
    | finite z =>
      have hyz := finite_le_finite.mp hab
      exact FloatRounding.Rounding.toFloat_mono (by linarith)
    | posInf => exact negInf_le (FloatRounding.Rounding.toFloat_ne_nan _)
    | negInf | nan => cases hab
  | posInf =>
    cases b with
    | posInf => rfl
    | finite z | negInf | nan => cases hab
  | negInf =>
    cases b with
    | finite z => exact le_posInf (FloatRounding.Rounding.toFloat_ne_nan _)
    | posInf | negInf => rfl
    | nan => cases hab
  | nan => cases hab

theorem add_le_add_left (hab : a.le b = true) (x : K) :
    ((finite x).add a).le ((finite x).add b) = true := by
  cases a with
  | finite y =>
    cases b with
    | finite z =>
      have hyz := finite_le_finite.mp hab
      exact FloatRounding.Rounding.toFloat_mono (by linarith)
    | posInf => exact le_posInf (FloatRounding.Rounding.toFloat_ne_nan _)
    | negInf | nan => cases hab
  | posInf =>
    cases b with
    | posInf => rfl
    | finite z | negInf | nan => cases hab
  | negInf =>
    cases b with
    | finite z => exact negInf_le (FloatRounding.Rounding.toFloat_ne_nan _)
    | posInf | negInf => rfl
    | nan => cases hab
  | nan => cases hab

end Operations

end SmolVlaQgf.ExactFloats.PyFloat
