import Mathlib.Algebra.Order.Floor.Ring
import Mathlib.Algebra.Order.Round
import Mathlib.Algebra.Ring.Int.Parity
import Mathlib.Tactic.Linarith
import Mathlib.Tactic.Ring
import Mathlib.Tactic.FieldSimp

/-!
# Rounding to the nearest integer and periodic representatives

Round-half-even over an arbitrary ordered field with a floor, and the
representative of a value modulo a positive period that is nearest to a centre
or the least one at or above a bound. Angles measured in turns are the intended
instance; nothing here mentions them.
-/

namespace SmolVlaQgf.PeriodicRepresentatives

section Congruence

variable {K : Type*} [Field K]

def CongruentMod (period x y : K) : Prop := ∃ n : ℤ, y = x + period * n

namespace CongruentMod

variable {period x y z : K}

@[refl] theorem refl (period x : K) : CongruentMod period x x := ⟨0, by simp⟩

theorem symm (h : CongruentMod period x y) : CongruentMod period y x := by
  obtain ⟨n, rfl⟩ := h
  refine ⟨-n, ?_⟩
  push_cast
  ring

theorem trans (h : CongruentMod period x y) (h' : CongruentMod period y z) :
    CongruentMod period x z := by
  obtain ⟨n, rfl⟩ := h
  obtain ⟨m, rfl⟩ := h'
  refine ⟨n + m, ?_⟩
  push_cast
  ring

end CongruentMod

end Congruence

variable {K : Type*} [Field K] [LinearOrder K] [IsStrictOrderedRing K] [FloorRing K]

def roundHalfEven (x : K) : ℤ :=
  if Int.fract x < 1 / 2 then ⌊x⌋
  else if 1 / 2 < Int.fract x then ⌊x⌋ + 1
  else if Even ⌊x⌋ then ⌊x⌋ else ⌊x⌋ + 1

theorem abs_sub_roundHalfEven_le (x : K) : |x - roundHalfEven x| ≤ 1 / 2 := by
  have hx : x = ⌊x⌋ + Int.fract x := (Int.floor_add_fract x).symm
  have h0 := Int.fract_nonneg x
  have h1 := Int.fract_lt_one x
  rw [roundHalfEven]
  split_ifs with hlow hhigh heven
  all_goals
    rw [abs_le]
    push_cast
    constructor <;> linarith

/-- No integer is nearer than the rounded one. -/
theorem abs_sub_roundHalfEven_le_abs_sub (x : K) (n : ℤ) :
    |x - roundHalfEven x| ≤ |x - n| := by
  have hround := abs_sub_roundHalfEven_le x
  by_cases hn : roundHalfEven x = n
  · rw [hn]
  · have hone : (1 : K) ≤ |((n - roundHalfEven x : ℤ) : K)| := by
      have : (1 : ℤ) ≤ |n - roundHalfEven x| := Int.one_le_abs (by omega)
      exact_mod_cast this
    have htri : |((n - roundHalfEven x : ℤ) : K)| ≤ |x - roundHalfEven x| + |x - n| := by
      have he : ((n - roundHalfEven x : ℤ) : K) = (x - roundHalfEven x) - (x - n) := by
        push_cast
        ring
      rw [he]
      exact abs_sub _ _
    linarith

/-- An even integer attracts both of its ties. -/
theorem roundHalfEven_eq_zero {x : K} (h : |x| ≤ 1 / 2) : roundHalfEven x = 0 := by
  obtain ⟨hlow, hhigh⟩ := abs_le.mp h
  by_cases hneg : x < 0
  · have hfloor : ⌊x⌋ = -1 := by
      rw [Int.floor_eq_iff]
      push_cast
      constructor <;> linarith
    have hfract : Int.fract x = x + 1 := by
      rw [Int.fract, hfloor]
      push_cast
      ring
    have heven : ¬Even (-1 : ℤ) := by decide
    simp only [roundHalfEven, hfloor, hfract, heven, if_false]
    split_ifs with h1
    · linarith
    all_goals rfl
  · have hfloor : ⌊x⌋ = 0 := by
      rw [Int.floor_eq_iff]
      push_cast
      constructor <;> linarith
    have hfract : Int.fract x = x := by
      rw [Int.fract, hfloor]
      push_cast
      ring
    simp only [roundHalfEven, hfloor, hfract, Even.zero, if_true]
    split_ifs with h1 h2
    · rfl
    · linarith
    · rfl

theorem roundHalfEven_intCast (n : ℤ) : roundHalfEven (n : K) = n := by
  have hfract : Int.fract (n : K) < 1 / 2 := by
    rw [Int.fract_intCast]
    exact one_half_pos
  rw [roundHalfEven, if_pos hfract, Int.floor_intCast]

theorem roundHalfEven_mono {x y : K} (h : x ≤ y) : roundHalfEven x ≤ roundHalfEven y := by
  have hx := abs_le.mp (abs_sub_roundHalfEven_le x)
  have hy := abs_le.mp (abs_sub_roundHalfEven_le y)
  by_contra! hlt
  have hle : (roundHalfEven y : K) + 1 ≤ roundHalfEven x := by exact_mod_cast hlt
  have heq : x = y := by linarith [hx.1, hy.2]
  rw [heq] at hlt
  exact hlt.false

theorem roundHalfEven_neg (x : K) : roundHalfEven (-x) = -roundHalfEven x := by
  by_cases hx : Int.fract x = 0
  · obtain ⟨n, rfl⟩ := Int.fract_eq_zero_iff.mp hx
    rw [← Int.cast_neg, roundHalfEven_intCast, roundHalfEven_intCast]
  · have hfract : Int.fract (-x) = 1 - Int.fract x := Int.fract_neg hx
    have hfloor : ⌊-x⌋ = -⌊x⌋ - 1 := by
      have hsum := Int.floor_add_fract x
      have hneg := Int.floor_add_fract (-x)
      have hcast : ((⌊-x⌋ : ℤ) : K) = ((-⌊x⌋ - 1 : ℤ) : K) := by
        push_cast
        linarith
      exact_mod_cast hcast
    have heven : Even (-⌊x⌋ - 1) ↔ ¬Even ⌊x⌋ := by
      rw [Int.even_sub_one, even_neg]
    simp only [roundHalfEven, hfract, hfloor, heven]
    split_ifs <;> first | omega | linarith

/-- Values more than one apart are rounded to different integers. -/
theorem roundHalfEven_lt_of_add_one_lt {x y : K} (h : x + 1 < y) :
    roundHalfEven x < roundHalfEven y := by
  have hx := abs_le.mp (abs_sub_roundHalfEven_le x)
  have hy := abs_le.mp (abs_sub_roundHalfEven_le y)
  have hlt : (roundHalfEven x : K) < roundHalfEven y := by linarith [hx.1, hy.2]
  exact_mod_cast hlt

def intervalCenter (lower upper : K) : K := (lower + upper) / 2

/-- The representative of `value` modulo `period` nearest to `center`. -/
def nearestRepresentative (period value center : K) : K :=
  value + period * roundHalfEven ((center - value) / period)

omit [IsStrictOrderedRing K] in
theorem nearestRepresentative_congruent (period value center : K) :
    CongruentMod period value (nearestRepresentative period value center) := ⟨_, rfl⟩

variable {period : K}

theorem abs_nearestRepresentative_sub (hp : 0 < period) (value center : K) :
    |nearestRepresentative period value center - center| =
      period * |(center - value) / period - roundHalfEven ((center - value) / period)| := by
  have he : nearestRepresentative period value center - center =
      -(period * ((center - value) / period - roundHalfEven ((center - value) / period))) := by
    rw [nearestRepresentative]
    field_simp
    ring
  rw [he, abs_neg, abs_mul, abs_of_pos hp]

theorem abs_nearestRepresentative_sub_le_half (hp : 0 < period) (value center : K) :
    |nearestRepresentative period value center - center| ≤ period / 2 := by
  rw [abs_nearestRepresentative_sub hp]
  have h := mul_le_mul_of_nonneg_left (abs_sub_roundHalfEven_le ((center - value) / period)) hp.le
  linarith

/-- The nearest representative is at least as near as any congruent value. -/
theorem abs_nearestRepresentative_sub_le (hp : 0 < period) {value other : K}
    (h : CongruentMod period value other) (center : K) :
    |nearestRepresentative period value center - center| ≤ |other - center| := by
  obtain ⟨n, rfl⟩ := h
  have hother : |value + period * n - center| = period * |(center - value) / period - n| := by
    have he : value + period * n - center = -(period * ((center - value) / period - n)) := by
      field_simp
      ring
    rw [he, abs_neg, abs_mul, abs_of_pos hp]
  rw [abs_nearestRepresentative_sub hp, hother]
  exact mul_le_mul_of_nonneg_left (abs_sub_roundHalfEven_le_abs_sub _ n) hp.le

/-- A value within half a period of the centre is its own nearest representative. -/
theorem nearestRepresentative_eq_self (hp : 0 < period) {value center : K}
    (h : |value - center| ≤ period / 2) : nearestRepresentative period value center = value := by
  have hsmall : |(center - value) / period| ≤ 1 / 2 := by
    rw [abs_div, abs_of_pos hp, abs_sub_comm, div_le_iff₀ hp]
    linarith
  simp [nearestRepresentative, roundHalfEven_eq_zero hsmall]

/-- Representatives less than a period apart are equal. -/
theorem CongruentMod.eq_of_abs_sub_lt (hp : 0 < period) {x y : K} (h : CongruentMod period x y)
    (hlt : |x - y| < period) : x = y := by
  obtain ⟨n, rfl⟩ := h
  have he : |x - (x + period * n)| = period * |((n : ℤ) : K)| := by
    rw [sub_add_cancel_left, abs_neg, abs_mul, abs_of_pos hp]
  rw [he] at hlt
  have hone : |((n : ℤ) : K)| < 1 := by
    by_contra hge
    have hmul := mul_le_mul_of_nonneg_left (not_lt.mp hge) hp.le
    linarith
  have hzero : n = 0 := by
    have hn : |n| < 1 := by exact_mod_cast hone
    exact Int.abs_lt_one_iff.mp hn
  rw [hzero, Int.cast_zero, mul_zero, add_zero]

theorem nearestRepresentative_eq (hp : 0 < period) {value other center : K}
    (h : CongruentMod period value other) (hlt : |other - center| < period / 2) :
    nearestRepresentative period value center = other := by
  have hcongruent := (nearestRepresentative_congruent period value center).symm.trans h
  apply hcongruent.eq_of_abs_sub_lt hp
  have hnear := abs_nearestRepresentative_sub_le_half hp value center
  have htri := abs_sub_le (nearestRepresentative period value center) center other
  rw [abs_sub_comm center other] at htri
  linarith

omit [FloorRing K] in
theorem abs_sub_intervalCenter_le_iff {x lower upper : K} :
    |x - intervalCenter lower upper| ≤ (upper - lower) / 2 ↔ lower ≤ x ∧ x ≤ upper := by
  rw [intervalCenter, abs_le]
  constructor
  · rintro ⟨hlow, hhigh⟩
    constructor <;> linarith
  · rintro ⟨hlow, hhigh⟩
    constructor <;> linarith

/-- The representative nearest to the centre is in an interval if any is. -/
theorem nearestRepresentative_mem_iff (hp : 0 < period) {value lower upper : K} :
    (lower ≤ nearestRepresentative period value (intervalCenter lower upper) ∧
        nearestRepresentative period value (intervalCenter lower upper) ≤ upper) ↔
      ∃ other, CongruentMod period value other ∧ lower ≤ other ∧ other ≤ upper := by
  constructor
  · intro h
    exact ⟨_, nearestRepresentative_congruent _ _ _, h⟩
  · rintro ⟨other, hother, hmem⟩
    apply abs_sub_intervalCenter_le_iff.mp
    exact (abs_nearestRepresentative_sub_le hp hother _).trans
      (abs_sub_intervalCenter_le_iff.mpr hmem)

@[simp] theorem nearestRepresentative_idem (hp : 0 < period) (value center : K) :
    nearestRepresentative period (nearestRepresentative period value center) center =
      nearestRepresentative period value center :=
  nearestRepresentative_eq_self hp (abs_nearestRepresentative_sub_le_half hp value center)

/-- The least representative of `value` at or above `lower`. -/
def leastRepresentative (period value lower : K) : K :=
  value + ⌈(lower - value) / period⌉ * period

omit [IsStrictOrderedRing K] in
theorem leastRepresentative_congruent (period value lower : K) :
    CongruentMod period value (leastRepresentative period value lower) :=
  ⟨_, by rw [leastRepresentative, mul_comm]⟩

theorem le_leastRepresentative (hp : 0 < period) (value lower : K) :
    lower ≤ leastRepresentative period value lower := by
  have h := (div_le_iff₀ hp).mp (Int.le_ceil ((lower - value) / period))
  rw [leastRepresentative]
  linarith

/-- Every representative at or above `lower` is at least the least one. -/
theorem leastRepresentative_le (hp : 0 < period) {value lower other : K}
    (h : CongruentMod period value other) (hl : lower ≤ other) :
    leastRepresentative period value lower ≤ other := by
  obtain ⟨n, rfl⟩ := h
  have hn : (lower - value) / period ≤ n := by
    rw [div_le_iff₀ hp]
    linarith
  have hceil : (⌈(lower - value) / period⌉ : K) ≤ n := by exact_mod_cast Int.ceil_le.mpr hn
  have hmul := mul_le_mul_of_nonneg_right hceil hp.le
  rw [leastRepresentative]
  linarith

end SmolVlaQgf.PeriodicRepresentatives
