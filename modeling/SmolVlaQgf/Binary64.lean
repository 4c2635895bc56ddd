import SmolVlaQgf.FloatRounding
import SmolVlaQgf.PeriodicRepresentatives
import Mathlib.Data.Int.Log
import Mathlib.Data.Rat.Floor
import Mathlib.Tactic.NormNum
import Mathlib.Tactic.Positivity

/-!
# Binary64 rounding

Round to nearest, ties to even, with 53 significant bits, gradual underflow and overflow to an
infinity, on the rationals.
-/

namespace SmolVlaQgf.Binary64
open ExactFloats FloatRounding PeriodicRepresentatives

/-- `2 ^ e` -/
def powerOfTwo (e : ℤ) : ℚ :=
  if 0 ≤ e then (2 ^ e.toNat : ℕ) else ((2 ^ (-e).toNat : ℕ) : ℚ)⁻¹

def lastExponent (x : ℚ) : ℤ := max (Int.log 2 |x| - 52) (-1074)

def nearestMultiple (x : ℚ) : ℚ :=
  roundHalfEven (x / powerOfTwo (lastExponent x)) * powerOfTwo (lastExponent x)

def toDouble (x : ℚ) : PyFloat ℚ :=
  if powerOfTwo 1024 ≤ nearestMultiple x then .posInf
  else if nearestMultiple x ≤ -powerOfTwo 1024 then .negInf
  else .finite (nearestMultiple x)

example : toDouble (1 / 10) = .finite (3602879701896397 / 36028797018963968) := by decide +kernel

theorem powerOfTwo_eq (e : ℤ) : powerOfTwo e = 2 ^ e := by
  rw [powerOfTwo]
  split_ifs with he
  · obtain ⟨n, rfl⟩ := Int.eq_ofNat_of_zero_le he
    simp
  · obtain ⟨n, hn⟩ := Int.eq_ofNat_of_zero_le (show 0 ≤ -e by omega)
    have heq : e = -(n : ℤ) := by omega
    subst heq
    simp

theorem powerOfTwo_pos (e : ℤ) : 0 < powerOfTwo e := by
  rw [powerOfTwo_eq]
  exact zpow_pos two_pos e

theorem exists_powerOfTwo_eq {e f : ℤ} (h : e ≤ f) : ∃ n : ℤ, powerOfTwo f = n * powerOfTwo e := by
  refine ⟨2 ^ (f - e).toNat, ?_⟩
  have hexponent : f = (f - e).toNat + e := by omega
  rw [powerOfTwo_eq, powerOfTwo_eq]
  push_cast
  nth_rewrite 1 [hexponent]
  rw [zpow_add₀ two_ne_zero, zpow_natCast]

theorem powerOfTwo_mono {e f : ℤ} (h : e ≤ f) : powerOfTwo e ≤ powerOfTwo f := by
  rw [powerOfTwo_eq, powerOfTwo_eq]
  exact zpow_le_zpow_right₀ one_le_two h

theorem powerOfTwo_add (e f : ℤ) : powerOfTwo (e + f) = powerOfTwo e * powerOfTwo f := by
  rw [powerOfTwo_eq, powerOfTwo_eq, powerOfTwo_eq, zpow_add₀ two_ne_zero]

theorem powerOfTwo_succ (e : ℤ) : powerOfTwo (e + 1) = 2 * powerOfTwo e := by
  rw [powerOfTwo_eq, powerOfTwo_eq, zpow_add_one₀ two_ne_zero, mul_comm]

theorem powerOfTwo_bits (e : ℤ) : powerOfTwo (53 + e) = ((2 ^ 53 : ℤ) : ℚ) * powerOfTwo e := by
  rw [powerOfTwo_add]
  rfl

/-! ## Nearest multiples -/

theorem lastExponent_neg (x : ℚ) : lastExponent (-x) = lastExponent x := by
  rw [lastExponent, lastExponent, abs_neg]

theorem nearestMultiple_neg (x : ℚ) : nearestMultiple (-x) = -nearestMultiple x := by
  rw [nearestMultiple, nearestMultiple, lastExponent_neg, neg_div, roundHalfEven_neg]
  push_cast
  ring

theorem nearestMultiple_eq_self {x : ℚ} {n : ℤ} (h : x = n * powerOfTwo (lastExponent x)) :
    nearestMultiple x = x := by
  have hdiv : x / powerOfTwo (lastExponent x) = n :=
    (div_eq_iff (powerOfTwo_pos _).ne').mpr h
  rw [nearestMultiple, hdiv, roundHalfEven_intCast]
  exact h.symm

theorem nearestMultiple_zero : nearestMultiple 0 = 0 :=
  nearestMultiple_eq_self (n := 0) (by simp)

/-- Multiples of the last bit bound the result as they bound the number. -/
theorem nearestMultiple_le {x : ℚ} {n : ℤ} (h : x ≤ n * powerOfTwo (lastExponent x)) :
    nearestMultiple x ≤ n * powerOfTwo (lastExponent x) := by
  have hpos := powerOfTwo_pos (lastExponent x)
  have hround := roundHalfEven_mono ((div_le_iff₀ hpos).mpr h)
  rw [roundHalfEven_intCast] at hround
  exact mul_le_mul_of_nonneg_right (Int.cast_le.mpr hround) hpos.le

theorem le_nearestMultiple {x : ℚ} {n : ℤ} (h : n * powerOfTwo (lastExponent x) ≤ x) :
    n * powerOfTwo (lastExponent x) ≤ nearestMultiple x := by
  have hpos := powerOfTwo_pos (lastExponent x)
  have hround := roundHalfEven_mono ((le_div_iff₀ hpos).mpr h)
  rw [roundHalfEven_intCast] at hround
  exact mul_le_mul_of_nonneg_right (Int.cast_le.mpr hround) hpos.le

theorem nearestMultiple_nonneg {x : ℚ} (h : 0 ≤ x) : 0 ≤ nearestMultiple x := by
  have hle := le_nearestMultiple (x := x) (n := 0) (by simpa using h)
  simpa using hle

theorem nearestMultiple_mono_of_pos {x y : ℚ} (hx : 0 < x) (hxy : x ≤ y) :
    nearestMultiple x ≤ nearestMultiple y := by
  have hy := hx.trans_le hxy
  have hlog : Int.log 2 x ≤ Int.log 2 y := Int.log_mono_right hx hxy
  have hexponent : lastExponent x ≤ lastExponent y := by
    rw [lastExponent, lastExponent, abs_of_pos hx, abs_of_pos hy]
    omega
  rcases hexponent.lt_or_eq with hlt | heq
  · -- the power of two at or below `y` lies between the two
    have hx' : x ≤ powerOfTwo (Int.log 2 y) := by
      have hupper := Int.lt_zpow_succ_log_self (b := 2) one_lt_two x
      have hmono := powerOfTwo_mono (show Int.log 2 x + 1 ≤ Int.log 2 y by
        rw [lastExponent, lastExponent, abs_of_pos hx, abs_of_pos hy] at hlt
        omega)
      rw [powerOfTwo_eq] at hmono
      exact hupper.le.trans hmono
    have hy' : powerOfTwo (Int.log 2 y) ≤ y := by
      rw [powerOfTwo_eq]
      exact Int.zpow_log_le_self one_lt_two hy
    have hlast : lastExponent y = Int.log 2 y - 52 := by
      rw [lastExponent, lastExponent, abs_of_pos hx, abs_of_pos hy] at hlt
      rw [lastExponent, abs_of_pos hy]
      omega
    obtain ⟨m, hm⟩ := exists_powerOfTwo_eq (show lastExponent y ≤ Int.log 2 y by omega)
    obtain ⟨n, hn⟩ := exists_powerOfTwo_eq (show lastExponent x ≤ Int.log 2 y by omega)
    calc nearestMultiple x ≤ n * powerOfTwo (lastExponent x) := nearestMultiple_le (hn ▸ hx')
      _ = m * powerOfTwo (lastExponent y) := hn.symm.trans hm
      _ ≤ nearestMultiple y := le_nearestMultiple (hm ▸ hy')
  · rw [nearestMultiple, nearestMultiple, heq]
    have hpos := powerOfTwo_pos (lastExponent y)
    exact mul_le_mul_of_nonneg_right
      (Int.cast_le.mpr (roundHalfEven_mono (div_le_div_of_nonneg_right hxy hpos.le))) hpos.le

theorem nearestMultiple_mono {x y : ℚ} (hxy : x ≤ y) : nearestMultiple x ≤ nearestMultiple y := by
  rcases lt_or_ge 0 x with hx | hx
  · exact nearestMultiple_mono_of_pos hx hxy
  · have hnonpos : nearestMultiple x ≤ 0 := by
      have hneg := nearestMultiple_nonneg (neg_nonneg.mpr hx)
      rw [nearestMultiple_neg] at hneg
      exact neg_nonneg.mp hneg
    rcases lt_or_ge y 0 with hy | hy
    · have hneg := nearestMultiple_mono_of_pos (neg_pos.mpr hy) (neg_le_neg hxy)
      rw [nearestMultiple_neg, nearestMultiple_neg] at hneg
      exact neg_le_neg_iff.mp hneg
    · exact hnonpos.trans (nearestMultiple_nonneg hy)

/-- The result has at most 53 bits. -/
theorem abs_roundHalfEven_le (x : ℚ) :
    |roundHalfEven (x / powerOfTwo (lastExponent x))| ≤ 2 ^ 53 := by
  have hpos := powerOfTwo_pos (lastExponent x)
  have hupper := Int.lt_zpow_succ_log_self (b := 2) one_lt_two |x|
  have hexponent : Int.log 2 |x| + 1 ≤ 53 + lastExponent x := by
    rw [lastExponent]
    omega
  have hmono := powerOfTwo_mono hexponent
  rw [powerOfTwo_bits, powerOfTwo_eq] at hmono
  have habs : |x / powerOfTwo (lastExponent x)| ≤ ((2 ^ 53 : ℤ) : ℚ) := by
    rw [abs_div, abs_of_pos hpos, div_le_iff₀ hpos]
    exact hupper.le.trans hmono
  obtain ⟨hlow, hhigh⟩ := abs_le.mp habs
  rw [← Int.cast_neg] at hlow
  have hround := roundHalfEven_mono hlow
  have hround' := roundHalfEven_mono hhigh
  rw [roundHalfEven_intCast] at hround hround'
  exact abs_le.mpr ⟨hround, hround'⟩

theorem nearestMultiple_of_bits {n e : ℤ} (hn : |n| ≤ 2 ^ 53) (he : -1074 ≤ e) :
    nearestMultiple (n * powerOfTwo e) = n * powerOfTwo e := by
  by_cases hzero : n = 0
  · rw [hzero, Int.cast_zero, zero_mul, nearestMultiple_zero]
  have hpos := powerOfTwo_pos e
  have habs : |(n : ℚ) * powerOfTwo e| = (|n| : ℤ) * powerOfTwo e := by
    rw [abs_mul, abs_of_pos hpos, Int.cast_abs]
  have hne : (0 : ℚ) < |(n : ℚ) * powerOfTwo e| :=
    abs_pos.mpr (mul_ne_zero (Int.cast_ne_zero.mpr hzero) hpos.ne')
  have hlog := Int.zpow_log_le_self (b := 2) one_lt_two hne
  rcases hn.lt_or_eq with hlt | heq
  · -- fewer than 54 bits: the last bit is not above `e`
    have hbound : (2 : ℚ) ^ Int.log 2 |(n : ℚ) * powerOfTwo e| < 2 ^ (53 + e) := by
      refine hlog.trans_lt ?_
      rw [habs, ← powerOfTwo_eq, powerOfTwo_bits]
      exact mul_lt_mul_of_pos_right (Int.cast_lt.mpr hlt) hpos
    have hexponent := (zpow_lt_zpow_iff_right₀ one_lt_two).mp hbound
    obtain ⟨m, hm⟩ := exists_powerOfTwo_eq
      (show lastExponent (n * powerOfTwo e) ≤ e by
        rw [lastExponent]
        omega)
    refine nearestMultiple_eq_self (n := n * m) ?_
    rw [Int.cast_mul, mul_assoc, ← hm]
  · -- a power of two has a last bit that is not above it
    have hpower : |(n : ℚ) * powerOfTwo e| = powerOfTwo (53 + e) := by
      rw [habs, heq, powerOfTwo_bits]
    have hexponent : Int.log 2 |(n : ℚ) * powerOfTwo e| ≤ 53 + e := by
      rw [hpower, powerOfTwo_eq] at hlog
      rw [hpower, powerOfTwo_eq]
      exact (zpow_le_zpow_iff_right₀ one_lt_two).mp hlog
    obtain ⟨m, hm⟩ := exists_powerOfTwo_eq
      (show lastExponent (n * powerOfTwo e) ≤ 53 + e by
        rw [lastExponent]
        omega)
    rcases abs_choice ((n : ℚ) * powerOfTwo e) with hsign | hsign
    · refine nearestMultiple_eq_self (n := m) ?_
      rw [← hm, ← hpower, hsign]
    · refine nearestMultiple_eq_self (n := -m) ?_
      rw [Int.cast_neg, neg_mul, ← hm, ← hpower, hsign, neg_neg]

theorem nearestMultiple_idem (x : ℚ) : nearestMultiple (nearestMultiple x) = nearestMultiple x :=
  nearestMultiple_of_bits (abs_roundHalfEven_le x) (le_max_right _ _)

/-- The error is at most half of the last bit. -/
theorem abs_nearestMultiple_sub_le (x : ℚ) :
    |nearestMultiple x - x| ≤ powerOfTwo (lastExponent x) / 2 := by
  have hpos := powerOfTwo_pos (lastExponent x)
  have hhalf := abs_sub_roundHalfEven_le (x / powerOfTwo (lastExponent x))
  have heq : nearestMultiple x - x =
      -((x / powerOfTwo (lastExponent x) - roundHalfEven (x / powerOfTwo (lastExponent x))) *
        powerOfTwo (lastExponent x)) := by
    rw [nearestMultiple]
    field_simp
    ring
  rw [heq, abs_neg, abs_mul, abs_of_pos hpos]
  calc _ ≤ 1 / 2 * powerOfTwo (lastExponent x) := mul_le_mul_of_nonneg_right hhalf hpos.le
    _ = powerOfTwo (lastExponent x) / 2 := by ring

/-- Above the smallest exponent the last bit is small against the number. -/
theorem powerOfTwo_lastExponent_le {x : ℚ} (hx : x ≠ 0) (h : -1074 ≤ Int.log 2 |x| - 52) :
    powerOfTwo (lastExponent x) / 2 ≤ powerOfTwo (-53) * |x| := by
  have hlog := Int.zpow_log_le_self (b := 2) one_lt_two (abs_pos.mpr hx)
  have hlast : lastExponent x = Int.log 2 |x| + (-53) + 1 := by
    rw [lastExponent]
    omega
  rw [hlast, powerOfTwo_succ, powerOfTwo_eq, powerOfTwo_eq, zpow_add₀ two_ne_zero]
  have hscale : (0 : ℚ) < 2 ^ (-53 : ℤ) := by positivity
  calc 2 * (2 ^ Int.log 2 |x| * 2 ^ (-53 : ℤ)) / 2 = 2 ^ (-53 : ℤ) * 2 ^ Int.log 2 |x| := by ring
    _ ≤ 2 ^ (-53 : ℤ) * |x| := mul_le_mul_of_nonneg_left hlog hscale.le

theorem nearestMultiple_error (x : ℚ) :
    |nearestMultiple x - x| ≤ powerOfTwo (-53) * |x| + powerOfTwo (-1075) := by
  have herror := abs_nearestMultiple_sub_le x
  have hrelative : 0 ≤ powerOfTwo (-53) * |x| :=
    mul_nonneg (powerOfTwo_pos _).le (abs_nonneg x)
  by_cases hx : x = 0
  · rw [hx, nearestMultiple_zero, sub_zero, abs_zero, mul_zero, zero_add]
    exact (powerOfTwo_pos _).le
  · by_cases h : -1074 ≤ Int.log 2 |x| - 52
    · have hle := powerOfTwo_lastExponent_le hx h
      have hpos := powerOfTwo_pos (-1075)
      linarith
    · have hlast : lastExponent x = -1075 + 1 := by
        rw [lastExponent]
        omega
      rw [hlast, powerOfTwo_succ] at herror
      linarith

/-! ## Doubles -/

theorem toDouble_mono {x y : ℚ} (h : x ≤ y) : (toDouble x).le (toDouble y) = true := by
  have hle := nearestMultiple_mono h
  rw [toDouble, toDouble]
  split_ifs <;>
    first | rfl | (simp only [PyFloat.finite_le_finite]; exact hle) | (exfalso; linarith)

theorem eq_of_toDouble_eq {x y : ℚ} (h : toDouble x = .finite y) : nearestMultiple x = y := by
  rw [toDouble] at h
  split_ifs at h
  exact PyFloat.finite.inj h

theorem toDouble_idem {x y : ℚ} (h : toDouble x = .finite y) : toDouble y = .finite y := by
  have hnearest := eq_of_toDouble_eq h
  have hidem := nearestMultiple_idem x
  rw [hnearest] at hidem
  rw [toDouble, hnearest] at h
  rw [toDouble, hidem]
  exact h

theorem exists_multiple_of_toDouble {x : ℚ} (h : toDouble x = .finite x) :
    ∃ n : ℤ, x = n * powerOfTwo (-1074) := by
  obtain ⟨m, hm⟩ := exists_powerOfTwo_eq (le_max_right (Int.log 2 |x| - 52) (-1074))
  refine ⟨roundHalfEven (x / powerOfTwo (lastExponent x)) * m, ?_⟩
  have heq := eq_of_toDouble_eq h
  rw [nearestMultiple] at heq
  rw [Int.cast_mul, mul_assoc, ← hm]
  exact heq.symm

theorem toDouble_sub_error {x y d : ℚ} (hx : toDouble x = .finite x) (hy : toDouble y = .finite y)
    (h : toDouble (x - y) = .finite d) : |d - (x - y)| ≤ powerOfTwo (-53) * |x - y| := by
  obtain rfl := eq_of_toDouble_eq h
  have hrelative : 0 ≤ powerOfTwo (-53) * |x - y| :=
    mul_nonneg (powerOfTwo_pos _).le (abs_nonneg _)
  by_cases hzero : x - y = 0
  · rw [hzero, nearestMultiple_zero]
    simp
  · by_cases hlog : -1074 ≤ Int.log 2 |x - y| - 52
    · exact (abs_nearestMultiple_sub_le _).trans (powerOfTwo_lastExponent_le hzero hlog)
    · obtain ⟨m, hm⟩ := exists_multiple_of_toDouble hx
      obtain ⟨n, hn⟩ := exists_multiple_of_toDouble hy
      have hlast : lastExponent (x - y) = -1074 := by
        rw [lastExponent]
        omega
      have hself : nearestMultiple (x - y) = x - y := by
        refine nearestMultiple_eq_self (n := m - n) ?_
        rw [hlast]
        push_cast
        rw [sub_mul, ← hm, ← hn]
      rwa [hself, sub_self, abs_zero]

private theorem toDouble_ne_nan (x : ℚ) : toDouble x ≠ .nan := by
  rw [toDouble]
  split_ifs <;> simp

private theorem toDouble_zero : toDouble 0 = .finite 0 := by decide +kernel

private theorem toDouble_one : toDouble 1 = .finite 1 := by decide +kernel

private theorem exists_le_toDouble (d : ℚ) : ∃ x, (PyFloat.finite d).le (toDouble x) = true := by
  have hoverflow : toDouble (powerOfTwo 1024) = .posInf := by decide +kernel
  exact ⟨powerOfTwo 1024, by rw [hoverflow, PyFloat.le]⟩

def unitRoundoff : ℚ := powerOfTwo (-53)

def underflow : ℚ := powerOfTwo (-1075)

private theorem unitRoundoff_nonneg : 0 ≤ unitRoundoff := (powerOfTwo_pos _).le

private theorem unitRoundoff_lt_one : unitRoundoff < 1 := by decide +kernel

private theorem underflow_nonneg : 0 ≤ underflow := (powerOfTwo_pos _).le

private theorem toDouble_error {x y : ℚ} (h : toDouble x = .finite y) :
    |y - x| ≤ unitRoundoff * |x| + underflow :=
  eq_of_toDouble_eq h ▸ nearestMultiple_error x

instance : Rounding ℚ where
  toFloat := toDouble
  toFloat_ne_nan := toDouble_ne_nan
  toFloat_mono := toDouble_mono
  toFloat_idem := toDouble_idem
  toFloat_zero := toDouble_zero
  toFloat_one := toDouble_one
  exists_le_toFloat := exists_le_toDouble
  unitRoundoff := unitRoundoff
  underflow := underflow
  unitRoundoff_nonneg := unitRoundoff_nonneg
  unitRoundoff_lt_one := unitRoundoff_lt_one
  underflow_nonneg := underflow_nonneg
  toFloat_error := toDouble_error
  sub_error := toDouble_sub_error

end SmolVlaQgf.Binary64
