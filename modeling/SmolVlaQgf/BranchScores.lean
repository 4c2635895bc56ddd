import SmolVlaQgf.FloatRounding
import Mathlib.Algebra.Order.Ring.Cast
import Mathlib.Tactic.FieldSimp

/-!
# Scores of counterfactual branches

A failure scores 0 and a success 1 with a bonus for the share of the steps that it left. The score
is computed in floats: it never increases with the steps, but a small bonus can be lost in the
rounding.
-/

namespace SmolVlaQgf.BranchScores
open ExactFloats FloatRounding

variable {K : Type} [Field K] [LinearOrder K] [Rounding K]

/-- `float(total_steps) / max(1, max_steps)` -/
def stepFraction (totalSteps maxSteps : ℤ) : PyFloat K :=
  (toFloat (totalSteps : K)).div (toFloat ((max 1 maxSteps : ℤ) : K))

/-- `remaining_fraction` -/
def remainingFraction (totalSteps maxSteps : ℤ) : PyFloat K :=
  (PyFloat.finite 0).max ((PyFloat.finite 1).sub (stepFraction totalSteps maxSteps))

/-- `_score_branch` -/
def scoreBranch (success : Bool) (totalSteps maxSteps : ℤ) (stepBonus : K) : PyFloat K :=
  if !success then .finite 0
  else (PyFloat.finite 1).add
    ((PyFloat.finite stepBonus).mul (remainingFraction totalSteps maxSteps))

variable [IsStrictOrderedRing K] {totalSteps fewer more maxSteps : ℤ} {stepBonus : K}

private theorem one_le_limit (maxSteps : ℤ) :
    (PyFloat.finite 1).le (toFloat ((max 1 maxSteps : ℤ) : K)) = true := by
  have hone : (1 : K) ≤ (max 1 maxSteps : ℤ) := by exact_mod_cast le_max_left 1 maxSteps
  exact Rounding.toFloat_one (K := K) ▸ Rounding.toFloat_mono hone

private theorem steps_nonneg (h : 0 ≤ totalSteps) :
    (PyFloat.finite 0).le (toFloat (totalSteps : K)) = true :=
  toFloat_nonneg (by exact_mod_cast h)

/-- A difference from one is at most one if something is subtracted. -/
private theorem max_sub_cases {fraction : PyFloat K}
    (h : fraction = .nan ∨ (PyFloat.finite 0).le fraction = true) :
    ∃ r, (PyFloat.finite 0).max ((PyFloat.finite 1).sub fraction) = .finite r ∧ 0 ≤ r ∧ r ≤ 1 := by
  have hle : (PyFloat.finite 1).sub fraction = .nan ∨
      ((PyFloat.finite 1).sub fraction).le (.finite 1) = true := by
    rcases h with rfl | h
    · exact Or.inl rfl
    · have hsub := PyFloat.sub_le_sub_left h 1
      rw [PyFloat.sub.eq_1 (1 : K) 0, sub_zero, Rounding.toFloat_one] at hsub
      exact Or.inr hsub
  rw [PyFloat.max]
  split_ifs with hpos
  · cases hvalue : (PyFloat.finite 1).sub fraction with
    | finite r =>
      rw [hvalue] at hpos hle
      have hone := hle.resolve_left (by simp)
      exact ⟨r, rfl, (PyFloat.finite_lt_finite.mp hpos).le, PyFloat.finite_le_finite.mp hone⟩
    | posInf =>
      rw [hvalue] at hle
      rcases hle with hle | hle <;> cases hle
    | negInf | nan =>
      rw [hvalue] at hpos
      cases hpos
  · exact ⟨0, rfl, le_rfl, zero_le_one⟩

theorem exists_remainingFraction (h : 0 ≤ totalSteps) (maxSteps : ℤ) :
    ∃ r : K, remainingFraction totalSteps maxSteps = .finite r ∧ 0 ≤ r ∧ r ≤ 1 := by
  have hsteps := steps_nonneg (K := K) h
  have hlimit := one_le_limit (K := K) maxSteps
  refine max_sub_cases ?_
  rw [stepFraction]
  cases hl : toFloat ((max 1 maxSteps : ℤ) : K) with
  | finite y =>
    rw [hl] at hlimit
    have hpos : 0 < y := zero_lt_one.trans_le (PyFloat.finite_le_finite.mp hlimit)
    have hdiv := PyFloat.div_le_div hsteps hpos
    rw [PyFloat.div, zero_div, Rounding.toFloat_zero] at hdiv
    exact Or.inr hdiv
  | posInf =>
    cases hs : toFloat (totalSteps : K) with
    | finite x => exact Or.inr (PyFloat.finite_le_finite.mpr le_rfl)
    | posInf | negInf | nan => exact Or.inl rfl
  | negInf | nan =>
    rw [hl] at hlimit
    cases hlimit

theorem remainingFraction_antitone (h : 0 ≤ fewer) (hle : fewer ≤ more) (maxSteps : ℤ) :
    (remainingFraction (K := K) more maxSteps).le (remainingFraction fewer maxSteps) = true := by
  have hlimit := one_le_limit (K := K) maxSteps
  have hsteps : (toFloat (fewer : K)).le (toFloat (more : K)) = true :=
    Rounding.toFloat_mono (by exact_mod_cast hle)
  cases hl : toFloat ((max 1 maxSteps : ℤ) : K) with
  | finite y =>
    rw [hl] at hlimit
    have hpos : 0 < y := zero_lt_one.trans_le (PyFloat.finite_le_finite.mp hlimit)
    rw [remainingFraction, remainingFraction, stepFraction, stepFraction, hl]
    exact PyFloat.max_le_max_left (by simp)
      (PyFloat.sub_le_sub_left (PyFloat.div_le_div hsteps hpos) 1)
  | posInf =>
    -- over an infinite limit a finite count leaves everything
    obtain ⟨r, hr, -, hr1⟩ := exists_remainingFraction (K := K) (h.trans hle) maxSteps
    cases hf : toFloat (fewer : K) with
    | finite x =>
      have hone : remainingFraction (K := K) fewer maxSteps = .finite 1 := by
        rw [remainingFraction, stepFraction, hl, hf, PyFloat.div, PyFloat.sub, sub_zero,
          Rounding.toFloat_one]
        · exact if_pos (PyFloat.finite_lt_finite.mpr zero_lt_one)
        all_goals simp
      rw [hr, hone]
      exact PyFloat.finite_le_finite.mpr hr1
    | posInf =>
      rw [hf] at hsteps
      have hsame : toFloat (more : K) = .posInf := by
        cases hm : toFloat (more : K) <;> rw [hm] at hsteps <;> first | rfl | cases hsteps
      have hsteps : remainingFraction (K := K) fewer maxSteps =
          remainingFraction more maxSteps := by
        rw [remainingFraction, remainingFraction, stepFraction, stepFraction, hf, hsame]
      rw [hsteps, hr]
      exact PyFloat.finite_le_finite.mpr le_rfl
    | negInf | nan =>
      have hnonneg := steps_nonneg (K := K) h
      rw [hf] at hnonneg
      cases hnonneg
  | negInf | nan =>
    rw [hl] at hlimit
    cases hlimit

theorem one_le_scoreBranch (hbonus : 0 ≤ stepBonus) (h : 0 ≤ totalSteps) (maxSteps : ℤ) :
    (PyFloat.finite 1).le (scoreBranch true totalSteps maxSteps stepBonus) = true := by
  obtain ⟨r, hr, hr0, -⟩ := exists_remainingFraction (K := K) h maxSteps
  have hterm := toFloat_nonneg (mul_nonneg hbonus hr0)
  have hsum := PyFloat.add_le_add_left hterm 1
  rw [PyFloat.add, add_zero, Rounding.toFloat_one] at hsum
  rw [scoreBranch, hr]
  exact hsum

theorem scoreBranch_nonneg (hbonus : 0 ≤ stepBonus) (success : Bool) (h : 0 ≤ totalSteps)
    (maxSteps : ℤ) :
    (PyFloat.finite 0).le (scoreBranch success totalSteps maxSteps stepBonus) = true := by
  cases success with
  | false => exact PyFloat.finite_le_finite.mpr le_rfl
  | true =>
    have hone := one_le_scoreBranch hbonus h maxSteps
    exact PyFloat.le_trans (PyFloat.finite_le_finite.mpr zero_le_one) hone

/-- Of two successes the one with fewer steps does not score lower. -/
theorem scoreBranch_antitone (hbonus : 0 ≤ stepBonus) (h : 0 ≤ fewer) (hle : fewer ≤ more)
    (maxSteps : ℤ) :
    (scoreBranch true more maxSteps stepBonus).le (scoreBranch true fewer maxSteps stepBonus) =
      true := by
  obtain ⟨r, hr, -, -⟩ := exists_remainingFraction (K := K) h maxSteps
  obtain ⟨r', hr', -, -⟩ := exists_remainingFraction (K := K) (h.trans hle) maxSteps
  have hremaining := remainingFraction_antitone (K := K) h hle maxSteps
  rw [hr, hr', PyFloat.finite_le_finite] at hremaining
  have hterm := Rounding.toFloat_mono (mul_le_mul_of_nonneg_left hremaining hbonus)
  rw [scoreBranch, scoreBranch, hr, hr']
  exact PyFloat.add_le_add_left hterm 1

/-- Adding a margin to a float that is rounded gives no smaller one. -/
private theorem toFloat_le_add (x : K) {margin : K} (hmargin : 0 ≤ margin) :
    (toFloat x).le ((toFloat x).add (.finite margin)) = true := by
  cases hx : toFloat x with
  | finite y =>
    have hmono := Rounding.toFloat_mono (le_add_of_nonneg_right hmargin : y ≤ y + margin)
    rw [Rounding.toFloat_idem hx] at hmono
    exact hmono
  | posInf | negInf => rfl
  | nan => exact absurd hx (Rounding.toFloat_ne_nan x)

theorem scoreBranch_le_add (success : Bool) (h : 0 ≤ totalSteps) (maxSteps : ℤ) (stepBonus : K)
    {margin : K} (hmargin : 0 ≤ margin) :
    (scoreBranch success totalSteps maxSteps stepBonus).le
      ((scoreBranch success totalSteps maxSteps stepBonus).add (.finite margin)) = true := by
  cases success with
  | false =>
    have hle := toFloat_le_add 0 hmargin
    rw [Rounding.toFloat_zero] at hle
    exact hle
  | true =>
    obtain ⟨r, hr, -, -⟩ := exists_remainingFraction (K := K) h maxSteps
    have hscore : scoreBranch true totalSteps maxSteps stepBonus =
        (PyFloat.finite 1).add (toFloat (stepBonus * r)) := by
      rw [scoreBranch, hr]
      rfl
    rw [hscore]
    cases hterm : toFloat (stepBonus * r) with
    | finite p => exact toFloat_le_add (1 + p) hmargin
    | posInf | negInf => rfl
    | nan => exact absurd hterm (Rounding.toFloat_ne_nan _)

/-! ## Bonuses that are not lost in the rounding -/

/-- A number between floats is rounded to a number between them, off by at most the error. -/
private theorem exists_toFloat {x low high : K} (bound : K) (hlow : toFloat low = .finite low)
    (hhigh : toFloat high = .finite high) (hx : low ≤ x) (hx' : x ≤ high) (habs : |x| ≤ bound) :
    ∃ y, toFloat x = .finite y ∧ low ≤ y ∧ y ≤ high ∧
      |y - x| ≤ Rounding.unitRoundoff * bound + Rounding.underflow := by
  have hbelow := Rounding.toFloat_mono hx
  have habove := Rounding.toFloat_mono hx'
  rw [hlow] at hbelow
  rw [hhigh] at habove
  cases hy : toFloat x with
  | finite y =>
    rw [hy] at hbelow habove
    have herror := Rounding.toFloat_error hy
    have hbound := mul_le_mul_of_nonneg_left habs (Rounding.unitRoundoff_nonneg (K := K))
    exact ⟨y, rfl, PyFloat.finite_le_finite.mp hbelow, PyFloat.finite_le_finite.mp habove,
      by linarith⟩
  | posInf | nan =>
    rw [hy] at habove
    cases habove
  | negInf =>
    rw [hy] at hbelow
    cases hbelow

private theorem exists_remaining_error (h : 0 ≤ totalSteps) (hle : totalSteps ≤ maxSteps)
    (hpos : 0 < maxSteps) (hsteps : toFloat (totalSteps : K) = .finite (totalSteps : K))
    (hlimit : toFloat (maxSteps : K) = .finite (maxSteps : K)) :
    ∃ r : K, remainingFraction totalSteps maxSteps = .finite r ∧ 0 ≤ r ∧ r ≤ 1 ∧
      |r - (1 - totalSteps / maxSteps)| ≤ 2 * (Rounding.unitRoundoff + Rounding.underflow) := by
  have hmax : max 1 maxSteps = maxSteps := by omega
  have hcast : (0 : K) < maxSteps := by exact_mod_cast hpos
  have hsteps0 : (0 : K) ≤ totalSteps := by exact_mod_cast h
  have hq0 : (0 : K) ≤ totalSteps / maxSteps := div_nonneg hsteps0 hcast.le
  have hq1 : (totalSteps : K) / maxSteps ≤ 1 := by
    rw [div_le_one hcast]
    exact_mod_cast hle
  obtain ⟨z, hz, hz0, hz1, hzerror⟩ := exists_toFloat 1 Rounding.toFloat_zero
    Rounding.toFloat_one hq0 hq1 (abs_le.mpr ⟨by linarith, hq1⟩)
  obtain ⟨w, hw, hw0, hw1, hwerror⟩ := exists_toFloat 1 Rounding.toFloat_zero
    Rounding.toFloat_one (sub_nonneg.mpr hz1) (sub_le_self 1 hz0)
      (abs_le.mpr ⟨by linarith, by linarith⟩)
  refine ⟨w, ?_, hw0, hw1, ?_⟩
  · have hnonneg : (PyFloat.finite 0).le (PyFloat.finite w) = true :=
      PyFloat.finite_le_finite.mpr hw0
    rw [remainingFraction, stepFraction, hmax, hsteps, hlimit, PyFloat.div, hz, PyFloat.sub, hw,
      PyFloat.max_eq_right hnonneg]
  · have hz' := abs_le.mp hzerror
    have hw' := abs_le.mp hwerror
    rw [abs_le]
    constructor <;> linarith [hz'.1, hz'.2, hw'.1, hw'.2]

/-- The score of a success is off by at most the errors of the fraction, the bonus and the sum. -/
private theorem exists_score_error (h : 0 ≤ totalSteps) (hle : totalSteps ≤ maxSteps)
    (hpos : 0 < maxSteps) (hbonus : 0 ≤ stepBonus)
    (hsteps : toFloat (totalSteps : K) = .finite (totalSteps : K))
    (hlimit : toFloat (maxSteps : K) = .finite (maxSteps : K))
    (hfloat : toFloat stepBonus = .finite stepBonus) {top : K}
    (htop : toFloat top = .finite top) (hsum : 1 + stepBonus ≤ top) :
    ∃ s : K, scoreBranch true totalSteps maxSteps stepBonus = .finite s ∧
      |s - (1 + stepBonus * (1 - totalSteps / maxSteps))| ≤
        stepBonus * (4 * Rounding.unitRoundoff + 2 * Rounding.underflow) +
          Rounding.unitRoundoff + 2 * Rounding.underflow := by
  obtain ⟨r, hr, hr0, hr1, hrerror⟩ := exists_remaining_error h hle hpos hsteps hlimit
  have hterm0 : 0 ≤ stepBonus * r := mul_nonneg hbonus hr0
  have hterm1 : stepBonus * r ≤ stepBonus := mul_le_of_le_one_right hbonus hr1
  obtain ⟨p, hp, hp0, hp1, hperror⟩ := exists_toFloat stepBonus Rounding.toFloat_zero
    hfloat hterm0 hterm1 (abs_le.mpr ⟨by linarith, hterm1⟩)
  obtain ⟨s, hs, -, -, hserror⟩ := exists_toFloat (x := 1 + p) (1 + stepBonus)
    Rounding.toFloat_one htop (by linarith) (by linarith) (abs_le.mpr ⟨by linarith, by linarith⟩)
  refine ⟨s, ?_, ?_⟩
  · rw [scoreBranch, hr, PyFloat.mul, hp]
    exact hs
  · have hscaled : |stepBonus * (r - (1 - totalSteps / maxSteps))| ≤
        stepBonus * (2 * (Rounding.unitRoundoff + Rounding.underflow)) := by
      rw [abs_mul, abs_of_nonneg hbonus]
      exact mul_le_mul_of_nonneg_left hrerror hbonus
    have hr' := abs_le.mp hscaled
    have hp' := abs_le.mp hperror
    have hs' := abs_le.mp hserror
    rw [abs_le]
    constructor <;> linarith [hr'.1, hr'.2, hp'.1, hp'.2, hs'.1, hs'.2]

/-- The counts up to the limit and the bonus are floats, the highest score does not overflow, and
the share of one step in the bonus is above the rounding errors of two scores. -/
structure AmpleBonus (maxSteps : ℤ) (stepBonus : K) : Prop where
  counts : ∀ steps : ℤ, 0 ≤ steps → steps ≤ maxSteps → toFloat (steps : K) = .finite (steps : K)
  bonus : toFloat stepBonus = .finite stepBonus
  inRange : ∃ top : K, toFloat top = .finite top ∧ 1 + stepBonus ≤ top
  aboveError : stepBonus * (8 * Rounding.unitRoundoff + 4 * Rounding.underflow) +
    2 * Rounding.unitRoundoff + 4 * Rounding.underflow < stepBonus / maxSteps

/-- An ample bonus tells any two counts apart. -/
theorem AmpleBonus.scoreBranch_lt (hample : AmpleBonus maxSteps stepBonus)
    (hbonus : 0 ≤ stepBonus) (h : 0 ≤ fewer) (hlt : fewer < more) (hle : more ≤ maxSteps) :
    (scoreBranch true more maxSteps stepBonus).lt (scoreBranch true fewer maxSteps stepBonus) =
      true := by
  have hpos : 0 < maxSteps := by omega
  have hcast : (0 : K) < maxSteps := by exact_mod_cast hpos
  have hlimit := hample.counts maxSteps hpos.le le_rfl
  obtain ⟨top, htop, hsum⟩ := hample.inRange
  obtain ⟨s, hs, hserror⟩ := exists_score_error h (by omega) hpos hbonus
    (hample.counts fewer h (by omega)) hlimit hample.bonus htop hsum
  obtain ⟨t, ht, hterror⟩ := exists_score_error (by omega) hle hpos hbonus
    (hample.counts more (by omega) hle) hlimit hample.bonus htop hsum
  have hstep : stepBonus / maxSteps ≤
      stepBonus * (1 - fewer / maxSteps) - stepBonus * (1 - more / maxSteps) := by
    have hone : (1 : K) ≤ more - fewer := by exact_mod_cast (by omega : (1 : ℤ) ≤ more - fewer)
    calc stepBonus / maxSteps = stepBonus * 1 / maxSteps := by rw [mul_one]
      _ ≤ stepBonus * (more - fewer) / maxSteps :=
          div_le_div_of_nonneg_right (mul_le_mul_of_nonneg_left hone hbonus) hcast.le
      _ = _ := by ring
  rw [hs, ht, PyFloat.finite_lt_finite]
  linarith [(abs_le.mp hserror).1, (abs_le.mp hterror).2, hample.aboveError]

end SmolVlaQgf.BranchScores
