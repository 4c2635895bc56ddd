import Mathlib.Analysis.Calculus.FDeriv.WithLp
import Mathlib.Analysis.Calculus.Gradient.Basic
import Mathlib.Analysis.InnerProductSpace.PiL2

/-!
# Gradients by coordinates and clipped vectors

The gradient of a function of a table is the table of its partial derivatives. Where a function
is a sum of functions of single components, its derivative along one component is that of one
summand. A vector that is scaled down to a norm keeps its direction and does not exceed it.
-/

namespace SmolVlaQgf.ClippedGradients
open scoped RealInnerProductSpace

/-! ## Coordinates -/

section Coordinates

variable {ι : Type} [Fintype ι] [DecidableEq ι] {f : (ι → ℝ) → ℝ} {gradient x : ι → ℝ}

theorem hasGradientAt_of_partial (hf : DifferentiableAt ℝ f x)
    (h : ∀ i, gradient i = fderiv ℝ f x (Pi.single i 1)) :
    HasGradientAt (fun v : EuclideanSpace ℝ ι => f v.ofLp) (WithLp.toLp 2 gradient)
      (WithLp.toLp 2 x) := by
  have hcomp : HasFDerivAt (fun v : EuclideanSpace ℝ ι => f v.ofLp)
      (fderiv ℝ f x ∘L (PiLp.continuousLinearEquiv 2 ℝ fun _ : ι => ℝ).toContinuousLinearMap)
      (WithLp.toLp 2 x) :=
    HasFDerivAt.comp (WithLp.toLp 2 x) hf.hasFDerivAt (PiLp.hasFDerivAt_ofLp 2 _)
  rw [hasGradientAt_iff_hasFDerivAt]
  refine hcomp.congr_fderiv (ContinuousLinearMap.ext fun v => ?_)
  have hcoordinates := LinearMap.pi_apply_eq_sum_univ (fderiv ℝ f x).toLinearMap v.ofLp
  rw [InnerProductSpace.toDual_apply_apply, PiLp.inner_apply]
  refine hcoordinates.trans (Finset.sum_congr rfl fun i _ => ?_)
  have hsingle : (fun j => if i = j then 1 else 0) = (Pi.single i 1 : ι → ℝ) := by
    funext j
    simp [Pi.single_apply, eq_comm]
  rw [hsingle]
  simp [h]

omit [DecidableEq ι] in
theorem norm_toLp (v : ι → ℝ) : ‖(WithLp.toLp 2 v : EuclideanSpace ℝ ι)‖ = √(∑ i, v i ^ 2) := by
  rw [EuclideanSpace.norm_eq]
  simp

end Coordinates

/-! ## Sums over components -/

section Sums

variable {β : Type} [Fintype β] {E : Type} [NormedAddCommGroup E] [NormedSpace ℝ E]
  {f : β → E → ℝ} {x : β → E}

theorem hasFDerivAt_sum (h : ∀ b, DifferentiableAt ℝ (f b) (x b)) :
    HasFDerivAt (fun y : β → E => ∑ b, f b (y b))
      (∑ b, fderiv ℝ (f b) (x b) ∘L ContinuousLinearMap.proj b) x :=
  HasFDerivAt.fun_sum fun b _ => (h b).hasFDerivAt.comp x (hasFDerivAt_apply b x)

theorem fderiv_sum_single [DecidableEq β] (h : ∀ b, DifferentiableAt ℝ (f b) (x b)) (b : β)
    (v : E) :
    fderiv ℝ (fun y : β → E => ∑ b, f b (y b)) x (Pi.single b v) = fderiv ℝ (f b) (x b) v := by
  rw [(hasFDerivAt_sum h).fderiv, sum_apply, Finset.sum_eq_single b]
  · simp
  · intro other _ hother
    simp [Pi.single_eq_of_ne hother]
  · intro hb
    exact absurd (Finset.mem_univ b) hb

end Sums

/-! ## Clipped vectors -/

section Clipped

variable {E : Type} [NormedAddCommGroup E] [InnerProductSpace ℝ E]

/-- A vector that is clipped to a norm, with some slack in the divisor, has at most that norm. -/
theorem norm_clipped_le {bound slack : ℝ} (hbound : 0 ≤ bound) (hslack : 0 < slack) (v : E) :
    ‖min (bound / (‖v‖ + slack)) 1 • v‖ ≤ bound := by
  have hpos : 0 < ‖v‖ + slack := add_pos_of_nonneg_of_pos (norm_nonneg v) hslack
  have hscale : 0 ≤ min (bound / (‖v‖ + slack)) 1 :=
    le_min (div_nonneg hbound hpos.le) zero_le_one
  calc ‖min (bound / (‖v‖ + slack)) 1 • v‖
      = min (bound / (‖v‖ + slack)) 1 * ‖v‖ := by rw [norm_smul, Real.norm_of_nonneg hscale]
    _ ≤ bound / (‖v‖ + slack) * (‖v‖ + slack) :=
        mul_le_mul (min_le_left _ _) (by linarith) (norm_nonneg v) (div_nonneg hbound hpos.le)
    _ = bound := div_mul_cancel₀ bound hpos.ne'

/-- Scaling a vector down by a further factor keeps the bound. -/
theorem norm_smul_le {factor bound : ℝ} (h0 : 0 ≤ factor) (h1 : factor ≤ 1) {v : E}
    (h : ‖v‖ ≤ bound) : ‖factor • v‖ ≤ bound := by
  rw [norm_smul, Real.norm_of_nonneg h0]
  exact (mul_le_of_le_one_left (norm_nonneg v) h1).trans h

end Clipped

end SmolVlaQgf.ClippedGradients
