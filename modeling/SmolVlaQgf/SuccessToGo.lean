import SmolVlaQgf.CriticTargets
import SmolVlaQgf.DiscountedReturns

/-!
# Success to go

The success-to-go target of a step is the discount of its distance to the first success, and one
from the first success on; later flags have no influence. Up to the first success it is the
discounted return of a recording that ends there with the reward one.
-/

namespace SmolVlaQgf.SuccessToGo
open CriticTargets DiscountedReturns DiscountedSegments

/-! ## The first success -/

structure FirstSuccess (successes : List Bool) (first : ℕ) : Prop where
  success : successes[first]? = some true
  before : ∀ step < first, successes[step]? = some false

theorem FirstSuccess.lt {successes : List Bool} {first : ℕ} (h : FirstSuccess successes first) :
    first < successes.length :=
  (List.getElem?_eq_some_iff.mp h.success).1

theorem FirstSuccess.unique {successes : List Bool} {first other : ℕ}
    (h : FirstSuccess successes first) (h' : FirstSuccess successes other) : other = first := by
  rcases lt_trichotomy other first with hlt | heq | hgt
  · have hfalse := h.before other hlt
    simp [h'.success] at hfalse
  · exact heq
  · have hfalse := h'.before first hgt
    simp [h.success] at hfalse

/-- `torch.nonzero` of flags that are numbered from some index on. -/
def successIndicesFrom (start : ℕ) (successes : List Bool) : List ℕ :=
  ((successes.zipIdx start).filter Prod.fst).map Prod.snd

private theorem successIndicesFrom_cons (start : ℕ) (success : Bool) (successes : List Bool) :
    successIndicesFrom start (success :: successes) =
      (if success then [start] else []) ++ successIndicesFrom (start + 1) successes := by
  cases success <;> simp [successIndicesFrom]

/-- Either no step is a success, or the indices start with the first one. -/
theorem successIndicesFrom_cases (start : ℕ) (successes : List Bool) :
    (successIndicesFrom start successes = [] ∧ ∀ success ∈ successes, success = false) ∨
      ∃ first rest, successIndicesFrom start successes = (start + first) :: rest ∧
        FirstSuccess successes first := by
  induction successes generalizing start with
  | nil => exact Or.inl ⟨rfl, by simp⟩
  | cons success successes ih =>
    rw [successIndicesFrom_cons]
    cases success with
    | true => exact Or.inr ⟨0, _, rfl, ⟨rfl, by simp⟩⟩
    | false =>
      rcases ih (start + 1) with ⟨hnone, hall⟩ | ⟨first, rest, hindices, hfirst⟩
      · exact Or.inl ⟨by simpa using hnone, by simpa using hall⟩
      · refine Or.inr ⟨first + 1, rest, ?_, ⟨by simpa using hfirst.success, ?_⟩⟩
        · rw [hindices]
          simp [Nat.add_assoc, Nat.add_comm 1]
        · intro step hstep
          cases step with
          | zero => simp
          | succ step => simpa using hfirst.before step (by omega)

theorem FirstSuccess.exists_successIndices {successes : List Bool} {first : ℕ}
    (h : FirstSuccess successes first) : ∃ rest, successIndices successes = first :: rest := by
  rcases successIndicesFrom_cases 0 successes with ⟨-, hall⟩ | ⟨other, rest, hindices, hother⟩
  · have hfalse := hall true (List.mem_of_getElem? h.success)
    simp at hfalse
  · rw [Nat.zero_add, h.unique hother] at hindices
    exact ⟨rest, hindices⟩

/-! ## Targets -/

section Targets

variable {K : Type} [Field K] [LinearOrder K] {gamma : K} {successes : List Bool} {first : ℕ}

/-- A sequence without success has no value. -/
theorem successToGoTargets_of_none (h0 : 0 ≤ gamma) (h1 : gamma ≤ 1)
    (h : ∀ success ∈ successes, success = false) :
    successToGoTargets gamma successes = .ok (successes.map fun _ => 0) := by
  have hindices : successIndices successes = [] := by
    rcases successIndicesFrom_cases 0 successes with ⟨hnone, -⟩ | ⟨first, -, -, hfirst⟩
    · exact hnone
    · have hfalse := h true (List.mem_of_getElem? hfirst.success)
      simp at hfalse
  simp [successToGoTargets, hindices, h0.not_gt, h1.not_gt]

/-- The flags behind the first success have no influence. -/
theorem successToGoTargets_of_first (h0 : 0 ≤ gamma) (h1 : gamma ≤ 1)
    (h : FirstSuccess successes first) :
    successToGoTargets gamma successes =
      .ok ((List.range successes.length).map fun step => gamma ^ (first - step)) := by
  obtain ⟨rest, hindices⟩ := h.exists_successIndices
  have hgamma : ¬(gamma < 0 ∨ 1 < gamma) := by simp [h0, h1]
  rw [successToGoTargets, if_neg hgamma, hindices]
  simp only [Except.ok.injEq]
  refine List.map_congr_left fun step _ => ?_
  split_ifs with hstep
  · rw [Nat.sub_eq_zero_of_le hstep, pow_zero]
  · have hle : step ≤ first := by omega
    simp [discountedDistance, hle]

def firstReward (length first : ℕ) : List K :=
  (List.range length).map fun step => if step = first then 1 else 0

def firstDone (length first : ℕ) : List Bool :=
  (List.range length).map fun step => decide (step = first)

private theorem segmentEnd_firstDone {length step : ℕ} (hfirst : first < length)
    (hstep : step ≤ first) :
    SegmentEnd (firstDone length first) step first := by
  constructor
  · exact hstep
  · simpa [firstDone] using hfirst
  · intro j _ hj
    have hlt : j < length := by omega
    simp [firstDone, hlt, hj.ne]
  · exact Or.inl (by simp [firstDone, hfirst])

omit [LinearOrder K] in
private theorem discountedSum_firstReward {length step : ℕ} (hfirst : first < length)
    (hstep : step ≤ first) :
    discountedSum gamma (firstReward length first) step first = gamma ^ (first - step) := by
  rw [discountedSum, Finset.sum_eq_single first]
  · simp [firstReward, List.getD_eq_getElem?_getD, hfirst]
  · intro j hj hne
    have hlt : j < length := by
      rw [Finset.mem_Icc] at hj
      omega
    simp [firstReward, List.getD_eq_getElem?_getD, hlt, hne]
  · intro hnot
    exact absurd (Finset.mem_Icc.mpr ⟨hstep, le_rfl⟩) hnot

/-- Up to the first success the discounted returns of its reward are the targets. -/
theorem exists_returns (h0 : 0 ≤ gamma) (h1 : gamma ≤ 1) {length : ℕ} (hfirst : first < length) :
    ∃ returns, discountedReturns (firstReward length first) (firstDone length first) gamma =
        .ok returns ∧
      ∀ step ≤ first, returns[step]? = some (gamma ^ (first - step)) := by
  have hlength : (firstReward length first : List K).length = (firstDone length first).length := by
    simp [firstReward, firstDone]
  refine ⟨_, discountedReturns_eq hlength h0 h1, fun step hstep => ?_⟩
  have hlt : step < (firstReward length first : List K).length := by
    simp only [firstReward, List.length_map, List.length_range]
    omega
  obtain ⟨e, hsegment, hreturn⟩ := getElem?_returns gamma hlength hlt
  rw [hsegment.unique (segmentEnd_firstDone hfirst hstep),
    discountedSum_firstReward hfirst hstep] at hreturn
  exact hreturn

variable [IsStrictOrderedRing K]

/-- Every target lies between zero and one. -/
theorem targets_mem_unit {targets : List K} (h : successToGoTargets gamma successes = .ok targets) :
    ∀ target ∈ targets, 0 ≤ target ∧ target ≤ 1 := by
  have hgamma : ¬(gamma < 0 ∨ 1 < gamma) := by
    intro hgamma
    rw [successToGoTargets, if_pos hgamma] at h
    cases h
  push Not at hgamma
  obtain ⟨h0, h1⟩ := hgamma
  intro target htarget
  rcases successIndicesFrom_cases 0 successes with ⟨-, hall⟩ | ⟨first, -, -, hfirst⟩
  · rw [successToGoTargets_of_none h0 h1 hall] at h
    obtain rfl := Except.ok.inj h
    obtain ⟨success, -, rfl⟩ := List.mem_map.mp htarget
    exact ⟨le_rfl, zero_le_one⟩
  · rw [successToGoTargets_of_first h0 h1 hfirst] at h
    obtain rfl := Except.ok.inj h
    obtain ⟨step, -, rfl⟩ := List.mem_map.mp htarget
    exact ⟨pow_nonneg h0 _, pow_le_one₀ h0 h1⟩

/-- Success to go is the discounted distance to the first success: zero without one, ascending
and between zero and one, and up to the first success the discounted return of its reward. -/
theorem success_to_go_returns (h0 : 0 ≤ gamma) (h1 : gamma ≤ 1) (successes : List Bool) :
    ∃ targets, successToGoTargets gamma successes = .ok targets ∧
      targets.length = successes.length ∧
      ((∀ success ∈ successes, success = false) → ∀ target ∈ targets, target = 0) ∧
      (∀ first, FirstSuccess successes first →
        (∀ step < successes.length, targets[step]? = some (gamma ^ (first - step))) ∧
        ∃ returns, discountedReturns (firstReward successes.length first)
            (firstDone successes.length first) gamma = .ok returns ∧
          ∀ step ≤ first, targets[step]? = returns[step]?) ∧
      targets.Pairwise (· ≤ ·) ∧ ∀ target ∈ targets, 0 ≤ target ∧ target ≤ 1 := by
  rcases successIndicesFrom_cases 0 successes with ⟨-, hall⟩ | ⟨first, -, -, hfirst⟩
  · have htargets := successToGoTargets_of_none h0 h1 hall
    refine ⟨_, htargets, by simp, ?_, ?_, ?_, targets_mem_unit htargets⟩
    · intro _ target htarget
      obtain ⟨success, -, rfl⟩ := List.mem_map.mp htarget
      rfl
    · intro first hfirst
      have hfalse := hall true (List.mem_of_getElem? hfirst.success)
      simp at hfalse
    · simp
  · have htargets := successToGoTargets_of_first h0 h1 hfirst
    refine ⟨_, htargets, by simp, ?_, ?_, ?_, targets_mem_unit htargets⟩
    · intro hall
      have hfalse := hall true (List.mem_of_getElem? hfirst.success)
      simp at hfalse
    · intro other hother
      obtain rfl := hother.unique hfirst
      have htarget : ∀ step < successes.length, ((List.range successes.length).map fun step =>
          gamma ^ (first - step))[step]? = some (gamma ^ (first - step)) := by
        intro step hstep
        simp [hstep]
      obtain ⟨returns, hreturns, hequal⟩ := exists_returns h0 h1 hfirst.lt
      refine ⟨htarget, returns, hreturns, fun step hstep => ?_⟩
      rw [htarget step (hstep.trans_lt hfirst.lt), hequal step hstep]
    · rw [List.pairwise_map]
      refine List.pairwise_lt_range.imp fun hlt => ?_
      exact pow_le_pow_of_le_one h0 h1 (by omega)

end Targets

/-- The second step succeeds, and the third does not. -/
theorem secondStep_returns :
    ∃ targets, successToGoTargets (9 / 10 : ℚ) [false, true, false] = .ok targets ∧
      targets.length = 3 ∧ targets.Pairwise (· ≤ ·) := by
  obtain ⟨targets, htargets, hlength, -, -, hascending, -⟩ :=
    success_to_go_returns (by norm_num : (0 : ℚ) ≤ 9 / 10) (by norm_num) [false, true, false]
  exact ⟨targets, htargets, hlength, hascending⟩

end SmolVlaQgf.SuccessToGo
