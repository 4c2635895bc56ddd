import SmolVlaQgf.DiscountedSegments
import Mathlib.Algebra.Order.Ring.Rat
import Mathlib.Tactic.NormNum

/-!
# Discounted returns

`discounted_returns` accumulates the rewards from the last step to the first and clears the
running value at every terminal step. The return of a step is the discounted sum of the rewards
up to the end of its episode, so recordings that end with a terminal step can be concatenated.
-/

namespace SmolVlaQgf.DiscountedReturns
open DiscountedSegments

section Loop

variable {K : Type*} [Semiring K]

/-- One iteration of the backward loop: the running value and the returns written so far. -/
def accumulate (gamma : K) (step : K × Bool) (state : K × List K) : K × List K :=
  let running := if step.2 then 0 else state.1
  let running := step.1 + gamma * running
  (running, running :: state.2)

def loop (gamma : K) (steps : List (K × Bool)) : K × List K :=
  steps.foldr (accumulate gamma) (0, [])

@[simp] theorem loop_nil (gamma : K) : loop gamma [] = (0, []) := rfl

@[simp] theorem loop_cons (gamma : K) (step : K × Bool) (steps : List (K × Bool)) :
    loop gamma (step :: steps) = accumulate gamma step (loop gamma steps) := rfl

theorem fst_loop (gamma : K) (steps : List (K × Bool)) :
    (loop gamma steps).1 = accumulated gamma steps := by
  induction steps with
  | nil => rfl
  | cons step steps ih => simp [accumulate, accumulated, ih]

@[simp] theorem length_loop (gamma : K) (steps : List (K × Bool)) :
    (loop gamma steps).2.length = steps.length := by
  induction steps with
  | nil => rfl
  | cons step steps ih => simp [accumulate, ih]

/-- The return of a step is what the loop has accumulated there. -/
theorem getElem?_loop (gamma : K) {steps : List (K × Bool)} {i : ℕ} (h : i < steps.length) :
    (loop gamma steps).2[i]? = some (accumulated gamma (steps.drop i)) := by
  induction steps generalizing i with
  | nil => simp at h
  | cons step steps ih =>
    cases i with
    | zero => simp [accumulate, accumulated, fst_loop]
    | succ i => simpa [accumulate] using ih (by simpa using h)

/-- The returns of a recording do not depend on what follows its terminal step. -/
theorem loop_append (gamma : K) {steps : List (K × Bool)} (rest : List (K × Bool))
    (h : (steps.map Prod.snd).getLast? = some true) :
    (loop gamma (steps ++ rest)).2 = (loop gamma steps).2 ++ (loop gamma rest).2 := by
  induction steps with
  | nil => simp at h
  | cons step steps ih =>
    simp only [List.cons_append, loop_cons, accumulate, fst_loop]
    cases steps with
    | nil =>
      obtain hterminal : step.2 = true := by simpa using h
      simp [hterminal]
    | cons next steps =>
      have hlast : ((next :: steps).map Prod.snd).getLast? = some true := by simpa using h
      rw [ih hlast, accumulated_append gamma rest hlast]

end Loop

variable {K : Type*} [CommRing K] [LinearOrder K]

/-- `discounted_returns` -/
def discountedReturns (rewards : List K) (dones : List Bool) (gamma : K) :
    Except String (List K) :=
  if rewards.length ≠ dones.length then
    .error "rewards and dones must have the same length."
  else if ¬(0 ≤ gamma ∧ gamma ≤ 1) then .error "gamma must be in [0, 1]."
  else .ok (loop gamma (rewards.zip dones)).2

variable {rewards : List K} {dones : List Bool} {gamma : K}

theorem discountedReturns_eq (hlength : rewards.length = dones.length) (h0 : 0 ≤ gamma)
    (h1 : gamma ≤ 1) :
    discountedReturns rewards dones gamma = .ok (loop gamma (rewards.zip dones)).2 := by
  simp [discountedReturns, hlength, h0, h1]

omit [LinearOrder K] in
/-- The return at a position is the discounted sum of the rewards up to the end of the episode. -/
theorem getElem?_returns (gamma : K) (hlength : rewards.length = dones.length) {i : ℕ}
    (hi : i < rewards.length) :
    ∃ e, SegmentEnd dones i e ∧ (loop gamma (rewards.zip dones)).2[i]? =
      some (discountedSum gamma rewards i e) := by
  have hlt : i < (rewards.zip dones).length := by
    rw [List.length_zip]
    omega
  obtain ⟨e, hsegment, hsum⟩ := exists_segment gamma hlt
  rw [List.map_fst_zip hlength.le] at hsum
  rw [List.map_snd_zip hlength.ge] at hsegment
  exact ⟨e, hsegment, by rw [getElem?_loop gamma hlt, hsum]⟩

/-- The returns are the discounted sums over the episodes, and a recording that ends with a
terminal step can be followed by another. -/
theorem discounted_returns_respect_episodes (h0 : 0 ≤ gamma) (h1 : gamma ≤ 1) :
    (∀ (rewards : List K) (dones : List Bool), rewards.length = dones.length →
      ∃ returns, discountedReturns rewards dones gamma = .ok returns ∧
        returns.length = rewards.length ∧
        ∀ i < rewards.length, ∃ e, SegmentEnd dones i e ∧
          returns[i]? = some (∑ j ∈ Finset.Icc i e, gamma ^ (j - i) * rewards.getD j 0)) ∧
      ∀ (rewards rewards' : List K) (dones dones' : List Bool),
        rewards.length = dones.length → rewards'.length = dones'.length →
        dones.getLast? = some true →
        ∃ returns returns', discountedReturns rewards dones gamma = .ok returns ∧
          discountedReturns rewards' dones' gamma = .ok returns' ∧
          discountedReturns (rewards ++ rewards') (dones ++ dones') gamma =
            .ok (returns ++ returns') := by
  constructor
  · intro rewards dones hlength
    refine ⟨_, discountedReturns_eq hlength h0 h1, by simp [hlength], fun i hi => ?_⟩
    exact getElem?_returns gamma hlength hi
  · intro rewards rewards' dones dones' hlength hlength' hlast
    refine ⟨_, _, discountedReturns_eq hlength h0 h1, discountedReturns_eq hlength' h0 h1, ?_⟩
    have hterminal : ((rewards.zip dones).map Prod.snd).getLast? = some true := by
      rwa [List.map_snd_zip hlength.ge]
    rw [discountedReturns_eq (by simp [hlength, hlength']) h0 h1, List.zip_append hlength,
      loop_append gamma _ hterminal]

/-- Two steps of one episode and one of the next. -/
theorem threeSteps_returns :
    ∃ returns, discountedReturns [1, 1, 1] [false, true, false] (9 / 10 : ℚ) = .ok returns ∧
      returns.length = 3 := by
  obtain ⟨hsums, -⟩ := discounted_returns_respect_episodes (by norm_num : (0 : ℚ) ≤ 9 / 10)
    (by norm_num)
  obtain ⟨returns, hreturns, hlength, -⟩ := hsums [1, 1, 1] [false, true, false] rfl
  exact ⟨returns, hreturns, hlength⟩

end SmolVlaQgf.DiscountedReturns
