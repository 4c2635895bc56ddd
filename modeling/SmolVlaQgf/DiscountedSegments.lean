import Mathlib.Algebra.BigOperators.Intervals
import Mathlib.Algebra.BigOperators.Ring.Finset

/-!
# Discounted sums over segments

A list of values with marks is cut behind every mark. The value accumulated from the back,
cleared at every mark, is at each position the discounted sum of the values up to the end of
the segment.
-/

namespace SmolVlaQgf.DiscountedSegments

section Segments

variable {marks : List Bool} {i e e' : ℕ}

/-- The first mark at or behind a position, or the last position if there is none. -/
structure SegmentEnd (marks : List Bool) (i e : ℕ) : Prop where
  le : i ≤ e
  lt : e < marks.length
  unmarked : ∀ j, i ≤ j → j < e → marks[j]? = some false
  ends : marks[e]? = some true ∨ e + 1 = marks.length

theorem SegmentEnd.unique (h : SegmentEnd marks i e) (h' : SegmentEnd marks i e') : e = e' := by
  have hnot : ∀ {a b}, SegmentEnd marks i a → SegmentEnd marks i b → ¬a < b := by
    intro a b ha hb hlt
    have hfalse := hb.unmarked a ha.le hlt
    have hb' := hb.lt
    rcases ha.ends with htrue | hlast
    · rw [hfalse] at htrue
      simp at htrue
    · omega
  have h1 := hnot h h'
  have h2 := hnot h' h
  omega

theorem SegmentEnd.cons (h : SegmentEnd marks 0 e) : SegmentEnd (false :: marks) 0 (e + 1) := by
  constructor
  · omega
  · simpa using h.lt
  · intro j _ hj
    cases j with
    | zero => simp
    | succ j => simpa using h.unmarked j (by omega) (by omega)
  · simpa using h.ends

theorem SegmentEnd.of_drop (h : SegmentEnd (marks.drop i) 0 e) : SegmentEnd marks i (i + e) := by
  have hlt := h.lt
  rw [List.length_drop] at hlt
  constructor
  · omega
  · omega
  · intro j hij hj
    have hmark := h.unmarked (j - i) (by omega) (by omega)
    rwa [List.getElem?_drop, Nat.add_sub_cancel' hij] at hmark
  · have hends := h.ends
    rw [List.getElem?_drop, List.length_drop] at hends
    exact hends.imp_right fun hlast => by omega

end Segments

variable {K : Type*} [Semiring K]

def accumulated (gamma : K) : List (K × Bool) → K
  | [] => 0
  | (value, mark) :: rest => value + gamma * (if mark then 0 else accumulated gamma rest)

def discountedSum (gamma : K) (values : List K) (i e : ℕ) : K :=
  ∑ j ∈ Finset.Icc i e, gamma ^ (j - i) * values.getD j 0

theorem discountedSum_eq_sum_range (gamma : K) (values : List K) (i n : ℕ) :
    discountedSum gamma values i (i + n) =
      ∑ k ∈ Finset.range (n + 1), gamma ^ k * (values.drop i).getD k 0 := by
  have hIcc : Finset.Icc i (i + n) = Finset.Ico i (i + n + 1) := by
    ext j
    simp
  rw [discountedSum, hIcc, Finset.sum_Ico_eq_sum_range]
  have hcount : i + n + 1 - i = n + 1 := by omega
  rw [hcount]
  refine Finset.sum_congr rfl fun k _ => ?_
  rw [Nat.add_sub_cancel_left, List.getD_eq_getElem?_getD, List.getD_eq_getElem?_getD,
    List.getElem?_drop]

/-- From the first position on, the accumulated value is the sum over the first segment. -/
theorem exists_first_segment (gamma : K) {entries : List (K × Bool)} (h : entries ≠ []) :
    ∃ e, SegmentEnd (entries.map Prod.snd) 0 e ∧
      accumulated gamma entries = discountedSum gamma (entries.map Prod.fst) 0 e := by
  induction entries with
  | nil => exact absurd rfl h
  | cons entry rest ih =>
    obtain ⟨value, mark⟩ := entry
    by_cases hends : mark = true ∨ rest = []
    · refine ⟨0, ⟨le_rfl, by simp, by omega, ?_⟩, ?_⟩
      · rcases hends with rfl | rfl
        · simp
        · simp
      · rcases hends with rfl | rfl
        · simp [accumulated, discountedSum]
        · simp [accumulated, discountedSum]
    · push Not at hends
      obtain ⟨hmark, hrest⟩ := hends
      obtain ⟨e, hsegment, hsum⟩ := ih hrest
      obtain rfl : mark = false := by simpa using hmark
      refine ⟨e + 1, hsegment.cons, ?_⟩
      have hfirst := discountedSum_eq_sum_range gamma (rest.map Prod.fst) 0 e
      have hall := discountedSum_eq_sum_range gamma (value :: rest.map Prod.fst) 0 (e + 1)
      rw [Nat.zero_add] at hfirst hall
      rw [accumulated, if_neg (by simp), hsum, List.map_cons, hall, hfirst,
        Finset.sum_range_succ' _ (e + 1), Finset.mul_sum, add_comm]
      congr 1
      · refine Finset.sum_congr rfl fun k _ => ?_
        simp [pow_succ', mul_assoc]
      · simp

/-- At every position the accumulated value is the sum over the rest of its segment. -/
theorem exists_segment (gamma : K) {entries : List (K × Bool)} {i : ℕ} (h : i < entries.length) :
    ∃ e, SegmentEnd (entries.map Prod.snd) i e ∧
      accumulated gamma (entries.drop i) = discountedSum gamma (entries.map Prod.fst) i e := by
  have hne : entries.drop i ≠ [] := by simpa using h
  obtain ⟨e, hsegment, hsum⟩ := exists_first_segment gamma hne
  rw [List.map_drop] at hsegment hsum
  refine ⟨i + e, hsegment.of_drop, ?_⟩
  have hfirst := discountedSum_eq_sum_range gamma ((entries.map Prod.fst).drop i) 0 e
  rw [Nat.zero_add, List.drop_zero] at hfirst
  rw [hsum, hfirst, discountedSum_eq_sum_range]

/-- Behind a mark nothing is accumulated. -/
theorem accumulated_append (gamma : K) {entries : List (K × Bool)} (rest : List (K × Bool))
    (h : (entries.map Prod.snd).getLast? = some true) :
    accumulated gamma (entries ++ rest) = accumulated gamma entries := by
  induction entries with
  | nil => simp at h
  | cons entry entries ih =>
    obtain ⟨value, mark⟩ := entry
    cases entries with
    | nil =>
      obtain rfl : mark = true := by simpa using h
      simp [accumulated]
    | cons next entries =>
      have hlast : ((next :: entries).map Prod.snd).getLast? = some true := by simpa using h
      simp only [List.cons_append, accumulated] at ih ⊢
      rw [ih hlast]

end SmolVlaQgf.DiscountedSegments
