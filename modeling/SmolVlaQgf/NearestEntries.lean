import Mathlib.Algebra.Order.Group.Abs
import Mathlib.Data.List.MinMax
import Mathlib.Data.List.Pairwise
import Mathlib.Order.Basic

/-!
# Nearest entries of a list

The entry an `argmin` returns is the leftmost of the entries with the least key, and the position
a left search returns in an ascending list separates the smaller entries from the others. In a
strictly ascending list the search finds an entry at its own position, and in a list of an ordered
group no entry is nearer to a value than both entries next to its position.
-/

namespace SmolVlaQgf.NearestEntries

variable {α β : Type}

section Minimum

variable [LinearOrder β]

/-- An entry with the least key, and no entry before it has the same key. -/
structure LeftmostMinimum (key : α → β) (xs : List α) (i : ℕ) (x : α) : Prop where
  entry : xs[i]? = some x
  minimal : ∀ (j : ℕ) y, xs[j]? = some y → key x ≤ key y
  leftmost : ∀ (j : ℕ) y, j < i → xs[j]? = some y → key x < key y

variable {key : α → β} {xs : List α} {x : α} {i : ℕ}

theorem exists_leftmostMinimum (h : xs.argmin key = some x) :
    ∃ i, LeftmostMinimum key xs i x := by
  classical
  obtain ⟨hmem, hminimal, hfirst⟩ := List.argmin_eq_some_iff.mp h
  refine ⟨xs.idxOf x, List.getElem?_idxOf hmem, ?_, ?_⟩
  · intro j y hy
    exact hminimal y (List.mem_of_getElem? hy)
  · intro j y hj hy
    by_contra hle
    obtain ⟨hlt, rfl⟩ := List.getElem?_eq_some_iff.mp hy
    have hidx := hfirst _ (List.getElem_mem hlt) (not_lt.mp hle)
    have hfound : xs.idxOf xs[j] < j + 1 := by
      rw [← List.mem_take_iff_idxOf_lt (List.getElem_mem hlt), List.mem_take_iff_getElem]
      exact ⟨j, by omega, rfl⟩
    omega

/-- The leftmost minimum has a property exactly when every entry without it is beaten by one
with it: a smaller key, or the same key at an earlier position. -/
theorem LeftmostMinimum.prop_iff (h : LeftmostMinimum key xs i x) (p : α → Prop) :
    p x ↔ ∀ (j : ℕ) y, xs[j]? = some y → ¬p y →
      ∃ (k : ℕ) (z : α), xs[k]? = some z ∧ p z ∧ (key z < key y ∨ key z = key y ∧ k < j) := by
  constructor
  · intro hx j y hy hnot
    refine ⟨i, x, h.entry, hx, (h.minimal j y hy).lt_or_eq.imp_right fun heq => ⟨heq, ?_⟩⟩
    rcases lt_trichotomy i j with hlt | rfl | hgt
    · exact hlt
    · rw [h.entry, Option.some.injEq] at hy
      exact absurd (hy ▸ hx) hnot
    · exact absurd heq (h.leftmost j y hgt hy).ne
  · intro hbeaten
    by_contra hnot
    obtain ⟨k, z, hz, -, hlt | ⟨heq, hk⟩⟩ := hbeaten i x h.entry hnot
    · exact absurd hlt (not_lt.mpr (h.minimal k z hz))
    · exact absurd heq.symm (h.leftmost k z hk hz).ne

end Minimum

section Search

variable [LinearOrder α] {D : α → Prop} {search : List α → α → ℕ}

/-- Within a domain the search returns the leftmost position at which a value can be inserted
into an ascending list. -/
def SearchesLeft (D : α → Prop) (search : List α → α → ℕ) : Prop :=
  ∀ xs value, xs.Pairwise (· ≤ ·) → (∀ x ∈ xs, D x) → D value →
    (∀ (i : ℕ) x, i < search xs value → xs[i]? = some x → x < value) ∧
      ∀ (i : ℕ) x, search xs value ≤ i → xs[i]? = some x → value ≤ x

theorem SearchesLeft.eq_of_getElem? (h : SearchesLeft D search) {xs : List α}
    (hxs : xs.Pairwise (· < ·)) (hdomain : ∀ x ∈ xs, D x) {i : ℕ} {value : α}
    (hi : xs[i]? = some value) : search xs value = i := by
  obtain ⟨hbefore, hafter⟩ :=
    h xs value (hxs.imp le_of_lt) hdomain (hdomain value (List.mem_of_getElem? hi))
  rcases lt_trichotomy (search xs value) i with hlt | heq | hgt
  · obtain ⟨hlength, hvalue⟩ := List.getElem?_eq_some_iff.mp hi
    have hsmaller := List.pairwise_iff_getElem.mp hxs _ i (hlt.trans hlength) hlength hlt
    have hle := hafter _ _ le_rfl (List.getElem?_eq_getElem (hlt.trans hlength))
    rw [hvalue] at hsmaller
    exact absurd hsmaller (not_lt.mpr hle)
  · exact heq
  · exact absurd (hbefore i value hgt hi) (lt_irrefl value)

def sortedSearch (xs : List α) (value : α) : ℕ := xs.countP (decide <| · < value)

theorem searchesLeft_sortedSearch : SearchesLeft D sortedSearch := by
  intro xs value hxs hdomain _
  clear hdomain
  simp only [sortedSearch]
  induction xs with
  | nil => simp
  | cons x xs ih =>
    obtain ⟨hle, hrest⟩ := List.pairwise_cons.mp hxs
    obtain ⟨hbefore, hafter⟩ := ih hrest
    by_cases hx : x < value
    · rw [List.countP_cons_of_pos (by simpa using hx)]
      refine ⟨fun i y hi hy => ?_, fun i y hi hy => ?_⟩
      · cases i with
        | zero => exact Option.some.inj hy ▸ hx
        | succ i => exact hbefore i y (by omega) (by simpa using hy)
      · cases i with
        | zero => omega
        | succ i => exact hafter i y (by omega) (by simpa using hy)
    · have hnone : xs.countP (decide <| · < value) = 0 := by
        rw [List.countP_eq_zero]
        intro y hy
        simpa using (not_lt.mp hx).trans (hle y hy)
      rw [List.countP_cons_of_neg (by simpa using hx), hnone]
      refine ⟨fun i y hi => absurd hi (Nat.not_lt_zero i), fun i y _ hy => ?_⟩
      rcases List.mem_cons.mp (List.mem_of_getElem? hy) with rfl | hmem
      · exact not_lt.mp hx
      · exact (not_lt.mp hx).trans (hle y hmem)

/-- The position is also one at which the value can be inserted. -/
structure InsertsLeft (D : α → Prop) (search : List α → α → ℕ) : Prop where
  left : SearchesLeft D search
  within : ∀ xs value, search xs value ≤ xs.length

theorem insertsLeft_sortedSearch : InsertsLeft D sortedSearch :=
  ⟨searchesLeft_sortedSearch, fun _ _ => List.countP_le_length⟩

theorem le_of_getElem? {xs : List α} (hxs : xs.Pairwise (· ≤ ·)) {i j : ℕ} (hij : i ≤ j) {x y : α}
    (hx : xs[i]? = some x) (hy : xs[j]? = some y) : x ≤ y := by
  obtain ⟨hi, rfl⟩ := List.getElem?_eq_some_iff.mp hx
  obtain ⟨hj, rfl⟩ := List.getElem?_eq_some_iff.mp hy
  exact hxs.rel_get_of_le (a := ⟨i, hi⟩) (b := ⟨j, hj⟩) hij

theorem InsertsLeft.mono (h : InsertsLeft D search) {xs : List α} (hxs : xs.Pairwise (· ≤ ·))
    (hdomain : ∀ x ∈ xs, D x) {value value' : α} (hvalue : D value) (hvalue' : D value')
    (hle : value ≤ value') : search xs value ≤ search xs value' := by
  by_contra hlt
  push Not at hlt
  have hwithin := h.within xs value
  have hentry := List.getElem?_eq_getElem (hlt.trans_le hwithin)
  have hsmaller := (h.left xs value hxs hdomain hvalue).1 _ _ hlt hentry
  have hlarger := (h.left xs value' hxs hdomain hvalue').2 _ _ le_rfl hentry
  exact absurd (hle.trans hlarger) (not_le.mpr hsmaller)

end Search

section Neighbours

variable [AddCommGroup α] [LinearOrder α] [IsOrderedAddMonoid α] {D : α → Prop}
  {search : List α → α → ℕ} {xs : List α}

/-- No entry is nearer to a value than both entries next to its position. -/
theorem InsertsLeft.exists_neighbour (h : InsertsLeft D search) (hxs : xs.Pairwise (· ≤ ·))
    (hdomain : ∀ x ∈ xs, D x) {value : α} (hvalue : D value) {j : ℕ} {y : α}
    (hy : xs[j]? = some y) :
    ∃ (k : ℕ) (x : α), (k = search xs value ∨ k + 1 = search xs value) ∧ xs[k]? = some x ∧
      |x - value| ≤ |y - value| := by
  obtain ⟨hbefore, hafter⟩ := h.left xs value hxs hdomain hvalue
  have hwithin := h.within xs value
  have hj := (List.getElem?_eq_some_iff.mp hy).1
  rcases Nat.lt_or_ge j (search xs value) with hlt | hge
  · have hentry := List.getElem?_eq_getElem (by omega : search xs value - 1 < xs.length)
    have hsmaller := hbefore _ _ (by omega) hentry
    have hle := le_of_getElem? hxs (by omega : j ≤ search xs value - 1) hy hentry
    refine ⟨_, _, Or.inr (by omega), hentry, ?_⟩
    rw [abs_of_nonpos (sub_nonpos.mpr hsmaller.le),
      abs_of_nonpos (sub_nonpos.mpr (hle.trans hsmaller.le))]
    exact neg_le_neg (sub_le_sub_right hle value)
  · have hentry := List.getElem?_eq_getElem (hge.trans_lt hj)
    have hlarger := hafter _ _ le_rfl hentry
    have hle := le_of_getElem? hxs hge hentry hy
    refine ⟨_, _, Or.inl rfl, hentry, ?_⟩
    rw [abs_of_nonneg (sub_nonneg.mpr hlarger), abs_of_nonneg (sub_nonneg.mpr (hlarger.trans hle))]
    exact sub_le_sub_right hle value

/-- Of two entries around two values, the right one is nearer to the larger value if it is nearer
to the smaller one. -/
theorem abs_sub_lt_of_between {x y value value' : α} (hx : x ≤ value) (hle : value ≤ value')
    (hy : value' ≤ y) (hnear : |y - value| < |x - value|) : |y - value'| < |x - value'| := by
  rw [abs_of_nonneg (sub_nonneg.mpr (hle.trans hy)), abs_of_nonpos (sub_nonpos.mpr hx)] at hnear
  rw [abs_of_nonneg (sub_nonneg.mpr hy), abs_of_nonpos (sub_nonpos.mpr (hx.trans hle))]
  calc y - value' ≤ y - value := sub_le_sub_left hle y
    _ < -(x - value) := hnear
    _ ≤ -(x - value') := neg_le_neg (sub_le_sub_left hle x)

end Neighbours

end SmolVlaQgf.NearestEntries
