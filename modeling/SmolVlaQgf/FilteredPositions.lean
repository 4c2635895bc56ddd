import Mathlib.Data.List.Nodup

/-!
# Positions in a filtered list

Dropping elements of a list moves every later element forward. An element keeps its
position exactly when nothing at or before that position is dropped.
-/

namespace SmolVlaQgf.FilteredPositions

universe u

variable {α : Type u} {l : List α} {p : α → Bool} {i : ℕ}

theorem getElem?_filter_of_all (h : ∀ x ∈ l.take (i + 1), p x = true) (hi : i < l.length) :
    (l.filter p)[i]? = l[i]? := by
  have htake : (l.take (i + 1)).filter p = l.take (i + 1) := List.filter_eq_self.mpr h
  have hsplit : l.filter p = l.take (i + 1) ++ (l.drop (i + 1)).filter p := by
    conv_lhs => rw [← List.take_append_drop (i + 1) l, List.filter_append, htake]
  have hlength : i < (l.take (i + 1)).length := by
    rw [List.length_take]
    omega
  rw [hsplit, List.getElem?_append_left hlength, List.getElem?_take_of_lt (Nat.lt_succ_self i)]

/-- After a dropped element the list is read from beyond the position. -/
theorem mem_drop_of_getElem?_filter {x y : α} (hx : x ∈ l.take (i + 1)) (hdropped : p x = false)
    (hy : (l.filter p)[i]? = some y) : y ∈ l.drop (i + 1) := by
  have hsplit : l.filter p = (l.take (i + 1)).filter p ++ (l.drop (i + 1)).filter p := by
    conv_lhs => rw [← List.take_append_drop (i + 1) l, List.filter_append]
  have hshort : ((l.take (i + 1)).filter p).length < (l.take (i + 1)).length :=
    List.length_filter_lt_length_iff_exists.mpr ⟨x, hx, by simp [hdropped]⟩
  have hlength : ((l.take (i + 1)).filter p).length ≤ i := by
    have htake := List.length_take_le (i + 1) l
    omega
  rw [hsplit, List.getElem?_append_right hlength] at hy
  exact (List.mem_filter.mp (List.mem_of_getElem? hy)).1

/-- An element keeps its position exactly when nothing up to it is dropped. -/
theorem getElem?_filter_eq_iff (hl : l.Nodup) (hi : i < l.length) :
    (l.filter p)[i]? = l[i]? ↔ ∀ x ∈ l.take (i + 1), p x = true := by
  refine ⟨fun h x hx => ?_, fun h => getElem?_filter_of_all h hi⟩
  by_contra hdropped
  rw [Bool.not_eq_true] at hdropped
  have hlater : l[i] ∈ l.drop (i + 1) :=
    mem_drop_of_getElem?_filter hx hdropped (h.trans (List.getElem?_eq_getElem hi))
  have hearlier : l[i] ∈ l.take (i + 1) :=
    List.mem_take_iff_getElem.mpr ⟨i, by omega, rfl⟩
  have hsplit := hl
  rw [← List.take_append_drop (i + 1) l] at hsplit
  exact (List.nodup_append.mp hsplit).2.2 _ hearlier _ hlater rfl

end SmolVlaQgf.FilteredPositions
