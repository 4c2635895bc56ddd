import Mathlib.Algebra.Ring.Nat
import Mathlib.Data.List.Dedup
import Mathlib.Data.List.Nodup
import Mathlib.Data.List.Perm.Subperm
import Mathlib.Data.List.TakeDrop

/-!
# Selections by quota

From every group of a list the first elements are taken, as many as the quota of its size;
if these are too few, elements of a pool of all others are added, and if they are too many,
the last ones are given up. For every order of the pool the selection has the wanted size.
A group is selected as a whole for some order of the pool exactly when as many elements are
added as the quota leaves of the group.
-/

namespace SmolVlaQgf.QuotaSelections

variable {α : Type} [DecidableEq α]

def taken (quota : ℕ → ℕ) (groups : List (List α)) : List α :=
  groups.flatMap fun group => group.take (quota group.length)

def spare (quota : ℕ → ℕ) (groups : List (List α)) : List α :=
  groups.flatMap fun group => group.drop (quota group.length)

def candidates (quota : ℕ → ℕ) (groups : List (List α)) : List α :=
  groups.flatten.filter (· ∉ taken quota groups)

def selection (quota : ℕ → ℕ) (groups : List (List α)) (size : ℕ) (pool : List α) : List α :=
  (taken quota groups ++ pool.take (size - (taken quota groups).length)).take size

variable {quota : ℕ → ℕ} {groups : List (List α)} {group pool : List α} {size : ℕ}

section Quotas

omit [DecidableEq α]

theorem taken_append_spare_perm (quota : ℕ → ℕ) (groups : List (List α)) :
    (taken quota groups ++ spare quota groups).Perm groups.flatten := by
  have h := List.flatMap_append_perm groups (fun group => group.take (quota group.length))
    (fun group => group.drop (quota group.length))
  simpa [taken, spare, List.flatMap_id'] using h

theorem length_taken (quota : ℕ → ℕ) (groups : List (List α)) :
    (taken quota groups).length =
      (groups.map fun group => min (quota group.length) group.length).sum := by
  simp [taken, List.length_flatMap, List.length_take]

theorem nodup_taken_append_spare (quota : ℕ → ℕ) (h : groups.flatten.Nodup) :
    (taken quota groups ++ spare quota groups).Nodup :=
  (taken_append_spare_perm quota groups).nodup_iff.mpr h

theorem nodup_of_mem (h : groups.flatten.Nodup) (hgroup : group ∈ groups) : group.Nodup :=
  (List.nodup_flatten.mp h).1 group hgroup

theorem not_mem_taken_of_mem_drop (h : groups.flatten.Nodup) (hgroup : group ∈ groups) {x : α}
    (hx : x ∈ group.drop (quota group.length)) : x ∉ taken quota groups := by
  have hdisjoint := List.disjoint_of_nodup_append (nodup_taken_append_spare quota h)
  exact fun htaken => hdisjoint htaken (List.mem_flatMap.mpr ⟨group, hgroup, hx⟩)

theorem mem_take_or_mem_drop {xs : List α} {x : α} (h : x ∈ xs) (n : ℕ) :
    x ∈ xs.take n ∨ x ∈ xs.drop n := by
  rw [← List.take_append_drop n xs] at h
  exact List.mem_append.mp h

end Quotas

theorem taken_append_candidates_perm (quota : ℕ → ℕ) (h : groups.flatten.Nodup) :
    (taken quota groups ++ candidates quota groups).Perm groups.flatten := by
  have htaken : (taken quota groups).Perm (groups.flatten.filter (· ∈ taken quota groups)) := by
    have hnodup := (List.nodup_append.mp (nodup_taken_append_spare quota h)).1
    apply (List.perm_ext_iff_of_nodup hnodup (h.filter _)).mpr
    intro x
    rw [List.mem_filter, decide_eq_true_eq]
    refine ⟨fun hx => ⟨?_, hx⟩, And.right⟩
    exact (taken_append_spare_perm quota groups).subset (List.mem_append_left _ hx)
  have hsplit := List.filter_append_perm (· ∈ taken quota groups) groups.flatten
  apply (htaken.append_right _).trans
  simpa [candidates] using hsplit

omit [DecidableEq α] in
theorem selection_sublist (quota : ℕ → ℕ) (groups : List (List α)) (size : ℕ) (pool : List α) :
    (selection quota groups size pool).Sublist (taken quota groups ++ pool) :=
  (List.take_sublist _ _).trans ((List.take_sublist _ _).append_left _)

theorem nodup_selection (h : groups.flatten.Nodup)
    (hpool : pool.Perm (candidates quota groups)) :
    (selection quota groups size pool).Nodup := by
  have hall : (taken quota groups ++ pool).Perm groups.flatten :=
    (hpool.append_left _).trans (taken_append_candidates_perm quota h)
  exact (selection_sublist quota groups size pool).nodup (hall.nodup_iff.mpr h)

theorem selection_subset (h : groups.flatten.Nodup)
    (hpool : pool.Perm (candidates quota groups)) :
    selection quota groups size pool ⊆ groups.flatten := by
  intro x hx
  exact ((hpool.append_left _).trans (taken_append_candidates_perm quota h)).subset
    ((selection_sublist quota groups size pool).subset hx)

/-- The selection has the wanted size, in both directions. -/
theorem length_selection (h : groups.flatten.Nodup)
    (hpool : pool.Perm (candidates quota groups)) (hsize : size ≤ groups.flatten.length) :
    (selection quota groups size pool).length = size := by
  have hlength := (taken_append_candidates_perm quota h).length_eq
  rw [List.length_append, ← hpool.length_eq] at hlength
  simp only [selection, List.length_take, List.length_append]
  omega

/-- A group of which more is left than is added keeps an element. -/
theorem exists_not_mem_selection (h : groups.flatten.Nodup) (hgroup : group ∈ groups)
    (hspare : size - (taken quota groups).length < group.length - quota group.length) :
    ∃ x ∈ group, x ∉ selection quota groups size pool := by
  by_contra hall
  push Not at hall
  have hsubset : group.drop (quota group.length) ⊆
      pool.take (size - (taken quota groups).length) := by
    intro x hx
    have hselected := List.mem_of_mem_take (hall x (List.mem_of_mem_drop hx))
    exact (List.mem_append.mp hselected).resolve_left (not_mem_taken_of_mem_drop h hgroup hx)
  have hnodup : (group.drop (quota group.length)).Nodup :=
    (List.drop_sublist _ _).nodup (nodup_of_mem h hgroup)
  have hle := (hnodup.subperm hsubset).length_le
  simp only [List.length_drop, List.length_take] at hle
  omega

def favour (group : List α) (xs : List α) : List α :=
  xs.filter (· ∈ group) ++ xs.filter (· ∉ group)

theorem favour_perm (group xs : List α) : (favour group xs).Perm xs := by
  simpa [favour] using List.filter_append_perm (· ∈ group) xs

theorem favour_congr {other : List α} (h : ∀ x, x ∈ group ↔ x ∈ other) (xs : List α) :
    favour group xs = favour other xs := by
  simp [favour, h]

/-- If no more is left of a group than is added, a pool with the group in front takes it as a
whole. -/
theorem subset_selection_favour (quota : ℕ → ℕ) (size : ℕ) (h : groups.flatten.Nodup)
    (hgroup : group ∈ groups)
    (hquota : quota group.length < group.length)
    (hspare : group.length - quota group.length ≤ size - (taken quota groups).length) :
    group ⊆ selection quota groups size (favour group (candidates quota groups)) := by
  intro x hx
  have hsmall : ((candidates quota groups).filter (· ∈ group)).length ≤
      size - (taken quota groups).length := by
    have hnodup : (candidates quota groups).Nodup := h.filter _
    have hsubset : (candidates quota groups).filter (· ∈ group) ⊆
        group.drop (quota group.length) := by
      intro y hy
      rw [List.mem_filter, decide_eq_true_eq] at hy
      refine (mem_take_or_mem_drop hy.2 (quota group.length)).resolve_left fun htake => ?_
      have hnot := (List.mem_filter.mp hy.1).2
      rw [decide_eq_true_eq] at hnot
      exact hnot (List.mem_flatMap.mpr ⟨group, hgroup, htake⟩)
    have hle := ((hnodup.filter _).subperm hsubset).length_le
    rw [List.length_drop] at hle
    omega
  -- Something is added, so nothing that was taken is given up.
  have hkept : taken quota groups ++ (favour group (candidates quota groups)).take
      (size - (taken quota groups).length) ⊆
      selection quota groups size (favour group (candidates quota groups)) := by
    have hfit : (taken quota groups ++ (favour group (candidates quota groups)).take
        (size - (taken quota groups).length)).length ≤ size := by
      simp only [List.length_append, List.length_take]
      omega
    intro y hy
    rwa [selection, List.take_of_length_le hfit]
  apply hkept
  rw [List.mem_append]
  by_cases htaken : x ∈ taken quota groups
  · exact Or.inl htaken
  · refine Or.inr ?_
    have hcandidate : x ∈ (candidates quota groups).filter (· ∈ group) := by
      simp only [candidates, List.mem_filter, decide_eq_true_eq]
      exact ⟨⟨List.mem_flatten.mpr ⟨group, hgroup, hx⟩, htaken⟩, hx⟩
    rw [favour, List.take_append]
    apply List.mem_append_left _
    rwa [List.take_of_length_le hsmall]

end SmolVlaQgf.QuotaSelections
