import SmolVlaQgf.NearestEntries

/-!
# The running best and the first minimum

A loop that keeps an entry until a smaller one comes finds the entry that a minimum by key
returns, for any comparison at all. Where the comparison is that of a linear order, it is the
leftmost entry with the least key.
-/

namespace SmolVlaQgf.RunningBest
open NearestEntries

variable {α α' β : Type} (lt : β → β → Bool) (key : α → β)

/-- The minimum of a list by a key: later entries replace the best one only if they are less. -/
def minBy : List α → Option α
  | [] => none
  | x :: xs => some (xs.foldl (fun best y => if lt (key y) (key best) then y else best) x)

/-- One round of a loop that carries the best entry. -/
def update (best : Option α) (x : α) : Option α :=
  match best with
  | none => some x
  | some y => if lt (key x) (key y) then some x else some y

theorem foldl_update_some (xs : List α) (x : α) : xs.foldl (update lt key) (some x) =
    some (xs.foldl (fun best y => if lt (key y) (key best) then y else best) x) := by
  induction xs generalizing x with
  | nil => rfl
  | cons y ys ih =>
    rw [List.foldl_cons, List.foldl_cons, update]
    split
    · exact ih y
    · exact ih x

theorem foldl_update (xs : List α) : xs.foldl (update lt key) none = minBy lt key xs := by
  cases xs with
  | nil => rfl
  | cons x xs => exact foldl_update_some lt key xs x

theorem minBy_append_singleton (xs : List α) (x : α) :
    minBy lt key (xs ++ [x]) = update lt key (minBy lt key xs) x := by
  rw [← foldl_update, ← foldl_update, List.foldl_append, List.foldl_cons, List.foldl_nil]

/-- Entries may be read through a map that keeps their keys. -/
theorem minBy_map (f : α' → α) (xs : List α') :
    minBy lt key (xs.map f) = (minBy lt (fun x => key (f x)) xs).map f := by
  cases xs with
  | nil => rfl
  | cons x xs =>
    refine congrArg some ?_
    induction xs generalizing x with
    | nil => rfl
    | cons y ys ih =>
      rw [List.map_cons, List.foldl_cons, List.foldl_cons]
      split
      · exact ih y
      · exact ih x

theorem minBy_isSome {xs : List α} (h : xs ≠ []) : (minBy lt key xs).isSome := by
  cases xs with
  | nil => exact absurd rfl h
  | cons x xs => rfl

theorem mem_of_minBy {xs : List α} {x : α} (h : minBy lt key xs = some x) : x ∈ xs := by
  induction xs using List.reverseRecOn with
  | nil => cases h
  | append_singleton xs y ih =>
    rw [minBy_append_singleton] at h
    cases hbest : minBy lt key xs with
    | none =>
      rw [hbest] at h
      obtain rfl := Option.some.inj h
      exact List.mem_append_right _ List.mem_cons_self
    | some best =>
      rw [hbest, update] at h
      split at h
      · obtain rfl := Option.some.inj h
        exact List.mem_append_right _ List.mem_cons_self
      · obtain rfl := Option.some.inj h
        exact List.mem_append_left _ (ih hbest)

variable {lt key}

/-- A comparison that is that of a linear order returns its first minimum. -/
theorem minBy_eq_argmin {γ : Type} [LinearOrder γ] {rank : α → γ} {xs : List α}
    (h : ∀ x ∈ xs, ∀ y ∈ xs, lt (key x) (key y) = true ↔ rank x < rank y) :
    minBy lt key xs = xs.argmin rank := by
  induction xs using List.reverseRecOn with
  | nil => rfl
  | append_singleton xs x ih =>
    have hxs := ih fun y hy z hz =>
      h y (List.mem_append_left _ hy) z (List.mem_append_left _ hz)
    rw [minBy_append_singleton, List.argmin_concat, hxs]
    cases hbest : xs.argmin rank with
    | none => rfl
    | some y =>
      have hmem : y ∈ xs := List.argmin_mem hbest
      have hiff := h x (List.mem_append_right _ List.mem_cons_self) y
        (List.mem_append_left _ hmem)
      simp only [update, hiff]

theorem exists_leftmost_of_minBy {γ : Type} [LinearOrder γ] {rank : α → γ} {xs : List α}
    (h : ∀ x ∈ xs, ∀ y ∈ xs, lt (key x) (key y) = true ↔ rank x < rank y) {x : α}
    (hmin : minBy lt key xs = some x) : ∃ i, LeftmostMinimum rank xs i x := by
  apply exists_leftmostMinimum
  rwa [← minBy_eq_argmin h]

end SmolVlaQgf.RunningBest
