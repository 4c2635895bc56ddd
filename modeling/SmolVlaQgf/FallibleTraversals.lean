import Mathlib.Data.List.Forall2

/-!
# Traversals of a list with a step that may fail

A traversal succeeds when every step does, and two traversals of related lists whose
steps relate their results return related lists.
-/

namespace SmolVlaQgf.FallibleTraversals

variable {ε α α' β β' : Type}

theorem mapError_eq_ok_iff {ε' : Type} {f : ε → ε'} {x : Except ε α} {a : α} :
    x.mapError f = .ok a ↔ x = .ok a := by
  cases x with
  | error e => simp [Except.mapError]
  | ok b => simp [Except.mapError]

/-- A traversal succeeds with the results of its steps. -/
theorem mapM_eq_ok_iff {f : α → Except ε β} {xs : List α} {ys : List β} :
    xs.mapM f = .ok ys ↔ List.Forall₂ (fun x y => f x = .ok y) xs ys := by
  induction xs generalizing ys with
  | nil =>
    rw [List.mapM_nil, List.forall₂_nil_left_iff]
    exact ⟨fun h => (Except.ok.inj h).symm, fun h => h ▸ rfl⟩
  | cons x xs ih =>
    rw [List.mapM_cons, List.forall₂_cons_left_iff]
    constructor
    · intro h
      cases hx : f x with
      | error e =>
        rw [hx] at h
        cases h
      | ok y =>
        cases hxs : xs.mapM f with
        | error e =>
          rw [hx, hxs] at h
          cases h
        | ok rest =>
          rw [hx, hxs] at h
          exact ⟨y, rest, rfl, ih.mp hxs, (Except.ok.inj h).symm⟩
    · rintro ⟨y, rest, hx, hrest, rfl⟩
      rw [hx, ih.mpr hrest]
      rfl

theorem mapM_eq_ok_map {f : α → Except ε β} {g : α → β} {xs : List α}
    (h : ∀ x ∈ xs, f x = .ok (g x)) : xs.mapM f = .ok (xs.map g) := by
  rw [mapM_eq_ok_iff, List.forall₂_map_right_iff, List.forall₂_same]
  exact h

/-- A traversal whose steps all succeed with a result of some kind. -/
theorem exists_mapM {f : α → Except ε β} {P : α → β → Prop} {xs : List α}
    (h : ∀ x ∈ xs, ∃ y, f x = .ok y ∧ P x y) :
    ∃ ys, xs.mapM f = .ok ys ∧ List.Forall₂ P xs ys := by
  induction xs with
  | nil => exact ⟨[], rfl, .nil⟩
  | cons x xs ih =>
    obtain ⟨y, hy, hP⟩ := h x List.mem_cons_self
    obtain ⟨ys, hys, hrest⟩ := ih fun z hz => h z (List.mem_cons_of_mem _ hz)
    exact ⟨y :: ys, mapM_eq_ok_iff.mpr (.cons hy (mapM_eq_ok_iff.mp hys)), .cons hP hrest⟩

theorem length_of_mapM {f : α → Except ε β} {xs : List α} {ys : List β}
    (h : xs.mapM f = .ok ys) : ys.length = xs.length :=
  (mapM_eq_ok_iff.mp h).length_eq.symm

/-- What a traversal returns, a step has returned. -/
theorem exists_of_mem_mapM {f : α → Except ε β} {xs : List α} {ys : List β}
    (h : xs.mapM f = .ok ys) {y : β} (hy : y ∈ ys) : ∃ x ∈ xs, f x = .ok y := by
  obtain ⟨i, hi, rfl⟩ := List.mem_iff_getElem.mp hy
  have hsteps := mapM_eq_ok_iff.mp h
  have hlt : i < xs.length := hsteps.length_eq ▸ hi
  exact ⟨xs[i], List.getElem_mem hlt, hsteps.get hlt hi⟩

/-- Two traversals of related lists return related lists. -/
theorem forall₂_of_mapM {f : α → Except ε β} {f' : α' → Except ε β'} {P : α → α' → Prop}
    {Q : β → β' → Prop} {xs : List α} {xs' : List α'} {ys : List β} {ys' : List β'}
    (hinputs : List.Forall₂ P xs xs')
    (hstep : ∀ x x' y y', P x x' → f x = .ok y → f' x' = .ok y' → Q y y')
    (h : xs.mapM f = .ok ys) (h' : xs'.mapM f' = .ok ys') : List.Forall₂ Q ys ys' := by
  rw [mapM_eq_ok_iff] at h h'
  induction hinputs generalizing ys ys' with
  | nil =>
    cases h
    cases h'
    exact .nil
  | cons hfirst hrest ih =>
    cases h with
    | cons hy hys =>
      cases h' with
      | cons hy' hys' => exact .cons (hstep _ _ _ _ hfirst hy hy') (ih hys hys')

/-- If every element of a list has a partner, there is a list of partners. -/
theorem exists_forall₂ {P : α → β → Prop} {xs : List α} (h : ∀ x ∈ xs, ∃ y, P x y) :
    ∃ ys, List.Forall₂ P xs ys := by
  induction xs with
  | nil => exact ⟨[], .nil⟩
  | cons x xs ih =>
    obtain ⟨y, hy⟩ := h x List.mem_cons_self
    obtain ⟨ys, hys⟩ := ih fun z hz => h z (List.mem_cons_of_mem _ hz)
    exact ⟨y :: ys, .cons hy hys⟩

/-- Partners that belong to two related elements at once. -/
theorem exists_forall₂_of_forall₂ {γ : Type} {P : α → β → Prop} {Q : α → γ → Prop}
    {R : β → γ → Prop} {xs : List α} {ys : List β} (h : List.Forall₂ P xs ys)
    (hpartner : ∀ x y, P x y → ∃ z, Q x z ∧ R y z) :
    ∃ zs, List.Forall₂ Q xs zs ∧ List.Forall₂ R ys zs := by
  induction h with
  | nil => exact ⟨[], .nil, .nil⟩
  | cons hfirst _ ih =>
    obtain ⟨z, hQ, hR⟩ := hpartner _ _ hfirst
    obtain ⟨zs, hQs, hRs⟩ := ih
    exact ⟨z :: zs, .cons hQ hQs, .cons hR hRs⟩

theorem forall₂_comp {γ : Type} {P : α → β → Prop} {Q : β → γ → Prop} {R : α → γ → Prop}
    {xs : List α} {ys : List β} {zs : List γ} (hcomp : ∀ x y z, P x y → Q y z → R x z)
    (h : List.Forall₂ P xs ys) (h' : List.Forall₂ Q ys zs) : List.Forall₂ R xs zs := by
  induction h generalizing zs with
  | nil =>
    cases h'
    exact .nil
  | cons hfirst hrest ih =>
    cases h' with
    | cons hfirst' hrest' => exact .cons (hcomp _ _ _ hfirst hfirst') (ih hrest')

/-- A loop that adds to a state what its steps return is the traversal of the steps, with all
their results added at the end. -/
theorem foldlM_eq_mapM {σ : Type} {f : σ → α → Except ε σ} {g : α → Except ε (List β)}
    {add : σ → List β → σ} (hnil : ∀ s, add s [] = s)
    (happend : ∀ s ys zs, add (add s ys) zs = add s (ys ++ zs)) (xs : List α)
    (hstep : ∀ x ∈ xs, ∀ s, f s x = (g x).map (add s)) (s : σ) :
    xs.foldlM f s = (xs.mapM g).map fun ys => add s ys.flatten := by
  induction xs generalizing s with
  | nil =>
    rw [List.foldlM_nil, List.mapM_nil]
    exact congrArg Except.ok (hnil s).symm
  | cons x xs ih =>
    rw [List.foldlM_cons, List.mapM_cons, hstep x List.mem_cons_self]
    cases hx : g x with
    | error e => rfl
    | ok ys =>
      have hrest := ih (fun y hy => hstep y (List.mem_cons_of_mem _ hy)) (add s ys)
      have hfirst : ((Except.ok ys).map (add s) >>= fun s' => xs.foldlM f s') =
          xs.foldlM f (add s ys) := rfl
      rw [hfirst, hrest]
      cases hxs : xs.mapM g with
      | error e => rfl
      | ok rest => exact congrArg Except.ok (happend s ys rest.flatten)

section Partial

variable {f : α → Option β}

theorem mapM_eq_some {l : List α} {m : List β} (h : l.map f = m.map some) :
    l.mapM f = some m := by
  induction l generalizing m with
  | nil =>
    obtain rfl := List.map_eq_nil_iff.mp h.symm
    rfl
  | cons a l ih =>
    obtain ⟨b, m, rfl, hhead, htail⟩ := List.map_eq_cons_iff.mp h.symm
    rw [List.mapM_cons, ← hhead, ih htail.symm]
    rfl

theorem mapM_eq_none {l : List α} {a : α} (ha : a ∈ l) (h : f a = none) : l.mapM f = none := by
  induction l with
  | nil => simp at ha
  | cons b l ih =>
    rw [List.mapM_cons]
    rcases List.mem_cons.mp ha with rfl | hmem
    · rw [h]
      rfl
    · rw [ih hmem]
      cases f b with
      | none => rfl
      | some c => rfl

end Partial

end SmolVlaQgf.FallibleTraversals
