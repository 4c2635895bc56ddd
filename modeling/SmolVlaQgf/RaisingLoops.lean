import Mathlib.Data.List.Basic

/-!
# Loops whose effects remain

A computation changes a state and may raise; what it has changed remains. A loop goes through a
list until its body raises or breaks. Where the body of every item stays within a region of keys,
and the regions of different items are apart, what holds of the bodies holds of the loop.
-/

namespace SmolVlaQgf.RaisingLoops

variable {E S A B ι κ : Type}

abbrev Raising (E S A : Type) := S → Except E A × S

/-- Loop until the body raises, or returns `true` to break. -/
def forEach (body : ι → Raising E S Bool) : List ι → Raising E S Unit
  | [], s => (.ok (), s)
  | item :: items, s =>
      match body item s with
      | (.error error, s) => (.error error, s)
      | (.ok true, s) => (.ok (), s)
      | (.ok false, s) => forEach body items s

/-- A relation between the states before and after a computation that stays within some keys; the
flag tells whether the computation has returned. -/
abbrev Within (S κ : Type) := (κ → Prop) → Bool → S → S → Prop

/-- The relation can be composed if the first computation has returned and the keys are apart. -/
structure Composes (rel : Within S κ) : Prop where
  refl : ∀ s, rel (fun _ => False) true s s
  append : ∀ {region region' : κ → Prop} {returned : Bool} {s t u : S}, rel region true s t →
    rel region' returned t u → (∀ key, region key → ¬region' key) →
      rel (fun key => region key ∨ region' key) returned s u
  mono : ∀ {region region' : κ → Prop} {returned : Bool} {s t : S}, rel region returned s t →
    (∀ key, region key → region' key) → rel region' returned s t

def Stays (rel : Within S κ) (region : κ → Prop) (s : S) (outcome : Except E A × S) : Prop :=
  rel region outcome.1.isOk s outcome.2

theorem forEach_stays {rel : Within S κ} (hrel : Composes rel) (body : ι → Raising E S Bool)
    (region : ι → κ → Prop) (items : List ι)
    (hbody : ∀ item ∈ items, ∀ s, Stays rel (region item) s (body item s))
    (happart : items.Pairwise fun item other => ∀ key, region item key → ¬region other key)
    (s : S) :
    Stays rel (fun key => ∃ item ∈ items, region item key) s (forEach body items s) := by
  induction items generalizing s with
  | nil => exact hrel.mono (hrel.refl s) fun _ hfalse => hfalse.elim
  | cons item items ih =>
    have hfirst := hbody item List.mem_cons_self s
    obtain ⟨hitem, hitems⟩ := List.pairwise_cons.mp happart
    have hown : ∀ key, region item key → ∃ other ∈ item :: items, region other key :=
      fun key hkey => ⟨item, List.mem_cons_self, hkey⟩
    rw [forEach]
    generalize body item s = outcome at hfirst ⊢
    obtain ⟨result, t⟩ := outcome
    cases result with
    | error error => exact hrel.mono hfirst hown
    | ok stop =>
      cases stop with
      | true => exact hrel.mono hfirst hown
      | false =>
        have hrest := ih (fun other hother => hbody other (List.mem_cons_of_mem _ hother)) hitems t
        refine hrel.mono (hrel.append hfirst hrest ?_) ?_
        · rintro key hkey ⟨other, hother, hkey'⟩
          exact hitem other hother key hkey hkey'
        · rintro key (hkey | ⟨other, hother, hkey⟩)
          · exact hown key hkey
          · exact ⟨other, List.mem_cons_of_mem _ hother, hkey⟩

/-- A computation that changes nothing the relation sees may follow. -/
theorem Composes.followed {rel : Within S κ} (hrel : Composes rel) {region : κ → Prop}
    {returned : Bool} {s t u : S} (h : rel region true s t)
    (hafter : rel (fun _ => False) returned t u) : rel region returned s u := by
  refine hrel.mono (hrel.append h hafter fun _ _ hfalse => hfalse) ?_
  intro key hkey
  exact hkey.resolve_right id

def onFirst (rel : Within S κ) : Within (S × B) κ :=
  fun region returned s t => rel region returned s.1 t.1

theorem Composes.onFirst {rel : Within S κ} (hrel : Composes rel) :
    Composes (onFirst rel (B := B)) where
  refl := fun s => hrel.refl s.1
  append := fun h h' hdisjoint => hrel.append h h' hdisjoint
  mono := fun h hle => hrel.mono h hle

/-- A body does not break: one thing holds if it returns, another if it raises. -/
def GoesOn (returned raised : S → Prop) : Except E Bool × S → Prop
  | (.ok stop, s) => stop = false ∧ returned s
  | (.error _, s) => raised s

/-- A body that never breaks runs for all items, or for the items up to an error. -/
theorem forEach_prefix {body : ι → Raising E S Bool} {Inv : List ι → S → Prop}
    (hbody : ∀ done item s, Inv done s → GoesOn (Inv (done ++ [item])) (Inv done) (body item s))
    {done : List ι} (items : List ι) {s : S} (hs : Inv done s) :
    ∃ ran, ran <+: items ∧ ((forEach body items s).1.isOk = true → ran = items) ∧
      Inv (done ++ ran) (forEach body items s).2 := by
  induction items generalizing done s with
  | nil =>
    refine ⟨[], List.prefix_rfl, fun _ => rfl, ?_⟩
    rw [List.append_nil]
    exact hs
  | cons item items ih =>
    have hstep := hbody done item s hs
    rw [forEach]
    generalize body item s = outcome at hstep ⊢
    obtain ⟨result, t⟩ := outcome
    cases result with
    | error error =>
      refine ⟨[], List.nil_prefix, fun hreturned => Bool.noConfusion hreturned, ?_⟩
      rw [List.append_nil]
      exact hstep
    | ok stop =>
      obtain ⟨rfl, ht⟩ := hstep
      obtain ⟨ran, hran, hall, hinv⟩ := ih ht
      refine ⟨item :: ran, List.cons_prefix_cons.mpr ⟨rfl, hran⟩, fun h => ?_, ?_⟩
      · rw [hall h]
      · rwa [List.append_assoc] at hinv

end SmolVlaQgf.RaisingLoops
