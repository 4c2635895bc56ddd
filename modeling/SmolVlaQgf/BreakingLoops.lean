import Mathlib.Data.Nat.Notation

/-!
# Bounded loops with breaks

A loop runs its body a bounded number of times. The body may fail, and it may break with
`ForInStep.done`. A count that each iteration without a break raises by one tells whether the loop
was cut short.
-/

namespace SmolVlaQgf.BreakingLoops

variable {σ ε : Type} {body : σ → Except ε (ForInStep σ)} {n : ℕ} {s t : σ}

/-- At most `n` iterations of a body. -/
def loop (body : σ → Except ε (ForInStep σ)) : ℕ → σ → Except ε σ
  | 0, s => .ok s
  | n + 1, s =>
      match body s with
      | .error e => .error e
      | .ok (.done t) => .ok t
      | .ok (.yield t) => loop body n t

theorem loop_done (h : body s = .ok (.done t)) (n : ℕ) : loop body (n + 1) s = .ok t := by
  rw [loop, h]

theorem loop_yield (h : body s = .ok (.yield t)) (n : ℕ) :
    loop body (n + 1) s = loop body n t := by
  rw [loop, h]

theorem loop_cases (h : loop body (n + 1) s = .ok t) :
    body s = .ok (.done t) ∨ ∃ u, body s = .ok (.yield u) ∧ loop body n u = .ok t := by
  cases hbody : body s with
  | error e =>
    rw [loop, hbody] at h
    cases h
  | ok step =>
    cases step with
    | done u =>
      rw [loop_done hbody] at h
      cases h
      exact Or.inl rfl
    | yield u =>
      rw [loop_yield hbody] at h
      exact Or.inr ⟨u, rfl, h⟩

theorem loop_preserves (Inv : σ → Prop)
    (hbody : ∀ {s step}, body s = .ok step → Inv s → Inv step.value)
    (hloop : loop body n s = .ok t) (hs : Inv s) : Inv t := by
  induction n generalizing s with
  | zero =>
    cases hloop
    exact hs
  | succ n ih =>
    obtain hdone | ⟨u, hyield, hrest⟩ := loop_cases hloop
    · exact hbody hdone hs
    · exact ih hrest (hbody hyield hs)

/-- No iteration before the last one breaks, and the last one starts in a given kind of state. -/
inductive Lasts (body : σ → Except ε (ForInStep σ)) (whole : σ → Prop) : ℕ → σ → Prop
  | zero (s : σ) : Lasts body whole 0 s
  | last {s : σ} (h : whole s) : Lasts body whole 1 s
  | next {s t : σ} {n : ℕ} (h : body s = .ok (.yield t)) (rest : Lasts body whole n t) :
      Lasts body whole (n + 1) s

section Count

variable {whole : σ → Prop}

/-- After a break only a loop of one iteration may last. -/
theorem lasts_succ_of_done (h : body s = .ok (.done t)) :
    Lasts body whole (n + 1) s ↔ n = 0 ∧ whole s := by
  constructor
  · rintro (_ | hwhole | ⟨hyield, -⟩)
    · exact ⟨rfl, hwhole⟩
    · rw [h] at hyield
      cases hyield
  · rintro ⟨rfl, hwhole⟩
    exact .last hwhole

theorem lasts_succ_of_yield (h : body s = .ok (.yield t)) :
    Lasts body whole (n + 1) s ↔ Lasts body whole n t := by
  constructor
  · rintro (_ | - | ⟨hyield, hrest⟩)
    · exact .zero t
    · rw [h] at hyield
      cases hyield
      exact hrest
  · exact .next h

theorem loop_count_le (count : σ → ℕ)
    (hdone : ∀ {s t}, body s = .ok (.done t) → count t ≤ count s + 1)
    (hyield : ∀ {s t}, body s = .ok (.yield t) → count t = count s + 1)
    (hloop : loop body n s = .ok t) : count t ≤ count s + n := by
  induction n generalizing s with
  | zero =>
    cases hloop
    exact Nat.le_refl _
  | succ n ih =>
    obtain hbody | ⟨u, hbody, hrest⟩ := loop_cases hloop
    · have hstep := hdone hbody
      omega
    · have hstep := hyield hbody
      have hle := ih hrest
      omega

/-- A loop counts all its iterations exactly if none but the last breaks and the last one counts. -/
theorem loop_count_eq_iff (count : σ → ℕ)
    (hdone : ∀ {s t}, body s = .ok (.done t) → count t ≤ count s + 1)
    (hwhole : ∀ {s t}, body s = .ok (.done t) → (count t = count s + 1 ↔ whole s))
    (hyield : ∀ {s t}, body s = .ok (.yield t) → count t = count s + 1)
    (hloop : loop body n s = .ok t) : count t = count s + n ↔ Lasts body whole n s := by
  induction n generalizing s with
  | zero =>
    cases hloop
    exact iff_of_true rfl (.zero _)
  | succ n ih =>
    obtain hbody | ⟨u, hbody, hrest⟩ := loop_cases hloop
    · have hstep := hdone hbody
      rw [lasts_succ_of_done hbody, ← hwhole hbody]
      omega
    · have hstep := hyield hbody
      rw [lasts_succ_of_yield hbody, ← ih hrest]
      omega

end Count

end SmolVlaQgf.BreakingLoops
