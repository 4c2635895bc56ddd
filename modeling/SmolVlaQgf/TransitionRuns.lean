/-!
# Finite runs of a labelled step relation

A run lists its labels from the first step to the last. Invariants are proved
one step at a time and transported to whole runs here, once. A step relation may
be restricted by a condition on the state before a step and its label; runs of
the restricted relation are the runs all of whose steps meet the condition.
-/

namespace SmolVlaQgf.TransitionRuns

universe u v

variable {σ : Type u} {ℓ : Type v}

/-- A finite run from `s`; the last step is the last label. -/
inductive Run (step : σ → ℓ → σ → Prop) (s : σ) : List ℓ → σ → Prop where
  | nil : Run step s [] s
  | snoc {ls l t u} (run : Run step s ls t) (last : step t l u) :
      Run step s (ls ++ [l]) u

namespace Run

variable {step step' : σ → ℓ → σ → Prop} {s t u : σ} {ls ms : List ℓ}

theorem single {l : ℓ} (h : step s l t) : Run step s [l] t := .snoc .nil h

theorem trans (h : Run step s ls t) (h' : Run step t ms u) : Run step s (ls ++ ms) u := by
  induction h' with
  | nil => simpa using h
  | snoc run last ih => simpa using ih.snoc last

theorem cons {l : ℓ} (h : step s l t) (h' : Run step t ls u) : Run step s (l :: ls) u :=
  (single h).trans h'

theorem mono (hstep : ∀ s l t, step s l t → step' s l t) (h : Run step s ls t) :
    Run step' s ls t := by
  induction h with
  | nil => exact .nil
  | snoc run last ih => exact ih.snoc (hstep _ _ _ last)

/-- The induction principle of safety proofs: an invariant of the first state that
every step preserves holds of the last state. -/
theorem invariant {I : σ → Prop} (hstep : ∀ s l t, step s l t → I s → I t)
    (h : Run step s ls t) (hs : I s) : I t := by
  induction h with
  | nil => exact hs
  | snoc run last ih => exact hstep _ _ _ last ih

end Run

/-- Steps taken only where `condition` holds of the state before and the label. -/
def Restricted (condition : σ → ℓ → Prop) (step : σ → ℓ → σ → Prop) (s : σ) (l : ℓ) (t : σ) :
    Prop := condition s l ∧ step s l t

/-- A property that each step keeps exactly where a condition holds: after a run it holds
exactly if all steps of the run meet the condition. -/
theorem Run.restricted_iff {step : σ → ℓ → σ → Prop} {condition : σ → ℓ → Prop} {P I : σ → Prop}
    {s t : σ} {ls : List ℓ}
    (hstep : ∀ s l t, step s l t → I s → I t ∧ (P t ↔ P s ∧ condition s l))
    (h : Run step s ls t) (hI : I s) (hP : P s) :
    P t ↔ Run (Restricted condition step) s ls t := by
  have hall : ∀ {ls t}, Run step s ls t → I t := fun hrun =>
    hrun.invariant (fun s l t hst hs => (hstep s l t hst hs).1) hI
  constructor
  · intro ht
    induction h with
    | nil => exact .nil
    | snoc run last ih =>
      obtain ⟨hu, hcondition⟩ := (hstep _ _ _ last (hall run)).2.mp ht
      exact (ih hu).snoc ⟨hcondition, last⟩
  · intro hrun
    induction hrun with
    | nil => exact hP
    | snoc run last ih =>
      have hu := run.mono fun _ _ _ hst => hst.2
      exact (hstep _ _ _ last.2 (hall hu)).2.mpr ⟨ih hu, last.1⟩

def Steps (next : σ → ℓ → Option σ) (s : σ) (l : ℓ) (t : σ) : Prop := next s l = some t

/-- Execute a list of labels; `none` as soon as one is not enabled. -/
def execute (next : σ → ℓ → Option σ) : σ → List ℓ → Option σ
  | s, [] => some s
  | s, l :: ls => (next s l).bind fun t => execute next t ls

theorem run_of_execute {next : σ → ℓ → Option σ} {s t : σ} {ls : List ℓ}
    (h : execute next s ls = some t) : Run (Steps next) s ls t := by
  induction ls generalizing s with
  | nil =>
    cases h
    exact .nil
  | cons l ls ih =>
    obtain ⟨u, hu, ht⟩ := Option.bind_eq_some_iff.mp h
    exact Run.cons hu (ih ht)

theorem exists_run_of_execute (next : σ → ℓ → Option σ) (s : σ) (ls : List ℓ) (p : σ → Bool)
    (h : (execute next s ls).any p = true) : ∃ t, Run (Steps next) s ls t ∧ p t = true := by
  obtain ⟨t, ht, hp⟩ := (Option.any_eq_true _ _).mp h
  exact ⟨t, run_of_execute ht, hp⟩

section Restriction

variable (condition : σ → ℓ → Prop) [∀ s l, Decidable (condition s l)]

def restrict (next : σ → ℓ → Option σ) (s : σ) (l : ℓ) : Option σ :=
  if condition s l then next s l else none

theorem run_restricted_of_execute {next : σ → ℓ → Option σ} {s t : σ} {ls : List ℓ}
    (h : execute (restrict condition next) s ls = some t) :
    Run (Restricted condition (Steps next)) s ls t := by
  refine (run_of_execute h).mono fun s l t hstep => ?_
  rw [Steps, restrict] at hstep
  split at hstep
  · exact ⟨‹_›, hstep⟩
  · cases hstep

theorem exists_restricted_run (next : σ → ℓ → Option σ) (s : σ) (ls : List ℓ)
    (h : (execute (restrict condition next) s ls).isSome = true) :
    ∃ t, execute (restrict condition next) s ls = some t ∧
      Run (Restricted condition (Steps next)) s ls t := by
  obtain ⟨t, ht⟩ := Option.isSome_iff_exists.mp h
  exact ⟨t, ht, run_restricted_of_execute condition ht⟩

end Restriction

end SmolVlaQgf.TransitionRuns
