import Mathlib.Logic.Function.Basic
import SmolVlaQgf.TransitionRuns

/-!
# Resource invariants of one lock

Processes with local stages change a shared state one step at a time, and some stages lie
inside a lock. An invariant of the resource holds whenever the lock is free, and each process
has an invariant of its own, which may speak about the resource while the process is inside.
-/

namespace SmolVlaQgf.ResourceInvariants
open TransitionRuns

variable {ι σ L : Type*} [DecidableEq ι]

/-- The shared state, the owner of the lock and the stage of each process. -/
structure LockState (ι σ L : Type*) where
  shared : σ
  lock : Option ι
  stage : ι → L

/-- The lock after a process has reached a stage inside or outside. -/
def lockAfter (lock : Option ι) (i : ι) (inside : Bool) : Option ι :=
  if inside then some i else if lock = some i then none else lock

variable (inside : L → Bool) (move : ι → σ → L → σ → L → Prop)

/-- One process moves; it goes inside only while the lock is free. -/
inductive LockStep (s : LockState ι σ L) (i : ι) : LockState ι σ L → Prop where
  | moved {shared : σ} {stage : L} (hmove : move i s.shared (s.stage i) shared stage)
      (hfree : inside (s.stage i) = false → inside stage = true → s.lock = none) :
      LockStep s i ⟨shared, lockAfter s.lock i (inside stage), Function.update s.stage i stage⟩

/-- The owner of the lock is inside and nobody else is, the resource invariant holds while
the lock is free, and every process has its own invariant. -/
structure Invariant (R : σ → Prop) (P : ι → L → σ → Prop) (s : LockState ι σ L) : Prop where
  owner : ∀ i, inside (s.stage i) = true ↔ s.lock = some i
  resource : s.lock = none → R s.shared
  own : ∀ i, P i (s.stage i) s.shared

variable {inside move} {R : σ → Prop} {P : ι → L → σ → Prop} {s t : LockState ι σ L} {i j : ι}

omit [DecidableEq ι] in
theorem Invariant.eq_of_inside (h : Invariant inside R P s) (hi : inside (s.stage i) = true)
    (hj : inside (s.stage j) = true) : i = j :=
  Option.some.inj (((h.owner i).mp hi).symm.trans ((h.owner j).mp hj))

omit [DecidableEq ι] in
theorem Invariant.outside_of_free (h : Invariant inside R P s) (hfree : s.lock = none) (i : ι) :
    inside (s.stage i) = false := by
  rw [Bool.eq_false_iff]
  intro hinside
  rw [(h.owner i).mp hinside] at hfree
  cases hfree

omit [DecidableEq ι] in
theorem Invariant.free_of_outside (h : Invariant inside R P s)
    (houtside : ∀ i, inside (s.stage i) = false) : s.lock = none := by
  cases hlock : s.lock with
  | none => rfl
  | some i =>
    have hinside := (h.owner i).mpr hlock
    rw [houtside i] at hinside
    cases hinside

/-- What the moves of a process have to preserve: its own invariant, that of any other
process, and the resource if the process is outside afterwards. -/
structure Preserves (inside : L → Bool) (move : ι → σ → L → σ → L → Prop) (R : σ → Prop)
    (P : ι → L → σ → Prop) : Prop where
  own : ∀ {i a l b m}, move i a l b m → P i l a → (inside l = false → inside m = true → R a) →
    P i m b
  other : ∀ {i j a l b m k}, move i a l b m → i ≠ j → P i l a →
    (inside l = true ∨ inside m = true → inside k = false) → P j k a → P j k b
  resource : ∀ {i a l b m}, move i a l b m → P i l a → (inside l = false → R a) →
    inside m = false → R b

omit [DecidableEq ι] in
/-- While a process is inside or goes inside, the others are outside. -/
theorem Invariant.others_outside (h : Invariant inside R P s) {stage : L}
    (hfree : inside (s.stage i) = false → inside stage = true → s.lock = none) (hij : i ≠ j)
    (hinside : inside (s.stage i) = true ∨ inside stage = true) : inside (s.stage j) = false := by
  cases hi : inside (s.stage i) with
  | true =>
    rw [Bool.eq_false_iff]
    exact fun hj => hij (h.eq_of_inside hi hj)
  | false =>
    rw [hi] at hinside
    exact h.outside_of_free (hfree hi (hinside.resolve_left Bool.false_ne_true)) j

/-- The owner of the lock after a move is the one process that is inside. -/
theorem Invariant.owner_after (h : Invariant inside R P s) {stage : L}
    (hfree : inside (s.stage i) = false → inside stage = true → s.lock = none) (j : ι) :
    inside (Function.update s.stage i stage j) = true ↔
      lockAfter s.lock i (inside stage) = some j := by
  by_cases hij : i = j
  · subst hij
    rw [Function.update_self, lockAfter]
    cases inside stage with
    | true => simp
    | false =>
      have hnot : (if s.lock = some i then none else s.lock) ≠ some i := by
        split <;> simp_all
      simp [hnot]
  · rw [Function.update_of_ne (Ne.symm hij), lockAfter]
    cases hstage : inside stage with
    | true =>
      have houtside := h.others_outside hfree hij (Or.inr hstage)
      simp [houtside, hij]
    | false =>
      rw [h.owner j, if_neg Bool.false_ne_true]
      split
      · rename_i hlock
        simp [hlock, hij]
      · exact Iff.rfl

theorem invariant_of_step (hpreserves : Preserves inside move R P)
    (h : Invariant inside R P s) (hstep : LockStep inside move s i t) : Invariant inside R P t := by
  obtain ⟨hmove, hfree⟩ := hstep
  rename_i shared stage
  have hown := h.own i
  refine ⟨h.owner_after hfree, fun hlock => ?_, fun j => ?_⟩
  · have houtside : inside stage = false := by
      rw [Bool.eq_false_iff]
      intro hinside
      simp [lockAfter, hinside] at hlock
    refine hpreserves.resource hmove hown (fun hi => h.resource ?_) houtside
    have hnot : s.lock ≠ some i := fun howner => by simp [(h.owner i).mpr howner] at hi
    simpa [lockAfter, houtside, hnot] using hlock
  · by_cases hij : i = j
    · subst hij
      dsimp only
      rw [Function.update_self]
      exact hpreserves.own hmove hown fun hi hstage => h.resource (hfree hi hstage)
    · dsimp only
      rw [Function.update_of_ne (Ne.symm hij)]
      exact hpreserves.other hmove hij hown (h.others_outside hfree hij) (h.own j)

/-- The invariants hold along every run whose steps are moves under the lock. -/
theorem invariant_of_run {ℓ : Type*} {step : LockState ι σ L → ℓ → LockState ι σ L → Prop}
    (hpreserves : Preserves inside move R P)
    (hsteps : ∀ s l t, step s l t → ∃ i, LockStep inside move s i t) {ls : List ℓ}
    (hrun : Run step s ls t) (h : Invariant inside R P s) : Invariant inside R P t :=
  hrun.invariant (fun _ _ _ hstep hinv =>
    have ⟨_, hmove⟩ := hsteps _ _ _ hstep
    invariant_of_step hpreserves hinv hmove) h

end SmolVlaQgf.ResourceInvariants
