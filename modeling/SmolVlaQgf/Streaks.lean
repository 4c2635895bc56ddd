import Mathlib.Algebra.Order.Group.Defs
import Mathlib.Tactic.Linarith

/-!
# Streaks of a predicate over positions

The streak before a position counts the positions directly before it at which a predicate
holds. A counter that is reset where the predicate fails holds the streak, and a clock
reading taken where a streak begins tells how long the predicate has held.
-/

namespace SmolVlaQgf.Streaks

section Count

variable (p : ℕ → Prop) [DecidablePred p]

/-- The number of positions directly before `n` at which `p` holds. -/
def streak : ℕ → ℕ
  | 0 => 0
  | n + 1 => if p n then streak n + 1 else 0

/-- The first position of the streak before `n`. -/
def streakStart (n : ℕ) : ℕ := n - streak p n

variable {p} {n : ℕ}

@[simp] theorem streak_zero : streak p 0 = 0 := rfl

theorem streak_succ_of (h : p n) : streak p (n + 1) = streak p n + 1 := if_pos h

theorem streak_succ_of_not (h : ¬p n) : streak p (n + 1) = 0 := if_neg h

theorem streak_succ_pos_iff : 0 < streak p (n + 1) ↔ p n := by
  by_cases h : p n
  · simp [streak_succ_of h, h]
  · simp [streak_succ_of_not h, h]

/-- A streak is at least `k` long when `p` holds at the last `k` positions. -/
theorem le_streak_iff {k : ℕ} : k ≤ streak p n ↔ k ≤ n ∧ ∀ i, n - k ≤ i → i < n → p i := by
  induction n generalizing k with
  | zero => simp
  | succ n ih =>
    cases k with
    | zero =>
      refine iff_of_true (Nat.zero_le _) ⟨Nat.zero_le _, fun i hi hlt => ?_⟩
      omega
    | succ k =>
      by_cases h : p n
      · rw [streak_succ_of h, Nat.succ_le_succ_iff, Nat.succ_le_succ_iff, ih]
        refine and_congr_right fun hk => ⟨fun hall i hi hlt => ?_, fun hall i hi hlt => ?_⟩
        · rcases Nat.lt_succ_iff_lt_or_eq.mp hlt with hlt | rfl
          · exact hall i (by omega) hlt
          · exact h
        · exact hall i (by omega) (by omega)
      · rw [streak_succ_of_not h]
        refine iff_of_false (by omega) fun hall => h ?_
        exact hall.2 n (by omega) (by omega)

theorem streakStart_le (n : ℕ) : streakStart p n ≤ n := Nat.sub_le _ _

/-- The predicate holds throughout its streak. -/
theorem of_streakStart_le {i : ℕ} (hi : streakStart p n ≤ i) (hlt : i < n) : p i :=
  (le_streak_iff.mp le_rfl).2 i hi hlt

/-- A stretch that reaches `n` lies in the streak before `n`. -/
theorem streakStart_le_of {m : ℕ} (hm : m ≤ n) (h : ∀ i, m ≤ i → i < n → p i) :
    streakStart p n ≤ m := by
  have hstreak : n - m ≤ streak p n := by
    refine le_streak_iff.mpr ⟨Nat.sub_le _ _, fun i hi hlt => h i ?_ hlt⟩
    omega
  rw [streakStart]
  omega

theorem streakStart_succ_of (h : p n) : streakStart p (n + 1) = streakStart p n := by
  rw [streakStart, streakStart, streak_succ_of h]
  omega

/-- A streak that is not under way begins at the next position. -/
theorem streakStart_eq (h : streak p n = 0) : streakStart p n = n := by
  rw [streakStart, h, Nat.sub_zero]

/-- A streak begins at the same position seen from any position in it. -/
theorem streakStart_eq_of_le {i : ℕ} (hi : streakStart p n ≤ i) (hle : i ≤ n) :
    streakStart p i = streakStart p n := by
  induction n with
  | zero => rw [Nat.le_zero.mp hle]
  | succ n ih =>
    rcases Nat.le_succ_iff.mp hle with hlt | rfl
    · by_cases h : p n
      · rw [streakStart_succ_of h] at hi ⊢
        exact ih hi hlt
      · rw [streakStart_eq (streak_succ_of_not h)] at hi
        omega
    · rfl

/-- No streak is under way where one begins. -/
theorem streak_streakStart : streak p (streakStart p n) = 0 := by
  have hstart := streakStart_eq_of_le (p := p) le_rfl (streakStart_le n)
  have hle : streak p (streakStart p n) ≤ streakStart p n := (le_streak_iff.mp le_rfl).1
  rw [streakStart] at hstart
  omega

end Count

/-! ## Latches -/

/-- A latch that was set before `n`. -/
def Once (p : ℕ → Prop) (n : ℕ) : Prop := ∃ i < n, p i

theorem once_zero (p : ℕ → Prop) : ¬Once p 0 := fun ⟨_, hi, _⟩ => absurd hi (Nat.not_lt_zero _)

theorem once_succ {p : ℕ → Prop} {n : ℕ} : Once p (n + 1) ↔ Once p n ∨ p n :=
  Nat.exists_lt_succ_right

/-- Whether `p` has held since a position with a property that earlier positions share is decided
where its streak begins. -/
theorem held_iff {p q : ℕ → Prop} [DecidablePred p] {n : ℕ}
    (hq : ∀ i j, i ≤ j → j ≤ n → q j → q i) :
    (∃ m ≤ n, (∀ i, m ≤ i → i ≤ n → p i) ∧ q m) ↔ p n ∧ q (streakStart p (n + 1)) := by
  constructor
  · rintro ⟨m, hm, hall, hmq⟩
    refine ⟨hall n hm le_rfl, hq _ m ?_ hm hmq⟩
    exact streakStart_le_of (by omega) fun i hi hlt => hall i hi (by omega)
  · rintro ⟨hn, hstartq⟩
    have hstart : streakStart p (n + 1) ≤ n := (streakStart_succ_of hn).le.trans (streakStart_le n)
    exact ⟨_, hstart, fun i hi hle => of_streakStart_le hi (by omega), hstartq⟩

end SmolVlaQgf.Streaks
