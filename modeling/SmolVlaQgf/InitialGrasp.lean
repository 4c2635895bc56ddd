import SmolVlaQgf.CompletionHistory

/-!
# A gripper that is closed at the reset

The reset is told whether the gripper is closed, and does not keep it. A gripper that was
closed all along counts as the grasp as soon as the arm has departed, unless it has been
seen open before.
-/

namespace SmolVlaQgf.InitialGrasp
open ExactFloats FloatRounding TaskCompletion TaskCompletionDetector CompletionHistory
  CompletionRun CallHistories Streaks

variable {K : Type} [Field K] [LinearOrder K] [Rounding K]

/-- The gripper was seen open, closed at or after departure, and open again, in that order. -/
def GraspObserved (run : CompletionRun K) (n : ℕ) : Prop :=
  ∃ a b c, a < b ∧ b < c ∧ c ≤ n ∧
    ¬run.Closed a ∧ run.Closed b ∧ (∃ i ≤ b, run.Departs i) ∧ ¬run.Closed c

/-- The gripper is closed from the reset until its only release. -/
def HeldUntilRelease (run : CompletionRun K) (n : ℕ) : Prop :=
  ∃ release ≤ n, ∀ t ≤ n, run.Closed t ↔ t < release

/-- A closed gripper at or after departure has been seen open before. -/
def OpenedBefore (run : CompletionRun K) (t : ℕ) : Prop :=
  run.Closed t → (∃ i ≤ t, run.Departs i) → ∃ a < t, ¬run.Closed a

private theorem graspObserved_of_pattern {run : CompletionRun K} {n : ℕ}
    (hopened : ∀ t ≤ n, OpenedBefore run t) (h : run.Pattern n) : GraspObserved run n := by
  obtain ⟨i, j, k, s, hij, hjk, hks, hsn, hi, hj, hk, -, -⟩ := h
  obtain ⟨a, ha, hopen⟩ := hopened j (by omega) hj ⟨i, hij, hi⟩
  exact ⟨a, j, k, ha, hjk, by omega, hopen, hj, ⟨i, hij, hi⟩, hk⟩

/-- A gripper that is open and then closed has not been held until its only release. -/
theorem not_heldUntilRelease_of_graspObserved {run : CompletionRun K} {n : ℕ}
    (h : GraspObserved run n) : ¬HeldUntilRelease run n := by
  obtain ⟨a, b, c, hab, hbc, hcn, hopen, hclosed, -, -⟩ := h
  rintro ⟨release, -, hheld⟩
  have hb := (hheld b (by omega)).mp hclosed
  exact hopen ((hheld a (by omega)).mpr (by omega))

/-- While every closed gripper at or after departure has been seen open before, a run that
completes shows a grasp, and one held until its only release does not complete. -/
theorem initial_grasp_not_counted [IsStrictOrderedRing K] (run : CompletionRun K)
    (_ : run.initialGripperClosed = true) (n : ℕ) (haccepted : ∀ i ≤ n, run.Accepted i)
    (hopened : ∀ t ≤ n, OpenedBefore run t) :
    (run.Completes n → GraspObserved run n) ∧
      (HeldUntilRelease run n → ¬run.Completes n) := by
  have hobserved : run.Completes n → GraspObserved run n := fun hcompletes =>
    graspObserved_of_pattern hopened ((completes_iff_pattern haccepted).mp hcompletes)
  refine ⟨hobserved, fun hheld hcompletes => ?_⟩
  exact not_heldUntilRelease_of_graspObserved (hobserved hcompletes) hheld

/-- Seen open at the reset pose, closed away from it and open again on return. -/
def openedRun : CompletionRun ℚ where
  config := dwellConfig
  initialJoints := fun _ => 0
  initialGripperClosed := true
  resetTime := 0
  frames := fun n => ⟨fun _ => if n = 1 then 1 else 0, n = 1, n + 1⟩

theorem openedRun_shows_grasp : GraspObserved openedRun 4 := by
  have haccepted : ∀ i ≤ 4, openedRun.Accepted i := by
    simp only [CompletionRun.Accepted]
    decide +kernel
  have hopened : ∀ t ≤ 4, OpenedBefore openedRun t := by
    intro t _ hclosed _
    have ht : t = 1 := by simpa [Closed, openedRun] using hclosed
    refine ⟨0, by omega, ?_⟩
    simp [Closed, openedRun]
  have hcompletes : openedRun.Completes 4 := by
    simp only [CompletionRun.Completes]
    decide +kernel
  exact (initial_grasp_not_counted openedRun rfl 4 haccepted hopened).1 hcompletes

/-- Held closed from the reset on, carried away and back, and released once. -/
def heldRun : CompletionRun ℚ where
  config := dwellConfig
  initialJoints := fun _ => 0
  initialGripperClosed := true
  resetTime := 0
  frames := fun n => ⟨fun _ => if n < 2 then 1 else 0, n < 2, n + 1⟩

theorem heldRun_completes : heldRun.initialGripperClosed = true ∧
    (∀ i ≤ 4, heldRun.Accepted i) ∧ HeldUntilRelease heldRun 4 ∧ heldRun.Completes 4 ∧
    ¬GraspObserved heldRun 4 := by
  have hheld : HeldUntilRelease heldRun 4 :=
    ⟨2, by omega, fun t _ => by simp [Closed, heldRun]⟩
  refine ⟨rfl, ?_, hheld, ?_, fun h => not_heldUntilRelease_of_graspObserved h hheld⟩
  · simp only [CompletionRun.Accepted]
    decide +kernel
  · simp only [CompletionRun.Completes]
    decide +kernel

/-! ## The condition is needed -/

/-- The same run up to and including an update, and other updates after it. -/
def continued (run : CompletionRun K) (n : ℕ) (later : ℕ → CompletionFrame K) :
    CompletionRun K :=
  { run with frames := fun i => if i ≤ n then run.frames i else later i }

section Continued

variable {run : CompletionRun K} {n : ℕ} {later : ℕ → CompletionFrame K}

omit [Rounding K] in
private theorem continued_frames {i : ℕ} (hi : i ≤ n) :
    (continued run n later).frames i = run.frames i := if_pos hi

omit [Rounding K] in
private theorem continued_frames_later {i : ℕ} (hi : n < i) :
    (continued run n later).frames i = later i := if_neg hi.not_ge

end Continued

/-- While no update has completed, an update in time order is accepted. -/
theorem accepted_of_not_pattern [IsStrictOrderedRing K] {run : CompletionRun K} {n : ℕ}
    (htime : ∀ i ≤ n, run.precedingTime i ≤ (run.frames i).now)
    (hpattern : ∀ i < n, ¬run.Pattern i) : ∀ i ≤ n, run.Accepted i := by
  intro i hi
  induction i using Nat.strong_induction_on with
  | _ i ih =>
    have hmemory := run.remembers (n := i) fun j hj => ih j hj (by omega)
    refine accepted_iff.mpr ⟨?_, hmemory.previousTime ▸ htime i hi⟩
    cases i with
    | zero =>
      rw [detectorBefore_zero]
      rfl
    | succ i =>
      have hbefore : ∀ j ≤ i, run.Accepted j := fun j hj => ih j (by omega) (by omega)
      exact active_succ hbefore (hpattern i (by omega))

/-- The gripper opens at the reset pose and rests there, from `start` seconds after the reset on
with `gap` seconds between the updates. -/
def releaseAtRest (run : CompletionRun K) (start gap : K) (n i : ℕ) : CompletionFrame K where
  joints := run.initialJoints
  gripperClosed := false
  now := max (run.frames n).now (run.resetTime + start) + (i - n : ℕ) * gap

section Release

variable [IsStrictOrderedRing K] {run : CompletionRun K} {start gap : K} {n : ℕ}

omit [Rounding K] in
private theorem releaseAtRest_now_le (hgap : 0 ≤ gap) {i j : ℕ} (hij : i ≤ j) :
    (releaseAtRest run start gap n i).now ≤ (releaseAtRest run start gap n j).now := by
  have hcast : ((i - n : ℕ) : K) ≤ (j - n : ℕ) := Nat.cast_le.mpr (by omega)
  exact add_le_add_right (mul_le_mul_of_nonneg_right hcast hgap) _

omit [Rounding K] in
private theorem now_le_releaseAtRest (hgap : 0 ≤ gap) (i : ℕ) :
    (run.frames n).now ≤ (releaseAtRest run start gap n i).now := by
  have hzero : 0 ≤ ((i - n : ℕ) : K) * gap := mul_nonneg (Nat.cast_nonneg _) hgap
  exact (le_max_left _ _).trans (le_add_of_nonneg_right hzero)

omit [Rounding K] in
private theorem start_le_releaseAtRest (hgap : 0 ≤ gap) (i : ℕ) :
    start ≤ (releaseAtRest run start gap n i).now - run.resetTime := by
  have hzero : 0 ≤ ((i - n : ℕ) : K) * gap := mul_nonneg (Nat.cast_nonneg _) hgap
  rw [le_sub_iff_add_le, add_comm]
  exact (le_max_right _ _).trans (le_add_of_nonneg_right hzero)

theorem distances_self (joints : Fin PolicySafetyGuard.jointCount → K)
    (i : Fin PolicySafetyGuard.jointCount) : distances joints joints i = .finite 0 := by
  rw [distances, sub_self, Rounding.toFloat_zero, PyFloat.abs, abs_zero]

theorem maximumSpeed_self_le (joints : Fin PolicySafetyGuard.jointCount → K) (dt : PyFloat K)
    {limit : K} (hlimit : 0 ≤ limit) :
    (TaskCompletionDetector.maximumSpeed joints joints dt).le (.finite limit) = true := by
  rw [TaskCompletionDetector.maximumSpeed]
  split_ifs with hdt
  · refine PyFloat.maximum_le fun i => ?_
    rw [distances_self]
    cases dt with
    | finite x => simpa [PyFloat.div] using hlimit
    | posInf => exact PyFloat.finite_le_finite.mpr hlimit
    | negInf => cases hdt
    | nan => cases hdt
  · exact PyFloat.finite_le_finite.mpr hlimit

/-- From the second update at the reset pose on the arm rests. -/
theorem resting_releaseAtRest (hgap : 0 ≤ gap)
    (hstart : (PyFloat.finite run.config.minimumEpisodeSeconds).le (toFloat start) = true) {i : ℕ}
    (hi : n + 1 < i) : (continued run n (releaseAtRest run start gap n)).Resting i := by
  obtain ⟨i, rfl⟩ : ∃ j, i = j + 1 := ⟨i - 1, by omega⟩
  have hframe : (continued run n (releaseAtRest run start gap n)).frames (i + 1) =
      releaseAtRest run start gap n (i + 1) := continued_frames_later (by omega)
  have hprevious : (continued run n (releaseAtRest run start gap n)).frames i =
      releaseAtRest run start gap n i :=
    continued_frames_later (by omega)
  have htolerance := run.config.returnToleranceRad_pos.le
  refine ⟨?_, ?_, fun joint => ?_, Or.inr ?_⟩
  · rw [Closed, hframe]
    exact Bool.false_ne_true
  · rw [hframe]
    exact PyFloat.le_trans hstart (Rounding.toFloat_mono (start_le_releaseAtRest hgap (i + 1)))
  · rw [hframe]
    have hself : distances (releaseAtRest run start gap n (i + 1)).joints
        (continued run n (releaseAtRest run start gap n)).initialJoints joint = .finite 0 :=
      distances_self run.initialJoints joint
    rw [hself]
    exact PyFloat.finite_le_finite.mpr htolerance
  · rw [CompletionRun.maximumSpeed, precedingJoints, hframe, hprevious]
    exact maximumSpeed_self_le _ _ run.config.maximumStableSpeedRadS_pos.le

theorem precedingTime_releaseAtRest_le (hgap : 0 ≤ gap) (h : ∀ i ≤ n, run.Accepted i) (i : ℕ) :
    (continued run n (releaseAtRest run start gap n)).precedingTime i ≤
      ((continued run n (releaseAtRest run start gap n)).frames i).now := by
  by_cases hi : i ≤ n
  · rw [continued_frames hi]
    have htime := precedingTime_le (n := i) fun j hj => h j (by omega)
    cases i with
    | zero => exact htime
    | succ i =>
      rw [precedingTime, continued_frames (by omega)]
      exact htime
  · obtain ⟨i, rfl⟩ : ∃ j, i = j + 1 := ⟨i - 1, by omega⟩
    have hnow : (continued run n (releaseAtRest run start gap n)).frames (i + 1) =
        releaseAtRest run start gap n (i + 1) := continued_frames_later (Nat.lt_of_not_le hi)
    rw [precedingTime, hnow]
    rcases (show i = n ∨ n < i by omega) with rfl | hlt
    · rw [continued_frames le_rfl]
      exact now_le_releaseAtRest hgap _
    · rw [continued_frames_later hlt]
      exact releaseAtRest_now_le hgap (Nat.le_succ i)

private theorem pattern_releaseAtRest (hgap : 0 ≤ gap)
    (hstart : (PyFloat.finite run.config.minimumEpisodeSeconds).le (toFloat start) = true)
    (hstable : (PyFloat.finite run.config.stableDurationSeconds).le (toFloat gap) = true)
    (hclosed : run.Closed n) (hdeparts : ∃ i ≤ n, run.Departs i) :
    (continued run n (releaseAtRest run start gap n)).Pattern (n + 3) := by
  obtain ⟨i, hi, hdeparts⟩ := hdeparts
  refine ⟨i, n, n + 1, n + 2, hi, by omega, by omega, by omega, ?_, ?_, ?_,
    fun t ht _ => resting_releaseAtRest hgap hstart (by omega), ?_⟩
  · rw [Departs, continued_frames hi]
    exact hdeparts
  · rw [Closed, continued_frames le_rfl]
    exact hclosed
  · rw [Closed, continued_frames_later (by omega)]
    exact Bool.false_ne_true
  · rw [continued_frames_later (by omega), continued_frames_later (by omega)]
    have hthree : ((n + 3 - n : ℕ) : K) = (n + 2 - n : ℕ) + 1 := by
      rw [Nat.add_sub_cancel_left, Nat.add_sub_cancel_left]
      exact Nat.cast_succ 2
    have hgap : (releaseAtRest run start gap n (n + 3)).now -
        (releaseAtRest run start gap n (n + 2)).now = gap := by
      simp only [releaseAtRest, hthree, add_mul, one_mul]
      ring
    rw [hgap]
    exact hstable

/-- An update that breaks the condition can be followed by a completion without a grasp. -/
theorem not_openedBefore_can_complete (haccepted : ∀ i ≤ n, run.Accepted i)
    (hn : ¬OpenedBefore run n) :
    ∃ later m, (∀ i ≤ m, (continued run n later).Accepted i) ∧
      (continued run n later).Completes m ∧ ¬GraspObserved (continued run n later) m := by
  classical
  simp only [OpenedBefore, Classical.not_imp, not_exists, not_and, not_not] at hn
  obtain ⟨hclosed, hdeparts, hheld⟩ := hn
  -- a start and a gap that are long enough after rounding
  obtain ⟨start, hstart⟩ := Rounding.exists_le_toFloat run.config.minimumEpisodeSeconds
  obtain ⟨step, hstep⟩ := Rounding.exists_le_toFloat run.config.stableDurationSeconds
  have hgap : 0 ≤ max 0 step := le_max_left 0 step
  have hstable := PyFloat.le_trans hstep (Rounding.toFloat_mono (le_max_right 0 step))
  have hpattern : ∃ m, (continued run n (releaseAtRest run start (max 0 step) n)).Pattern m :=
    ⟨n + 3, pattern_releaseAtRest hgap hstart hstable hclosed hdeparts⟩
  have hfirst := accepted_of_not_pattern (n := Nat.find hpattern)
    (fun i _ => precedingTime_releaseAtRest_le hgap haccepted i)
    (fun i hi => Nat.find_min hpattern hi)
  refine ⟨_, _, hfirst, (completes_iff_pattern hfirst).mpr (Nat.find_spec hpattern), ?_⟩
  rintro ⟨a, b, c, hab, -, -, hopen, hb, -, -⟩
  have ha : n < a := by
    by_contra! hle
    rw [Closed, continued_frames hle] at hopen
    rcases hle.lt_or_eq with hlt | rfl
    · exact hopen (hheld a hlt)
    · exact hopen hclosed
  rw [Closed, continued_frames_later (by omega)] at hb
  exact Bool.false_ne_true hb

end Release

end SmolVlaQgf.InitialGrasp
