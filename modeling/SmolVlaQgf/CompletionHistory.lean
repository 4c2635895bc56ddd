import SmolVlaQgf.Binary64
import SmolVlaQgf.TaskCompletion
import SmolVlaQgf.CallHistories
import SmolVlaQgf.Streaks

/-!
# Task completion over whole histories

The latches and the dwell clock of the detector as functions of all updates since the
reset, and from them the update that completes in terms of the history alone.
-/

namespace SmolVlaQgf.CompletionHistory
open ExactFloats FloatRounding PolicySafetyGuard TaskCompletion TaskCompletionDetector CallHistories
  Streaks

variable {K : Type} [Field K] [LinearOrder K] [Rounding K]

/-! ## The update as a method -/

/-- `update`, assignment by assignment. -/
def updateCall (config : TaskCompletionConfig K) (joints : List (PyFloat K))
    (gripperClosed : Bool) (now : PyFloat K) :
    EStateM (CompletionError K) (TaskCompletionDetector K) (TaskCompletionResult K) := do
  if !(← get).active then
    throw .inactive
  match finiteTuple joints jointCount "completion joints" with
  | .error e => throw (.unsafeJoints e)
  | .ok checked =>
    if !(now.isFinite && decide ((← get).previousTime ≤ now.exact)) then
      throw .time
    let startErrors := distances checked (← get).initialJoints
    let maximumStartError := PyFloat.maximum startErrors
    modify fun detector => { detector with
      departed := detector.departed ||
        (PyFloat.finite config.departureThresholdRad).le maximumStartError }
    modify fun detector => { detector with
      sawClose := detector.sawClose || (detector.departed && gripperClosed) }
    modify fun detector => { detector with
      sawRelease := detector.sawRelease || (detector.sawClose && !gripperClosed) }
    let dt := toFloat (now.exact - (← get).previousTime)
    let maximumSpeed := maximumSpeed checked (← get).previousJoints dt
    let insideReturnEnvelope := ∀ i, (startErrors i).le (.finite config.returnToleranceRad)
    let detector ← get
    let eligible := detector.departed ∧ detector.sawClose ∧ detector.sawRelease ∧
      !gripperClosed ∧ (PyFloat.finite config.minimumEpisodeSeconds).le
        (toFloat (now.exact - detector.startedTime)) ∧
      insideReturnEnvelope ∧ (config.stableDurationSeconds = 0 ∨
        maximumSpeed.le (.finite config.maximumStableSpeedRadS))
    modify fun detector => { detector with
      returnStableSince :=
        if eligible then some (detector.returnStableSince.getD now.exact) else none }
    let stableSeconds := stableSeconds (← get).returnStableSince now.exact
    let completes := eligible ∧ (PyFloat.finite config.stableDurationSeconds).le stableSeconds
    modify fun detector => { detector with completed := detector.completed || completes }
    modify fun detector => { detector with active := detector.active && !completes }
    modify fun detector => { detector with previousJoints := checked }
    modify fun detector => { detector with previousTime := now.exact }
    let detector ← get
    return {
      completed := detector.completed
      departed := detector.departed
      sawClose := detector.sawClose
      sawRelease := detector.sawRelease
      insideReturnEnvelope
      stableSeconds
      maximumStartErrorRad := maximumStartError
      maximumSpeedRadS := maximumSpeed }

theorem updateCall_run (config : TaskCompletionConfig K) (joints : List (PyFloat K))
    (gripperClosed : Bool) (now : PyFloat K) (detector : TaskCompletionDetector K) :
    (updateCall config joints gripperClosed now).run detector =
      (ofFunction fun detector => update config detector joints gripperClosed now).run
        detector := by
  rw [run_ofFunction, update, updateCall]
  simp only [EStateM.run_bind, EStateM.run_get, run_ite]
  cases hactive : detector.active with
  | false => rfl
  | true =>
    simp only [Bool.not_true, Bool.false_eq_true, if_false, if_true]
    cases finiteTuple joints jointCount "completion joints" with
    | error e => rfl
    | ok checked =>
      simp only [EStateM.run_bind, EStateM.run_get, run_ite]
      by_cases htime : now.isFinite ∧ detector.previousTime ≤ now.exact
      · have hok : (!(now.isFinite && decide (detector.previousTime ≤ now.exact))) = false := by
          simp [htime.1, htime.2]
        simp only [hok, Bool.false_eq_true, if_false, if_pos htime]
        rfl
      · have hraise : (!(now.isFinite && decide (detector.previousTime ≤ now.exact))) = true := by
          simpa [imp_iff_not_or] using htime
        rw [if_pos hraise, if_neg htime]
        rfl

theorem updateCall_eq (config : TaskCompletionConfig K) (joints : List (PyFloat K))
    (gripperClosed : Bool) (now : PyFloat K) :
    updateCall config joints gripperClosed now =
      ofFunction fun detector => update config detector joints gripperClosed now :=
  funext fun detector => updateCall_run config joints gripperClosed now detector

/-! ## One update -/

section Advance

variable (config : TaskCompletionConfig K) (detector : TaskCompletionDetector K)
  (joints : Fin jointCount → K) (gripperClosed : Bool) (now : K)

private theorem advance_departed : (advance config detector joints gripperClosed now).1.departed =
    (detector.departed || (PyFloat.finite config.departureThresholdRad).le
      (PyFloat.maximum (distances joints detector.initialJoints))) := rfl

private theorem advance_sawClose : (advance config detector joints gripperClosed now).1.sawClose =
    (detector.sawClose ||
      ((advance config detector joints gripperClosed now).1.departed && gripperClosed)) := rfl

private theorem advance_sawRelease :
    (advance config detector joints gripperClosed now).1.sawRelease =
    (detector.sawRelease ||
      ((advance config detector joints gripperClosed now).1.sawClose && !gripperClosed)) := rfl

/-- What an update demands while the dwell clock runs. -/
def Eligibility : Prop :=
  (advance config detector joints gripperClosed now).1.departed ∧
  (advance config detector joints gripperClosed now).1.sawClose ∧
  (advance config detector joints gripperClosed now).1.sawRelease ∧ !gripperClosed ∧
  (PyFloat.finite config.minimumEpisodeSeconds).le (toFloat (now - detector.startedTime)) ∧
  (∀ i, (distances joints detector.initialJoints i).le (.finite config.returnToleranceRad)) ∧
  (config.stableDurationSeconds = 0 ∨
    (maximumSpeed joints detector.previousJoints (toFloat (now - detector.previousTime))).le
      (.finite config.maximumStableSpeedRadS))

instance : Decidable (Eligibility config detector joints gripperClosed now) :=
  inferInstanceAs (Decidable (_ ∧ _))

private theorem advance_returnStableSince :
    (advance config detector joints gripperClosed now).1.returnStableSince =
      if Eligibility config detector joints gripperClosed now then
        some (detector.returnStableSince.getD now) else none := rfl

/-- The dwell clock has run for the stable duration. -/
def Completion : Prop :=
  Eligibility config detector joints gripperClosed now ∧
    (PyFloat.finite config.stableDurationSeconds).le
      (stableSeconds (advance config detector joints gripperClosed now).1.returnStableSince now)

instance : Decidable (Completion config detector joints gripperClosed now) :=
  inferInstanceAs (Decidable (_ ∧ _))

private theorem advance_completed : (advance config detector joints gripperClosed now).1.completed =
    (detector.completed || Completion config detector joints gripperClosed now) := rfl

private theorem advance_active : (advance config detector joints gripperClosed now).1.active =
    (detector.active && !Completion config detector joints gripperClosed now) := rfl

end Advance

/-! ## Runs -/

/-- The arguments of an update whose joints and time are finite. -/
structure CompletionFrame (K : Type) where
  joints : Fin jointCount → K
  gripperClosed : Bool
  now : K

/-- A reset and the updates after it. -/
structure CompletionRun (K : Type) [Field K] [LinearOrder K] where
  config : TaskCompletionConfig K
  initialJoints : Fin jointCount → K
  initialGripperClosed : Bool
  resetTime : K
  frames : ℕ → CompletionFrame K

omit [LinearOrder K] [Rounding K] in
private theorem reset_eq (initialJoints : Fin jointCount → K) (initialGripperClosed : Bool)
    (now : K) :
    reset (floats initialJoints) initialGripperClosed now = .ok (started initialJoints now) := by
  rw [reset, finiteTuple_floats]
  rfl

namespace CompletionRun

variable (run : CompletionRun K) (n : ℕ)

def call : EStateM (CompletionError K) (TaskCompletionDetector K) (TaskCompletionResult K) :=
  updateCall run.config (floats (run.frames n).joints) (run.frames n).gripperClosed
    (.finite (run.frames n).now)

def resetDetector : TaskCompletionDetector K :=
  match reset (floats run.initialJoints) run.initialGripperClosed run.resetTime with
  | .ok detector => detector
  | .error _ => .new

def detectorBefore : TaskCompletionDetector K := stateBefore run.call run.resetDetector n

/-- The update at a position does not raise. -/
def Accepted : Prop := (returnedAt run.call run.resetDetector n).isSome = true

def Completes : Prop :=
  (run.detectorBefore n).completed = false ∧ (run.detectorBefore (n + 1)).completed = true ∧
    (run.detectorBefore (n + 1)).active = false

/-- The pose and the time the speed of an update is measured from. -/
def precedingJoints : ℕ → Fin jointCount → K
  | 0 => run.initialJoints
  | n + 1 => (run.frames n).joints

def precedingTime : ℕ → K
  | 0 => run.resetTime
  | n + 1 => (run.frames n).now

/-- The maximum joint speed from the preceding update, 0 when no time has passed. -/
def maximumSpeed : PyFloat K :=
  TaskCompletionDetector.maximumSpeed (run.frames n).joints (run.precedingJoints n)
    (toFloat ((run.frames n).now - run.precedingTime n))

/-- Some joint is far from the reset pose. -/
def Departs : Prop :=
  ∃ i, (PyFloat.finite run.config.departureThresholdRad).le
    (distances (run.frames n).joints run.initialJoints i) = true

def Closed : Prop := (run.frames n).gripperClosed = true

/-- Open, back at the reset pose after the minimum time and, unless the dwell is
disabled, slow. -/
structure Resting : Prop where
  opened : ¬run.Closed n
  elapsed : (PyFloat.finite run.config.minimumEpisodeSeconds).le
    (toFloat ((run.frames n).now - run.resetTime)) = true
  returned : ∀ i, (distances (run.frames n).joints run.initialJoints i).le
    (.finite run.config.returnToleranceRad) = true
  slow : run.config.stableDurationSeconds = 0 ∨
    (run.maximumSpeed n).le (.finite run.config.maximumStableSpeedRadS) = true

/-- The arm departed, then or later the gripper was closed, and later open. -/
def Released : Prop := ∃ i j k, i ≤ j ∧ j < k ∧ k ≤ n ∧
  run.Departs i ∧ run.Closed j ∧ ¬run.Closed k

/-- Departure, grasp and release in that order, then rest for the stable duration. -/
def Pattern : Prop := ∃ i j k s, i ≤ j ∧ j < k ∧ k ≤ s ∧ s ≤ n ∧
  run.Departs i ∧ run.Closed j ∧ ¬run.Closed k ∧ (∀ t, s ≤ t → t ≤ n → run.Resting t) ∧
  (PyFloat.finite run.config.stableDurationSeconds).le
    (toFloat ((run.frames n).now - (run.frames s).now)) = true

variable {run n}

theorem call_eq : run.call n = ofFunction fun detector => update run.config detector
    (floats (run.frames n).joints) (run.frames n).gripperClosed (.finite (run.frames n).now) :=
  updateCall_eq _ _ _ _

private theorem update_eq (detector : TaskCompletionDetector K) :
    update run.config detector (floats (run.frames n).joints) (run.frames n).gripperClosed
        (.finite (run.frames n).now) =
      if detector.active then
        if detector.previousTime ≤ (run.frames n).now then
          .ok (advance run.config detector (run.frames n).joints (run.frames n).gripperClosed
            (run.frames n).now)
        else .error .time
      else .error .inactive := by
  simp [update]

theorem accepted_iff : run.Accepted n ↔ (run.detectorBefore n).active = true ∧
    (run.detectorBefore n).previousTime ≤ (run.frames n).now := by
  rw [Accepted, returnedAt, returned, call_eq, run_ofFunction, update_eq]
  rw [detectorBefore]
  split_ifs with hactive htime
  · simp [hactive, htime]
  · simp [htime]
  · simp [hactive]

private theorem detectorBefore_succ (h : run.Accepted n) : run.detectorBefore (n + 1) =
    (advance run.config (run.detectorBefore n) (run.frames n).joints
      (run.frames n).gripperClosed (run.frames n).now).1 := by
  obtain ⟨hactive, htime⟩ := accepted_iff.mp h
  rw [detectorBefore, stateBefore, stateAfter, call_eq, run_ofFunction, update_eq]
  rw [← detectorBefore, if_pos hactive, if_pos htime]

/-! ## What the detector remembers -/

def Grasps (run : CompletionRun K) (j : ℕ) : Prop := run.Closed j ∧ Once run.Departs (j + 1)

def Releases (run : CompletionRun K) (k : ℕ) : Prop := ¬run.Closed k ∧ Once run.Grasps k

def Eligible (run : CompletionRun K) (t : ℕ) : Prop :=
  Once run.Releases (t + 1) ∧ run.Resting t

private theorem released_iff : run.Released n ↔ Once run.Releases (n + 1) := by
  constructor
  · rintro ⟨i, j, k, hij, hjk, hkn, hi, hj, hk⟩
    exact ⟨k, by omega, hk, j, hjk, hj, i, by omega, hi⟩
  · rintro ⟨k, hkn, hk, j, hjk, hj, i, hij, hi⟩
    exact ⟨i, j, k, by omega, hjk, by omega, hi, hj, hk⟩

private theorem departed_of_grasped (h : Once run.Grasps n) : Once run.Departs n := by
  obtain ⟨j, hj, -, i, hi, hdeparts⟩ := h
  exact ⟨i, by omega, hdeparts⟩

private theorem grasped_of_released (h : Once run.Releases n) : Once run.Grasps n := by
  obtain ⟨k, hk, -, j, hj, hgrasps⟩ := h
  exact ⟨j, by omega, hgrasps⟩

open Classical in
/-- The memory of the detector as functions of the history. -/
structure Remembers (run : CompletionRun K) (n : ℕ) : Prop where
  initialJoints : (run.detectorBefore n).initialJoints = run.initialJoints
  startedTime : (run.detectorBefore n).startedTime = run.resetTime
  previousJoints : (run.detectorBefore n).previousJoints = run.precedingJoints n
  previousTime : (run.detectorBefore n).previousTime = run.precedingTime n
  departed : (run.detectorBefore n).departed = true ↔ Once run.Departs n
  sawClose : (run.detectorBefore n).sawClose = true ↔ Once run.Grasps n
  sawRelease : (run.detectorBefore n).sawRelease = true ↔ Once run.Releases n
  active : (run.detectorBefore n).active = !(run.detectorBefore n).completed
  since : (run.detectorBefore n).returnStableSince =
    if 0 < streak run.Eligible n then some (run.frames (streakStart run.Eligible n)).now else none

theorem detectorBefore_zero (run : CompletionRun K) :
    run.detectorBefore 0 = started run.initialJoints run.resetTime := by
  rw [detectorBefore, stateBefore, resetDetector, reset_eq]

theorem remembers_zero (run : CompletionRun K) : run.Remembers 0 := by
  have hunset : ∀ p : ℕ → Prop, false = true ↔ Once p 0 :=
    fun p => iff_of_false Bool.false_ne_true (once_zero p)
  constructor <;> rw [detectorBefore_zero]
  case departed => exact hunset _
  case sawClose => exact hunset _
  case sawRelease => exact hunset _
  all_goals rfl

section Step

variable (h : run.Remembers n) (hn : run.Accepted n)

include h hn

theorem Remembers.departed_succ :
    (run.detectorBefore (n + 1)).departed = true ↔ Once run.Departs (n + 1) := by
  rw [detectorBefore_succ hn, once_succ, ← h.departed]
  have hdistance (i : Fin jointCount) :
      distances (run.frames n).joints run.initialJoints i ≠ .nan :=
    PyFloat.abs_ne_nan (Rounding.toFloat_ne_nan _)
  rw [advance_departed, Bool.or_eq_true, h.initialJoints, PyFloat.le_maximum_iff hdistance, Departs]

theorem Remembers.sawClose_succ :
    (run.detectorBefore (n + 1)).sawClose = true ↔ Once run.Grasps (n + 1) := by
  have hdeparted := h.departed_succ hn
  rw [detectorBefore_succ hn] at hdeparted ⊢
  rw [once_succ, ← h.sawClose, Grasps, ← hdeparted, advance_sawClose]
  simp [Closed, and_comm]

theorem Remembers.sawRelease_succ :
    (run.detectorBefore (n + 1)).sawRelease = true ↔ Once run.Releases (n + 1) := by
  have hclose := h.sawClose_succ hn
  rw [detectorBefore_succ hn] at hclose ⊢
  rw [once_succ, ← h.sawRelease, Releases, advance_sawRelease, Bool.or_eq_true,
    Bool.and_eq_true, hclose, once_succ]
  have hopen : (!(run.frames n).gripperClosed) = true ↔ ¬run.Closed n := by simp [Closed]
  rw [hopen]
  constructor
  · rintro (hrelease | ⟨hgrasp | hgrasp, hopen⟩)
    · exact Or.inl hrelease
    · exact Or.inr ⟨hopen, hgrasp⟩
    · exact absurd hgrasp.1 hopen
  · rintro (hrelease | ⟨hopen, hgrasp⟩)
    · exact Or.inl hrelease
    · exact Or.inr ⟨Or.inl hgrasp, hopen⟩

/-- The dwell clock runs exactly while the arm rests after a release. -/
theorem Remembers.eligibility_iff [IsStrictOrderedRing K] :
    Eligibility run.config (run.detectorBefore n) (run.frames n).joints
      (run.frames n).gripperClosed (run.frames n).now ↔ run.Eligible n := by
  rw [Eligibility, ← detectorBefore_succ hn, h.departed_succ hn, h.sawClose_succ hn,
    h.sawRelease_succ hn, h.startedTime, h.initialJoints, h.previousTime, h.previousJoints]
  constructor
  · rintro ⟨-, -, hrelease, hopen, helapsed, hreturned, hslow⟩
    refine ⟨hrelease, ?_, helapsed, hreturned, hslow⟩
    simpa [Closed] using hopen
  · rintro ⟨hrelease, hopen, helapsed, hreturned, hslow⟩
    have hgrasp := grasped_of_released hrelease
    refine ⟨departed_of_grasped hgrasp, hgrasp, hrelease, ?_, helapsed, hreturned, hslow⟩
    simpa [Closed] using hopen

open Classical in
theorem Remembers.since_succ [IsStrictOrderedRing K] :
    (run.detectorBefore (n + 1)).returnStableSince =
      if run.Eligible n then some (run.frames (streakStart run.Eligible (n + 1))).now
      else none := by
  rw [detectorBefore_succ hn, advance_returnStableSince]
  simp only [h.eligibility_iff hn]
  by_cases heligible : run.Eligible n
  · rw [if_pos heligible, if_pos heligible, h.since, streakStart_succ_of heligible]
    by_cases hbefore : 0 < streak run.Eligible n
    · rw [if_pos hbefore, Option.getD_some]
    · rw [if_neg hbefore, Option.getD_none,
        streakStart_eq (Nat.eq_zero_of_not_pos hbefore)]
  · rw [if_neg heligible, if_neg heligible]

open Classical in
theorem Remembers.succ [IsStrictOrderedRing K] : run.Remembers (n + 1) where
  initialJoints := by
    rw [detectorBefore_succ hn]
    exact h.initialJoints
  startedTime := by
    rw [detectorBefore_succ hn]
    exact h.startedTime
  previousJoints := by
    rw [detectorBefore_succ hn]
    rfl
  previousTime := by
    rw [detectorBefore_succ hn]
    rfl
  departed := h.departed_succ hn
  sawClose := h.sawClose_succ hn
  sawRelease := h.sawRelease_succ hn
  active := by
    rw [detectorBefore_succ hn, advance_active, advance_completed, Bool.not_or, h.active]
  since := by
    rw [h.since_succ hn]
    exact if_congr streak_succ_pos_iff.symm rfl rfl

/-- The update that completes is the one at which the dwell clock has run long enough. -/
theorem Remembers.completes_iff : run.Completes n ↔
    Completion run.config (run.detectorBefore n) (run.frames n).joints
      (run.frames n).gripperClosed (run.frames n).now := by
  have hactive := (accepted_iff.mp hn).1
  have hcompleted := h.active
  rw [hactive, eq_comm, Bool.not_eq_true'] at hcompleted
  rw [Completes, detectorBefore_succ hn, advance_active, advance_completed, hactive, hcompleted]
  simp

end Step

theorem remembers [IsStrictOrderedRing K] (run : CompletionRun K) {n : ℕ}
    (h : ∀ i < n, run.Accepted i) : run.Remembers n := by
  induction n with
  | zero => exact remembers_zero run
  | succ n ih => exact (ih fun i hi => h i (by omega)).succ (h n n.lt_succ_self)

/-! ## The specification -/

theorem precedingTime_le [IsStrictOrderedRing K] (h : ∀ i ≤ n, run.Accepted i) :
    run.precedingTime n ≤ (run.frames n).now := by
  have hmemory := run.remembers (n := n) fun i hi => h i hi.le
  rw [← hmemory.previousTime]
  exact (accepted_iff.mp (h n le_rfl)).2

theorem now_le_now [IsStrictOrderedRing K] (h : ∀ i ≤ n, run.Accepted i) {i j : ℕ} (hij : i ≤ j)
    (hj : j ≤ n) : (run.frames i).now ≤ (run.frames j).now := by
  induction j, hij using Nat.le_induction with
  | base => exact le_rfl
  | succ j hij ih =>
    have htime : (run.frames j).now ≤ (run.frames (j + 1)).now :=
      precedingTime_le (n := j + 1) fun k hk => h k (by omega)
    exact (ih (by omega)).trans htime

/-- The pattern is a stretch over which the dwell clock runs. -/
theorem pattern_iff : run.Pattern n ↔ ∃ s ≤ n, (∀ t, s ≤ t → t ≤ n → run.Eligible t) ∧
    (PyFloat.finite run.config.stableDurationSeconds).le
      (toFloat ((run.frames n).now - (run.frames s).now)) = true := by
  constructor
  · rintro ⟨i, j, k, s, hij, hjk, hks, hsn, hi, hj, hk, hrest, hdwell⟩
    refine ⟨s, hsn, fun t hst htn => ⟨released_iff.mp ?_, hrest t hst htn⟩, hdwell⟩
    exact ⟨i, j, k, hij, hjk, by omega, hi, hj, hk⟩
  · rintro ⟨s, hsn, hall, hdwell⟩
    obtain ⟨i, j, k, hij, hjk, hks, hi, hj, hk⟩ := released_iff.mpr (hall s le_rfl hsn).1
    exact ⟨i, j, k, s, hij, hjk, hks, hsn, hi, hj, hk, fun t hst htn => (hall t hst htn).2, hdwell⟩

theorem completes_iff_pattern [IsStrictOrderedRing K] (h : ∀ i ≤ n, run.Accepted i) :
    run.Completes n ↔ run.Pattern n := by
  classical
  have hmemory := run.remembers (n := n) fun i hi => h i hi.le
  have hn := h n le_rfl
  have hlong : ∀ i j, i ≤ j → j ≤ n →
      (PyFloat.finite run.config.stableDurationSeconds).le
        (toFloat ((run.frames n).now - (run.frames j).now)) = true →
      (PyFloat.finite run.config.stableDurationSeconds).le
        (toFloat ((run.frames n).now - (run.frames i).now)) = true := fun i j hij hj hdwell =>
    PyFloat.le_trans hdwell (Rounding.toFloat_mono (sub_le_sub_left (now_le_now h hij hj) _))
  rw [hmemory.completes_iff hn, pattern_iff, held_iff hlong, Completion,
    hmemory.eligibility_iff hn, ← detectorBefore_succ hn, hmemory.since_succ hn]
  refine and_congr_right fun heligible => ?_
  have hstart : streakStart run.Eligible (n + 1) ≤ n :=
    (streakStart_succ_of heligible).le.trans (streakStart_le n)
  have hnonneg := toFloat_nonneg (sub_nonneg.mpr (now_le_now h hstart le_rfl))
  rw [if_pos heligible, stableSeconds, PyFloat.max_eq_right hnonneg]

/-- The detector stays active until an update completes. -/
theorem active_succ [IsStrictOrderedRing K] (h : ∀ i ≤ n, run.Accepted i)
    (hpattern : ¬run.Pattern n) : (run.detectorBefore (n + 1)).active = true := by
  have hmemory := run.remembers (n := n) fun i hi => h i hi.le
  have hn := h n le_rfl
  have hcompletion := hpattern
  rw [← completes_iff_pattern h, hmemory.completes_iff hn] at hcompletion
  rw [detectorBefore_succ hn, advance_active]
  simpa [(accepted_iff.mp hn).1] using hcompletion

private theorem completes_iff_first [IsStrictOrderedRing K] (h : ∀ i ≤ n, run.Accepted i) :
    run.Completes n ↔ run.Pattern n ∧ ∀ m < n, ¬run.Pattern m := by
  rw [completes_iff_pattern h, iff_self_and]
  intro _ m hm hpattern
  have hcompletes := (completes_iff_pattern fun i hi => h i (by omega)).mpr hpattern
  have hmemory := run.remembers (n := n) fun i hi => h i hi.le
  obtain ⟨-, -, hinactive⟩ := hcompletes
  have hactive := (accepted_iff.mp (h (m + 1) (by omega))).1
  exact Bool.false_ne_true (hinactive.symm.trans hactive)

end CompletionRun

/-- What makes an update raise, and that it leaves every component of the detector as it was. -/
theorem updateCall_raises (config : TaskCompletionConfig K) (joints : List (PyFloat K))
    (gripperClosed : Bool) (now : PyFloat K) (detector : TaskCompletionDetector K) :
    (returned (updateCall config joints gripperClosed now) detector = none ↔
      detector.active = false ∨ joints.length ≠ jointCount ∨ joints.all PyFloat.isFinite = false ∨
        now.isFinite = false ∨ now.exact < detector.previousTime) ∧
    RaisesUnchanged (updateCall config joints gripperClosed now) detector := by
  rw [updateCall_eq]
  refine ⟨returned_ofFunction_eq_none_iff.trans ?_, raisesUnchanged_ofFunction⟩
  rw [update, finiteTuple]
  by_cases hactive : detector.active = true
  · by_cases hlength : joints.length = jointCount
    · by_cases hfinite : joints.all PyFloat.isFinite = true
      · by_cases htime : now.isFinite ∧ detector.previousTime ≤ now.exact
        · simp [hactive, hlength, hfinite, htime]
        · simp only [if_pos hactive, dif_pos hlength, if_pos hfinite, if_neg htime]
          simpa [hactive, hlength, hfinite, imp_iff_not_or] using htime
      · simp only [if_pos hactive, dif_pos hlength, if_neg hfinite]
        simp [hfinite]
    · simp only [if_pos hactive, dif_neg hlength]
      simp [hlength]
  · simp only [if_neg hactive]
    simp [hactive]

/-- An accepted update completes exactly when it is the first to end the pattern, and an update
that raises changes nothing. -/
theorem completion_update_history [IsStrictOrderedRing K] (run : CompletionRun K) :
    (∀ n, (∀ i ≤ n, run.Accepted i) →
      (run.Completes n ↔ run.Pattern n ∧ ∀ m < n, ¬run.Pattern m)) ∧
    ∀ (joints : List (PyFloat K)) (gripperClosed : Bool) (now : PyFloat K)
      (detector : TaskCompletionDetector K),
      (returned (updateCall run.config joints gripperClosed now) detector = none ↔
        detector.active = false ∨ joints.length ≠ jointCount ∨
          joints.all PyFloat.isFinite = false ∨ now.isFinite = false ∨
          now.exact < detector.previousTime) ∧
      RaisesUnchanged (updateCall run.config joints gripperClosed now) detector := by
  refine ⟨fun n h => run.completes_iff_first h, ?_⟩
  intro joints gripperClosed now detector
  exact updateCall_raises run.config joints gripperClosed now detector

/-- The conditions with a short minimum time and a dwell of one second. -/
def dwellConfig : TaskCompletionConfig ℚ where
  departureThresholdRad := 1 / 2
  returnToleranceRad := 1 / 4
  stableDurationSeconds := 1
  minimumEpisodeSeconds := 2
  maximumStableSpeedRadS := 1 / 16
  departureThresholdRad_pos := by norm_num
  returnToleranceRad_pos := by norm_num
  minimumEpisodeSeconds_pos := by norm_num
  maximumStableSpeedRadS_pos := by norm_num
  stableDurationSeconds_nonneg := by norm_num
  hysteresis := by norm_num

/-- Depart, grasp, return and release, and rest; one update a second. -/
def deliveryRun : CompletionRun ℚ where
  config := dwellConfig
  initialJoints := fun _ => 0
  initialGripperClosed := false
  resetTime := 0
  frames := fun n => ⟨fun _ => if n < 2 then 1 else 0, n = 1, n + 1⟩

theorem deliveryRun_completes : deliveryRun.Pattern 4 ∧ ∀ m < 4, ¬deliveryRun.Pattern m := by
  have haccepted : ∀ i ≤ 4, deliveryRun.Accepted i := by
    simp only [CompletionRun.Accepted]
    decide +kernel
  have hcompletes : deliveryRun.Completes 4 := by
    simp only [CompletionRun.Completes]
    decide +kernel
  exact ((completion_update_history deliveryRun).1 4 haccepted).mp hcompletes

end SmolVlaQgf.CompletionHistory
