import SmolVlaQgf.CompletionHistory

/-!
# Motion during the dwell

Every update of a dwell bounds the measured speed since the update before it, unless no time has
passed: then the speed counts as zero, whatever the joints did. The displacement over a dwell is
bounded by the speed limit exactly when no two consecutive updates at one time differ and no speed
above the limit is rounded down to it, and by the limit with the rounding error exactly when no two
consecutive updates at one time differ.
-/

namespace SmolVlaQgf.StableDwell
open ExactFloats FloatRounding PolicySafetyGuard TaskCompletion TaskCompletionDetector
  CallHistories Streaks CompletionHistory CompletionRun

variable {K : Type} [Field K] [LinearOrder K]

section Telescoping

variable [IsStrictOrderedRing K]

/-- A bound on the speed of every step of a path bounds its speed over any stretch. -/
theorem abs_sub_le_of_steps (position clock : ℕ → K) {limit : K} {s n : ℕ}
    (hstep : ∀ t, s ≤ t → t < n →
      |position (t + 1) - position t| ≤ limit * (clock (t + 1) - clock t))
    {m m' : ℕ} (hs : s ≤ m) (hle : m ≤ m') (hn : m' ≤ n) :
    |position m' - position m| ≤ limit * (clock m' - clock m) := by
  induction m', hle using Nat.le_induction with
  | base => simp
  | succ t hmt ih =>
    have hbefore := ih (by omega)
    have hlast := hstep t (by omega) (by omega)
    calc |position (t + 1) - position m|
        ≤ |position (t + 1) - position t| + |position t - position m| := abs_sub_le _ _ _
      _ ≤ limit * (clock (t + 1) - clock t) + limit * (clock t - clock m) :=
          add_le_add hlast hbefore
      _ = limit * (clock (t + 1) - clock m) := by ring

end Telescoping

end SmolVlaQgf.StableDwell

namespace SmolVlaQgf.StableDwell
open ExactFloats FloatRounding PolicySafetyGuard TaskCompletion TaskCompletionDetector

variable {K : Type} [Field K] [LinearOrder K] [Rounding K] [IsStrictOrderedRing K]

/-- A speed limit with the error that rounding the distance, the time and their quotient can
make. -/
def roundedLimit (limit : K) : K :=
  (limit + Rounding.underflow) * (1 + Rounding.unitRoundoff) / (1 - Rounding.unitRoundoff) ^ 2

theorem dt_cases {earlier later : K} (h : earlier ≤ later) :
    (PyFloat.finite 0).lt (toFloat (later - earlier)) = true ∨
      toFloat (later - earlier) = .finite 0 := by
  have hnonneg := toFloat_nonneg (sub_nonneg.mpr h)
  by_cases hpos : (PyFloat.finite 0).lt (toFloat (later - earlier)) = true
  · exact Or.inl hpos
  · refine Or.inr (by_contra fun hne => hpos ?_)
    exact PyFloat.lt_of_le_of_ne hnonneg fun heq => hne heq.symm

/-- Floats that differ are some measured time apart. -/
theorem dt_pos_of_floats {earlier later : K} (he : toFloat earlier = .finite earlier)
    (hl : toFloat later = .finite later) (h : earlier < later) :
    (PyFloat.finite 0).lt (toFloat (later - earlier)) = true := by
  rcases dt_cases h.le with hpos | hzero
  · exact hpos
  · have herror := Rounding.sub_error hl he hzero
    have hsub := sub_pos.mpr h
    have hroundoff := Rounding.unitRoundoff_lt_one (K := K)
    rw [zero_sub, abs_neg, abs_of_pos hsub] at herror
    have hlt := mul_lt_mul_of_pos_right hroundoff hsub
    linarith

def jointSpeed (joints previous : Fin jointCount → K) (dt : PyFloat K) (i : Fin jointCount) :
    PyFloat K := (distances joints previous i).div dt

omit [IsStrictOrderedRing K] in
/-- A measured time of zero gives no speed above a limit. -/
theorem jointSpeed_zero {limit : K} (hlimit : 0 < limit) (joints previous : Fin jointCount → K)
    (i : Fin jointCount) :
    (PyFloat.finite limit).lt (jointSpeed joints previous (.finite 0) i) = false := by
  rw [jointSpeed, distances]
  cases toFloat (joints i - previous i) with
  | finite x => simpa [PyFloat.abs, PyFloat.div, PyFloat.lt] using hlimit.le
  | nan => rfl
  | posInf | negInf => simp [PyFloat.abs, PyFloat.div, PyFloat.infinite, PyFloat.lt]

/-- The distance, the time and their quotient are each off by the relative error. -/
theorem le_roundedLimit {limit distance time a b : K} (hb : 0 < b)
    (hdistance : (1 - Rounding.unitRoundoff) * distance ≤ a)
    (htime : b ≤ (1 + Rounding.unitRoundoff) * time)
    (hquotient : (1 - Rounding.unitRoundoff) * (a / b) ≤ limit + Rounding.underflow)
    (hnonneg : 0 ≤ limit + Rounding.underflow) : distance ≤ roundedLimit limit * time := by
  have hroundoff : 0 < 1 - Rounding.unitRoundoff (K := K) :=
    sub_pos.mpr Rounding.unitRoundoff_lt_one
  have hquotient' : (1 - Rounding.unitRoundoff) * a ≤ (limit + Rounding.underflow) * b := by
    rwa [mul_div_assoc', div_le_iff₀ hb] at hquotient
  rw [roundedLimit, div_mul_eq_mul_div, le_div_iff₀ (pow_pos hroundoff 2)]
  calc distance * (1 - Rounding.unitRoundoff) ^ 2
      = (1 - Rounding.unitRoundoff) * ((1 - Rounding.unitRoundoff) * distance) := by ring
    _ ≤ (1 - Rounding.unitRoundoff) * a := mul_le_mul_of_nonneg_left hdistance hroundoff.le
    _ ≤ (limit + Rounding.underflow) * b := hquotient'
    _ ≤ (limit + Rounding.underflow) * ((1 + Rounding.unitRoundoff) * time) :=
        mul_le_mul_of_nonneg_left htime hnonneg
    _ = (limit + Rounding.underflow) * (1 + Rounding.unitRoundoff) * time := by ring

/-- A finite quotient that is measured at most a limit is at most the limit, but for the error. -/
theorem quotient_le {limit q : K} (hq : 0 ≤ q)
    (hslow : (PyFloat.finite limit).lt (toFloat q) = false) :
    (1 - Rounding.unitRoundoff) * q ≤ limit + Rounding.underflow := by
  have hle := (PyFloat.lt_eq_false_iff (by simp) (Rounding.toFloat_ne_nan q)).mp hslow
  have hnonneg := toFloat_nonneg hq
  cases hrounded : toFloat q with
  | finite y =>
    rw [hrounded] at hle
    have herror := (abs_le.mp (Rounding.toFloat_error hrounded)).1
    rw [abs_of_nonneg hq] at herror
    have hy := PyFloat.finite_le_finite.mp hle
    linarith
  | posInf =>
    rw [hrounded] at hle
    cases hle
  | negInf =>
    rw [hrounded] at hnonneg
    cases hnonneg
  | nan => exact absurd hrounded (Rounding.toFloat_ne_nan q)

/-- A speed that is measured at most the limit is at most the limit with the rounding error. -/
theorem abs_sub_le_roundedLimit {limit x x' t t' : K} (hx : toFloat x = .finite x)
    (hx' : toFloat x' = .finite x') (ht : toFloat t = .finite t) (ht' : toFloat t' = .finite t')
    (htime : t < t') (hrange : (toFloat (t' - t)).isFinite = true)
    (hslow : (PyFloat.finite limit).lt
      ((toFloat (x' - x)).abs.div (toFloat (t' - t))) = false) :
    |x' - x| ≤ roundedLimit limit * (t' - t) := by
  have hdt := dt_pos_of_floats ht ht' htime
  have hsub := sub_pos.mpr htime
  cases hb : toFloat (t' - t) with
  | finite b =>
    rw [hb] at hdt hslow
    have hbpos : 0 < b := PyFloat.finite_lt_finite.mp hdt
    have hberror := (abs_le.mp (Rounding.sub_error ht' ht hb)).2
    rw [abs_of_pos hsub] at hberror
    cases ha : toFloat (x' - x) with
    | finite a =>
      rw [ha] at hslow
      have hquotient := quotient_le (div_nonneg (abs_nonneg a) hbpos.le) hslow
      have haerror := Rounding.sub_error hx' hx ha
      have hadistance := abs_sub_abs_le_abs_sub (x' - x) a
      rw [abs_sub_comm (x' - x) a] at hadistance
      refine le_roundedLimit hbpos (a := |a|) ?_ ?_ hquotient ?_
      · linarith
      · linarith
      · refine le_trans (mul_nonneg ?_ (div_nonneg (abs_nonneg a) hbpos.le)) hquotient
        exact sub_nonneg.mpr Rounding.unitRoundoff_lt_one.le
    | posInf | negInf =>
      rw [ha] at hslow
      simp [PyFloat.abs, PyFloat.div, PyFloat.infinite, hbpos, PyFloat.lt] at hslow
    | nan => exact absurd ha (Rounding.toFloat_ne_nan _)
  | posInf | negInf | nan =>
    rw [hb] at hrange
    cases hrange

end SmolVlaQgf.StableDwell

namespace SmolVlaQgf.CompletionHistory.CompletionRun
open ExactFloats FloatRounding PolicySafetyGuard TaskCompletion TaskCompletionDetector
  CallHistories Streaks StableDwell

variable {K : Type} [Field K] [LinearOrder K] [Rounding K] (run : CompletionRun K) (s n : ℕ)

/-- The dwell clock that runs after update `n` was started by update `s`. -/
structure DwellBegan : Prop where
  le : s ≤ n
  stopped : (run.detectorBefore s).returnStableSince = none
  running : ∀ t, s ≤ t → t ≤ n →
    (run.detectorBefore (t + 1)).returnStableSince = some (run.frames s).now

/-- No joint moves faster than a limit between any two of the updates. -/
def SpeedBounded (limit : K) : Prop :=
  ∀ m m', s ≤ m → m ≤ m' → m' ≤ n → ∀ i,
    |(run.frames m').joints i - (run.frames m).joints i| ≤
      limit * ((run.frames m').now - (run.frames m).now)

/-- Consecutive updates at one time report the same joints. -/
def SteadyAtEqualTimes : Prop :=
  ∀ t, s ≤ t → t < n → (run.frames (t + 1)).now = (run.frames t).now →
    (run.frames (t + 1)).joints = (run.frames t).joints

/-- Between consecutive updates with time between them, a speed above the limit is above it after
rounding. -/
def NoSpeedRoundedDown : Prop :=
  ∀ t, s ≤ t → t < n → (run.frames t).now < (run.frames (t + 1)).now → ∀ i,
    run.config.maximumStableSpeedRadS * ((run.frames (t + 1)).now - (run.frames t).now) <
        |(run.frames (t + 1)).joints i - (run.frames t).joints i| →
      (PyFloat.finite run.config.maximumStableSpeedRadS).lt
        (jointSpeed (run.frames (t + 1)).joints (run.frames t).joints
          (toFloat ((run.frames (t + 1)).now - (run.frames t).now)) i) = true

/-- The times and joints are floats, and the time between consecutive updates does not overflow. -/
structure InFloatRange : Prop where
  now : ∀ t, s ≤ t → t ≤ n → toFloat (run.frames t).now = .finite (run.frames t).now
  joints : ∀ t, s ≤ t → t ≤ n → ∀ i,
    toFloat ((run.frames t).joints i) = .finite ((run.frames t).joints i)
  dt : ∀ t, s ≤ t → t < n →
    (toFloat ((run.frames (t + 1)).now - (run.frames t).now)).isFinite = true

variable {run s n} [IsStrictOrderedRing K]

omit [IsStrictOrderedRing K] in
theorem DwellBegan.unique {s' : ℕ} (h : run.DwellBegan s n) (h' : run.DwellBegan s' n) :
    s' = s := by
  rcases Nat.lt_trichotomy s' s with hlt | heq | hlt
  · have hrunning := h'.running (s - 1) (by omega) (by have := h.le; omega)
    rw [Nat.sub_add_cancel (by omega), h.stopped] at hrunning
    cases hrunning
  · exact heq
  · have hrunning := h.running (s' - 1) (by omega) (by have := h'.le; omega)
    rw [Nat.sub_add_cancel (by omega), h'.stopped] at hrunning
    cases hrunning

/-- The clock runs after an update exactly when the update is eligible. -/
theorem eligible_of_since {t : ℕ} (h : ∀ i ≤ t, run.Accepted i) {since : K}
    (hsince : (run.detectorBefore (t + 1)).returnStableSince = some since) : run.Eligible t := by
  classical
  have hmemory := run.remembers (n := t) fun i hi => h i hi.le
  by_contra hnot
  rw [hmemory.since_succ (h t le_rfl), if_neg hnot] at hsince
  cases hsince

omit [IsStrictOrderedRing K] in
/-- No joint is measured faster than the limit at an eligible update that has a positive time. -/
theorem jointSpeed_of_eligible {t : ℕ} (hstable : run.config.stableDurationSeconds ≠ 0)
    (heligible : run.Eligible (t + 1))
    (htime : (PyFloat.finite 0).lt
      (toFloat ((run.frames (t + 1)).now - (run.frames t).now)) = true) (i : Fin jointCount) :
    (PyFloat.finite run.config.maximumStableSpeedRadS).lt
      (jointSpeed (run.frames (t + 1)).joints (run.frames t).joints
        (toFloat ((run.frames (t + 1)).now - (run.frames t).now)) i) = false := by
  have hslow := heligible.2.slow.resolve_left hstable
  rw [CompletionRun.maximumSpeed, precedingTime, TaskCompletionDetector.maximumSpeed,
    if_pos htime] at hslow
  exact PyFloat.lt_eq_false_of_maximum_le hslow i

/-- A bound on the steps of a dwell in which time passes bounds it, if no joint jumps in a step
without time. -/
theorem speedBounded_of_steps (h : ∀ i ≤ n, run.Accepted i) {limit : K}
    (hsteady : run.SteadyAtEqualTimes s n)
    (hstep : ∀ t, s ≤ t → t < n → (run.frames t).now < (run.frames (t + 1)).now → ∀ i,
      |(run.frames (t + 1)).joints i - (run.frames t).joints i| ≤
        limit * ((run.frames (t + 1)).now - (run.frames t).now)) :
    run.SpeedBounded s n limit := by
  intro m m' hs hle hn i
  refine abs_sub_le_of_steps (fun t => (run.frames t).joints i) (fun t => (run.frames t).now)
    (fun t hst htn => ?_) hs hle hn
  have hmono : (run.frames t).now ≤ (run.frames (t + 1)).now := now_le_now h t.le_succ htn
  rcases hmono.lt_or_eq with htime | htime
  · exact hstep t hst htn htime i
  · rw [hsteady t hst htn htime.symm, htime]
    simp

omit [Rounding K] in
/-- Any bound on the speed excludes a jump without time. -/
theorem SpeedBounded.steady {limit : K} (h : run.SpeedBounded s n limit) :
    run.SteadyAtEqualTimes s n := by
  intro t hst htn htime
  funext i
  have hstep := h t (t + 1) hst (Nat.le_succ t) htn i
  rw [htime, sub_self, mul_zero, abs_nonpos_iff, sub_eq_zero] at hstep
  exact hstep

theorem DwellBegan.eligible (h : ∀ i ≤ n, run.Accepted i) (hdwell : run.DwellBegan s n) {t : ℕ}
    (hst : s ≤ t) (htn : t ≤ n) : run.Eligible t :=
  eligible_of_since (fun j hj => h j (by omega)) (hdwell.running t hst htn)

/-- The limit holds over a dwell exactly when no joint jumps between two of its updates at one
time and no speed above the limit is rounded down. -/
theorem DwellBegan.speedBounded_iff (h : ∀ i ≤ n, run.Accepted i)
    (hstable : 0 < run.config.stableDurationSeconds) (hdwell : run.DwellBegan s n) :
    run.SpeedBounded s n run.config.maximumStableSpeedRadS ↔
      run.SteadyAtEqualTimes s n ∧ run.NoSpeedRoundedDown s n := by
  constructor
  · intro hbounded
    refine ⟨hbounded.steady, fun t hst htn _ i habove => ?_⟩
    exact absurd habove (hbounded t (t + 1) hst t.le_succ htn i).not_gt
  · rintro ⟨hsteady, hrounded⟩
    refine speedBounded_of_steps h hsteady fun t hst htn htime i => ?_
    by_contra! habove
    have hmeasured := hrounded t hst htn htime i habove
    rcases dt_cases htime.le with hdt | hdt
    · have heligible := hdwell.eligible h (t := t + 1) (by omega) htn
      rw [jointSpeed_of_eligible hstable.ne' heligible hdt i] at hmeasured
      cases hmeasured
    · rw [hdt, jointSpeed_zero run.config.maximumStableSpeedRadS_pos] at hmeasured
      cases hmeasured

/-- The limit with the rounding error holds over a dwell of floats exactly when no joint jumps
between two of its updates at one time. -/
theorem DwellBegan.speedBounded_roundedLimit_iff (h : ∀ i ≤ n, run.Accepted i)
    (hstable : 0 < run.config.stableDurationSeconds) (hdwell : run.DwellBegan s n)
    (hrange : run.InFloatRange s n) :
    run.SpeedBounded s n (roundedLimit run.config.maximumStableSpeedRadS) ↔
      run.SteadyAtEqualTimes s n := by
  refine ⟨fun hbounded => hbounded.steady, fun hsteady => ?_⟩
  refine speedBounded_of_steps h hsteady fun t hst htn htime i => ?_
  have htimes := hrange.now t hst htn.le
  have htimes' := hrange.now (t + 1) (by omega) htn
  have heligible := hdwell.eligible h (t := t + 1) (by omega) htn
  have hslow := jointSpeed_of_eligible hstable.ne' heligible
    (dt_pos_of_floats htimes htimes' htime) i
  exact abs_sub_le_roundedLimit (hrange.joints t hst htn.le i)
    (hrange.joints (t + 1) (by omega) htn i) htimes htimes' htime (hrange.dt t hst htn) hslow

/-- The dwell of a completing update began where its streak of eligible updates did. -/
theorem exists_dwellBegan (h : ∀ i ≤ n, run.Accepted i) (hcompletes : run.Completes n) :
    ∃ s, run.DwellBegan s n := by
  classical
  have hmemory (t : ℕ) (ht : t ≤ n) : run.Remembers t := run.remembers fun i hi => h i (by omega)
  have heligible : run.Eligible n :=
    ((hmemory n le_rfl).eligibility_iff (h n le_rfl)).mp
      (((hmemory n le_rfl).completes_iff (h n le_rfl)).mp hcompletes).1
  have hstart : streakStart run.Eligible (n + 1) ≤ n :=
    (streakStart_succ_of heligible).le.trans (streakStart_le n)
  refine ⟨streakStart run.Eligible (n + 1), hstart, ?_, fun t hst htn => ?_⟩
  · rw [(hmemory _ hstart).since, streak_streakStart, if_neg (lt_irrefl 0)]
  · have ht : run.Eligible t := of_streakStart_le hst (by omega)
    have hsame : streakStart run.Eligible (t + 1) = streakStart run.Eligible (n + 1) :=
      streakStart_eq_of_le (by omega) (by omega)
    rw [(hmemory t htn).since_succ (h t htn), if_pos ht, hsame]

end SmolVlaQgf.CompletionHistory.CompletionRun

namespace SmolVlaQgf.StableDwell
open ExactFloats FloatRounding PolicySafetyGuard TaskCompletion CompletionHistory CompletionRun

/-- Exact arithmetic rounds no speed down. -/
theorem noSpeedRoundedDown_exact {K : Type} [Field K] [LinearOrder K] [IsStrictOrderedRing K]
    (run : CompletionRun K) (s n : ℕ) :
    letI := Rounding.exact K
    run.NoSpeedRoundedDown s n := by
  intro t _ _ htime i hfast
  have hspeed : run.config.maximumStableSpeedRadS <
      |(run.frames (t + 1)).joints i - (run.frames t).joints i| /
        ((run.frames (t + 1)).now - (run.frames t).now) :=
    (lt_div_iff₀ (sub_pos.mpr htime)).mpr hfast
  exact decide_eq_true hspeed

/-- A completing update ends one dwell. Over it the speed limit bounds every displacement exactly
when no joint jumps between consecutive updates at one time and no speed above the limit is rounded
down; the limit with the rounding error does exactly when no joint jumps. -/
theorem dwell_bounds_motion_iff {K : Type} [Field K] [LinearOrder K] [Rounding K]
    [IsStrictOrderedRing K] (run : CompletionRun K) {n : ℕ}
    (hstable : 0 < run.config.stableDurationSeconds) (haccepted : ∀ i ≤ n, run.Accepted i)
    (hcompletes : run.Completes n) :
    ∃ s, run.DwellBegan s n ∧ (∀ s', run.DwellBegan s' n → s' = s) ∧
      (run.SpeedBounded s n run.config.maximumStableSpeedRadS ↔
        run.SteadyAtEqualTimes s n ∧ run.NoSpeedRoundedDown s n) ∧
      (run.InFloatRange s n →
        (run.SpeedBounded s n (roundedLimit run.config.maximumStableSpeedRadS) ↔
          run.SteadyAtEqualTimes s n)) := by
  obtain ⟨s, hdwell⟩ := exists_dwellBegan haccepted hcompletes
  exact ⟨s, hdwell, fun s' h => hdwell.unique h, hdwell.speedBounded_iff haccepted hstable,
    fun hrange => hdwell.speedBounded_roundedLimit_iff haccepted hstable hrange⟩

theorem deliveryRun_dwell : ∃ s, deliveryRun.DwellBegan s 4 ∧
    (∀ s', deliveryRun.DwellBegan s' 4 → s' = s) ∧
    (deliveryRun.SpeedBounded s 4 deliveryRun.config.maximumStableSpeedRadS ↔
      deliveryRun.SteadyAtEqualTimes s 4 ∧ deliveryRun.NoSpeedRoundedDown s 4) ∧
    (deliveryRun.InFloatRange s 4 →
      (deliveryRun.SpeedBounded s 4 (roundedLimit deliveryRun.config.maximumStableSpeedRadS) ↔
        deliveryRun.SteadyAtEqualTimes s 4)) := by
  refine dwell_bounds_motion_iff deliveryRun (by decide +kernel) ?_ ?_
  · simp only [Accepted]
    decide +kernel
  · simp only [Completes]
    decide +kernel

/-- Depart, grasp, return and release, then rest; the fifth update comes at the time of the
fourth and finds all joints moved. -/
def jumpRun : CompletionRun ℚ where
  config := dwellConfig
  initialJoints := fun _ => 0
  initialGripperClosed := false
  resetTime := 0
  frames := fun n =>
    ⟨fun _ => if n < 2 then 1 else if n < 4 then 0 else 1 / 8, n = 1, if n < 4 then n + 1 else n⟩

/-- The run with the jump completes. -/
theorem jump_completes :
    ¬∀ (run : CompletionRun ℚ) (s n : ℕ), 0 < run.config.stableDurationSeconds →
      (∀ i ≤ n, run.Accepted i) → run.Completes n → run.DwellBegan s n →
      run.SpeedBounded s n run.config.maximumStableSpeedRadS := by
  intro hclaim
  have hdwell : jumpRun.DwellBegan 3 5 := by
    refine ⟨by decide, by decide +kernel, fun t hst htn => ?_⟩
    obtain rfl | rfl | rfl : t = 3 ∨ t = 4 ∨ t = 5 := by omega
    all_goals decide +kernel
  have hbounded := hclaim jumpRun 3 5 (by decide +kernel) (by
    simp only [Accepted]
    decide +kernel) (by
    simp only [Completes]
    decide +kernel) hdwell
  have hjump := hbounded 3 4 le_rfl (by decide) (by decide) firstJoint
  revert hjump
  decide +kernel

end SmolVlaQgf.StableDwell
