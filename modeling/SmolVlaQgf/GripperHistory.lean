import SmolVlaQgf.Binary64
import SmolVlaQgf.GripperFilter
import SmolVlaQgf.CallHistories
import SmolVlaQgf.Streaks

/-!
# The gripper filter over whole histories

The counters and clock readings of the filter as functions of all updates since the
reset, and from them what an update reports in terms of the history alone.
-/

namespace SmolVlaQgf.GripperHistory
open ExactFloats FloatRounding PolicySafetyGuard GripperFilter GripperTemporalFilter CallHistories
  Streaks

variable {K : Type} [Field K] [LinearOrder K] [Rounding K]

/-! ## The update as a method -/

/-- `update`, assignment by assignment. -/
def updateCall (config : GripperTemporalConfig K) (rawValue now : PyFloat K)
    (contactActive : Bool) :
    EStateM (PolicySafetyError K) (GripperTemporalFilter K) GripperTemporalResult := do
  if !rawValue.isFinite || !now.isFinite then
    throw (.stated "gripper command/time contains NaN or infinity")
  modify fun filter => filter.noteContact contactActive now.exact
  match candidate config rawValue.exact with
  | none =>
    modify fun filter => { filter with candidateClosed := none, candidateCount := 0 }
    return ⟨(← get).commandClosed, false, none, 0, none⟩
  | some wanted =>
    if wanted = (← get).commandClosed then
      modify fun filter => { filter with candidateClosed := none, candidateCount := 0 }
      return ⟨(← get).commandClosed, false, none, 0, none⟩
    modify fun filter => filter.countCandidate wanted
    if (← get).candidateCount < config.confirmationFrames then
      return (← get).blocked .confirmation
    if ((← get).elapsed now.exact).lt (.finite config.minStateDwellSeconds) then
      return (← get).blocked .minimumDwell
    if wanted = false ∧ (← get).ContactHeld config now.exact then
      return (← get).blocked .contactHold
    modify fun filter => { filter with commandClosed := wanted }
    modify fun filter => { filter with lastTransitionTime := now.exact }
    modify fun filter => { filter with candidateClosed := none, candidateCount := 0 }
    return ⟨(← get).commandClosed, true, none, 0, none⟩

theorem updateCall_run (config : GripperTemporalConfig K) (rawValue now : PyFloat K)
    (contactActive : Bool) (filter : GripperTemporalFilter K) :
    (updateCall config rawValue now contactActive).run filter =
      (ofFunction fun filter => update config filter rawValue now contactActive).run filter := by
  by_cases hfinite : rawValue.isFinite ∧ now.isFinite
  · simp only [run_ofFunction, update, if_pos hfinite, advance]
    simp only [updateCall, hfinite.1, hfinite.2, Bool.not_true, Bool.or_self, Bool.false_eq_true,
      if_false, EStateM.run_bind, EStateM.run_modify]
    cases candidate config rawValue.exact with
    | none => rfl
    | some wanted =>
      simp only [EStateM.run_bind, EStateM.run_get, run_ite, EStateM.run_modify,
        EStateM.run_pure]
      split_ifs <;> rfl
  · have hraise : (!rawValue.isFinite || !now.isFinite) = true := by
      simpa [imp_iff_not_or] using hfinite
    rw [run_ofFunction, update, if_neg hfinite, updateCall, if_pos hraise]
    rfl

theorem updateCall_eq (config : GripperTemporalConfig K) (rawValue now : PyFloat K)
    (contactActive : Bool) :
    updateCall config rawValue now contactActive =
      ofFunction fun filter => update config filter rawValue now contactActive :=
  funext fun filter => updateCall_run config rawValue now contactActive filter

/-! ## One update -/

def DecisiveFor (config : GripperTemporalConfig K) (wanted : Bool) (rawValue : K) : Prop :=
  if wanted then config.closeThreshold ≤ rawValue else rawValue ≤ config.openThreshold

instance (config : GripperTemporalConfig K) (wanted : Bool) (rawValue : K) :
    Decidable (DecisiveFor config wanted rawValue) :=
  inferInstanceAs (Decidable (if wanted then _ else _))

omit [Rounding K] in
private theorem candidate_eq_some_iff {config : GripperTemporalConfig K} {wanted : Bool}
    {rawValue : K} :
    candidate config rawValue = some wanted ↔ DecisiveFor config wanted rawValue := by
  have horder := config.thresholds.2.1
  rw [candidate]
  cases wanted with
  | false =>
    simp only [DecisiveFor, Bool.false_eq_true, if_false]
    split_ifs with hopen hclose <;> simp [hopen]
  | true =>
    simp only [DecisiveFor, if_true]
    split_ifs with hopen hclose
    · simp [hopen.trans_lt horder]
    · simp [hclose]
    · simpa using hclose

structure OppositeCandidate (filter : GripperTemporalFilter K) : Prop where
  candidateClosed : filter.candidateClosed =
    if filter.candidateCount = 0 then none else some (!filter.commandClosed)

/-- What the filter demands of a decisive frame before it changes the command. -/
structure Due (config : GripperTemporalConfig K) (filter : GripperTemporalFilter K)
    (rawValue now : K) : Prop where
  decisive : DecisiveFor config (!filter.commandClosed) rawValue
  confirmed : config.confirmationFrames ≤ filter.candidateCount + 1
  dwelt : (PyFloat.finite config.minStateDwellSeconds).le (filter.elapsed now) = true
  held : filter.commandClosed = true → ∀ started ∈ filter.contactStartedTime,
    (PyFloat.finite config.contactHoldSeconds).le (toFloat (now - started)) = true

private theorem elapsed_ne_nan (filter : GripperTemporalFilter K) (now : K) :
    filter.elapsed now ≠ .nan :=
  PyFloat.max_ne_nan (by simp)

section Advance

variable {config : GripperTemporalConfig K} {filter : GripperTemporalFilter K} {rawValue : K}
  (now : K)

theorem advance_of_not_decisive (h : ¬DecisiveFor config (!filter.commandClosed) rawValue) :
    advance config filter rawValue now =
      ({ filter with candidateClosed := none, candidateCount := 0 },
        ⟨filter.commandClosed, false, none, 0, none⟩) := by
  rw [advance]
  cases hcandidate : candidate config rawValue with
  | none => rfl
  | some wanted =>
    refine if_pos (by_contra fun hwanted => h ?_)
    rwa [← Bool.eq_not_of_ne hwanted, ← candidate_eq_some_iff]

omit [Field K] [LinearOrder K] [Rounding K] in
private theorem countCandidate_of_opposite (h : OppositeCandidate filter) :
    filter.countCandidate (!filter.commandClosed) =
      { filter with
        candidateClosed := some (!filter.commandClosed)
        candidateCount := filter.candidateCount + 1 } := by
  have hcandidate := h.candidateClosed
  rw [countCandidate]
  split_ifs with hsame
  · rw [← hsame]
  · rw [hcandidate] at hsame
    split_ifs at hsame with hcount
    · rw [hcount]
    · exact absurd rfl hsame

/-- A decisive frame is counted; the command changes when the frame is due. -/
theorem advance_of_decisive (h : OppositeCandidate filter)
    (hdecisive : DecisiveFor config (!filter.commandClosed) rawValue) :
    (Due config filter rawValue now ∧ advance config filter rawValue now =
      ({ filter with
          commandClosed := !filter.commandClosed
          lastTransitionTime := now
          candidateClosed := none
          candidateCount := 0 }, ⟨!filter.commandClosed, true, none, 0, none⟩)) ∨
    (¬Due config filter rawValue now ∧ (advance config filter rawValue now).2.transitioned = false ∧
      (advance config filter rawValue now).1 =
        { filter with
          candidateClosed := some (!filter.commandClosed)
          candidateCount := filter.candidateCount + 1 }) := by
  have hcandidate := candidate_eq_some_iff.mpr hdecisive
  have hne : (!filter.commandClosed) ≠ filter.commandClosed := Bool.not_ne_self _
  simp only [advance, hcandidate, if_neg hne, countCandidate_of_opposite h]
  split_ifs with hconfirm hdwell hhold
  · exact Or.inr ⟨fun hdue => absurd hdue.confirmed (by omega), rfl, rfl⟩
  · refine Or.inr ⟨fun hdue => ?_, rfl, rfl⟩
    exact (PyFloat.finite_le_iff (elapsed_ne_nan _ _)).mp hdue.dwelt hdwell
  · obtain ⟨hopening, started, hstarted, hshort⟩ := hhold
    refine Or.inr ⟨fun hdue => ?_, rfl, rfl⟩
    have hheld := hdue.held (by simpa using hopening) started hstarted
    exact (PyFloat.finite_le_iff (Rounding.toFloat_ne_nan _)).mp hheld hshort
  · have hdwelt := (PyFloat.finite_le_iff (elapsed_ne_nan _ _)).mpr hdwell
    refine Or.inl ⟨⟨hdecisive, by omega, hdwelt, fun hclosed started hstarted => ?_⟩, rfl⟩
    refine (PyFloat.finite_le_iff (Rounding.toFloat_ne_nan _)).mpr fun hshort => hhold ⟨?_, ?_⟩
    · simp [hclosed]
    · exact ⟨started, hstarted, hshort⟩

private theorem advance_commandClosed : (advance config filter rawValue now).2.commandClosed =
    (advance config filter rawValue now).1.commandClosed := by
  rw [advance]
  cases candidate config rawValue with
  | none => rfl
  | some wanted =>
    dsimp only
    split_ifs <;> rfl

end Advance

/-! ## Runs -/

/-- The arguments of an update whose value and time are finite. -/
structure GripperFrame (K : Type) where
  rawValue : K
  now : K
  contactActive : Bool

/-- A reset and the updates after it. -/
structure GripperRun (K : Type) [Field K] [LinearOrder K] where
  config : GripperTemporalConfig K
  initialClosed : Bool
  resetTime : K
  frames : ℕ → GripperFrame K

namespace GripperRun

variable (run : GripperRun K) (n : ℕ)

def call : EStateM (PolicySafetyError K) (GripperTemporalFilter K) GripperTemporalResult :=
  updateCall run.config (.finite (run.frames n).rawValue) (.finite (run.frames n).now)
    (run.frames n).contactActive

def filterBefore : GripperTemporalFilter K :=
  stateBefore run.call (reset run.initialClosed run.resetTime) n

/-- What the update at a position returns. -/
def result : Option GripperTemporalResult :=
  returnedAt run.call (reset run.initialClosed run.resetTime) n

def command : Bool := (run.filterBefore n).commandClosed

def transitions : Bool := run.result n |>.any fun result => result.transitioned

/-- The last transition before a position was made at this time, or none was and the filter
was reset at it. -/
def LastChange (time : K) : Prop :=
  (∃ i < n, run.transitions i = true ∧ (∀ j, i < j → j < n → run.transitions j = false) ∧
    time = (run.frames i).now) ∨
  (∀ i < n, run.transitions i = false) ∧ time = run.resetTime

/-- The seconds that have passed since an earlier time, as the code measures them. -/
def secondsSince (time : K) : PyFloat K :=
  (PyFloat.finite 0).max (toFloat ((run.frames n).now - time))

/-- The last `confirmation_frames` updates came after the last transition or reset and were
all decisive for the state opposite to the command. -/
def Confirmed : Prop :=
  run.config.confirmationFrames ≤ n + 1 ∧
    ∀ i, n + 1 - run.config.confirmationFrames ≤ i → i ≤ n →
      DecisiveFor run.config (!run.command n) (run.frames i).rawValue ∧
      (i < n → run.transitions i = false)

/-- The minimum dwell since the last transition or reset is over. -/
def Dwelt : Prop :=
  ∃ time, run.LastChange n time ∧
    (PyFloat.finite run.config.minStateDwellSeconds).le (run.secondsSince n time) = true

/-- There is no contact, or it has been held long enough. -/
def ContactReleased : Prop :=
  (run.frames n).contactActive = false ∨
    ∃ m ≤ n, (∀ i, m ≤ i → i ≤ n → (run.frames i).contactActive = true) ∧
      (PyFloat.finite run.config.contactHoldSeconds).le
        (toFloat ((run.frames n).now - (run.frames m).now)) = true

/-- The times of the updates up to a position do not decrease. -/
def Monotonic : Prop := ∀ i j, i ≤ j → j ≤ n → (run.frames i).now ≤ (run.frames j).now

/-- A frame that counts towards the confirmation of the next one. -/
def Pending : Prop :=
  DecisiveFor run.config (!run.command n) (run.frames n).rawValue ∧ run.transitions n = false

instance : DecidablePred run.Pending := fun _ => inferInstanceAs (Decidable (_ ∧ _))

def Contact : Prop := (run.frames n).contactActive = true

instance : DecidablePred run.Contact := fun _ => inferInstanceAs (Decidable (_ = _))

variable {run n}

def noted (run : GripperRun K) (n : ℕ) : GripperTemporalFilter K :=
  (run.filterBefore n).noteContact (run.frames n).contactActive (run.frames n).now

theorem call_eq : run.call n = ofFunction fun filter => update run.config filter
    (.finite (run.frames n).rawValue) (.finite (run.frames n).now)
    (run.frames n).contactActive := updateCall_eq _ _ _ _

private theorem filterBefore_succ : run.filterBefore (n + 1) =
    (advance run.config (run.noted n) (run.frames n).rawValue (run.frames n).now).1 := by
  rw [filterBefore, stateBefore, stateAfter, call_eq, run_ofFunction, update_finite]
  rfl

private theorem result_eq : run.result n =
    some (advance run.config (run.noted n) (run.frames n).rawValue (run.frames n).now).2 := by
  rw [result, returnedAt, returned, call_eq, run_ofFunction, update_finite]
  rfl

private theorem transitions_eq : run.transitions n =
    (advance run.config (run.noted n) (run.frames n).rawValue (run.frames n).now).2.transitioned
    := by
  rw [transitions, result_eq, Option.any_some]

/-! ## What the filter remembers -/

/-- The memory of the filter as functions of the history. -/
structure Remembers (run : GripperRun K) (n : ℕ) : Prop where
  opposite : OppositeCandidate (run.filterBefore n)
  count : (run.filterBefore n).candidateCount = streak run.Pending n
  change : run.LastChange n (run.filterBefore n).lastTransitionTime
  contactActive : (run.filterBefore n).contactActive = decide (0 < streak run.Contact n)
  contactStarted : (run.filterBefore n).contactStartedTime =
    if 0 < streak run.Contact n then some (run.frames (streakStart run.Contact n)).now else none

theorem remembers_zero (run : GripperRun K) : run.Remembers 0 where
  opposite := ⟨rfl⟩
  count := rfl
  change := Or.inr ⟨fun _ hi => absurd hi (Nat.not_lt_zero _), rfl⟩
  contactActive := rfl
  contactStarted := rfl

theorem Remembers.noted_contactStarted (h : run.Remembers n) :
    (run.noted n).contactStartedTime =
      if run.Contact n then some (run.frames (streakStart run.Contact (n + 1))).now else none := by
  have hactive := h.contactActive
  have hstarted := h.contactStarted
  rw [noted, noteContact]
  by_cases hcontact : run.Contact n
  · have hnow : (run.frames n).contactActive = true := hcontact
    rw [if_pos hcontact, streakStart_succ_of hcontact]
    by_cases hbefore : 0 < streak run.Contact n
    · rw [if_pos hbefore] at hstarted
      simp [hnow, hactive, hbefore, hstarted]
    · simp [hnow, hactive, hbefore, streakStart_eq (Nat.eq_zero_of_not_pos hbefore)]
  · have hnow : (run.frames n).contactActive = false := Bool.eq_false_of_not_eq_true hcontact
    simp [hnow, hcontact]

private theorem lastChange_succ_of_transitions (h : run.transitions n = true) :
    run.LastChange (n + 1) (run.frames n).now :=
  Or.inl ⟨n, n.lt_succ_self, h, fun j hj hlt => by omega, rfl⟩

theorem LastChange.succ {time : K} (h : run.LastChange n time) (hn : run.transitions n = false) :
    run.LastChange (n + 1) time := by
  have hextend : ∀ {i : ℕ}, (∀ j, i < j → j < n → run.transitions j = false) →
      ∀ j, i < j → j < n + 1 → run.transitions j = false := fun hbetween j hj hlt => by
    rcases Nat.lt_succ_iff_lt_or_eq.mp hlt with hlt | rfl
    · exact hbetween j hj hlt
    · exact hn
  rcases h with ⟨i, hi, htransition, hbetween, htime⟩ | ⟨hnone, htime⟩
  · exact Or.inl ⟨i, by omega, htransition, hextend hbetween, htime⟩
  · refine Or.inr ⟨fun i hi => ?_, htime⟩
    rcases Nat.lt_succ_iff_lt_or_eq.mp hi with hi | rfl
    · exact hnone i hi
    · exact hn

theorem LastChange.unique {time time' : K} (h : run.LastChange n time)
    (h' : run.LastChange n time') : time = time' := by
  rcases h with ⟨i, hi, hti, hbetween, rfl⟩ | ⟨hnone, rfl⟩ <;>
    rcases h' with ⟨j, hj, htj, hbetween', rfl⟩ | ⟨hnone', rfl⟩
  · rcases lt_trichotomy i j with hlt | rfl | hlt
    · exact absurd htj (by simp [hbetween j hlt hj])
    · rfl
    · exact absurd hti (by simp [hbetween' i hlt hi])
  · exact absurd hti (by simp [hnone' i hi])
  · exact absurd htj (by simp [hnone j hj])
  · rfl

/-- What one update does: nothing is pending, or the command changes, or a frame is counted. -/
inductive Outcome (run : GripperRun K) (n : ℕ) : Prop where
  | idle (transitions : run.transitions n = false)
      (indecisive : ¬DecisiveFor run.config (!run.command n) (run.frames n).rawValue)
      (after : run.filterBefore (n + 1) =
        { run.noted n with candidateClosed := none, candidateCount := 0 })
  | change (transitions : run.transitions n = true)
      (due : Due run.config (run.noted n) (run.frames n).rawValue (run.frames n).now)
      (after : run.filterBefore (n + 1) =
        { run.noted n with
          commandClosed := !run.command n
          lastTransitionTime := (run.frames n).now
          candidateClosed := none
          candidateCount := 0 })
  | counted (transitions : run.transitions n = false)
      (decisive : DecisiveFor run.config (!run.command n) (run.frames n).rawValue)
      (notDue : ¬Due run.config (run.noted n) (run.frames n).rawValue (run.frames n).now)
      (after : run.filterBefore (n + 1) =
        { run.noted n with
          candidateClosed := some (!run.command n)
          candidateCount := (run.filterBefore n).candidateCount + 1 })

theorem Remembers.outcome (h : run.Remembers n) : run.Outcome n := by
  have hopposite : OppositeCandidate (run.noted n) := ⟨h.opposite.candidateClosed⟩
  by_cases hdecisive : DecisiveFor run.config (!run.command n) (run.frames n).rawValue
  · rcases advance_of_decisive (run.frames n).now hopposite hdecisive with
      ⟨hdue, hadvance⟩ | ⟨hnotDue, htransitioned, hafter⟩
    · refine .change ?_ hdue ?_
      · rw [transitions_eq, hadvance]
      · rw [filterBefore_succ, hadvance]
        rfl
    · refine .counted ?_ hdecisive hnotDue ?_
      · rw [transitions_eq, htransitioned]
      · rw [filterBefore_succ, hafter]
        rfl
  · have hnoted : ¬DecisiveFor run.config (!(run.noted n).commandClosed) (run.frames n).rawValue :=
      hdecisive
    have hadvance := advance_of_not_decisive (run.frames n).now hnoted
    refine .idle ?_ hdecisive ?_
    · rw [transitions_eq, hadvance]
    · rw [filterBefore_succ, hadvance]

theorem Remembers.succ (h : run.Remembers n) : run.Remembers (n + 1) := by
  have hactive : (run.noted n).contactActive = decide (0 < streak run.Contact (n + 1)) := by
    have hnoted : (run.noted n).contactActive = (run.frames n).contactActive := rfl
    simp [hnoted, streak_succ_pos_iff, Contact]
  have hstarted : (run.noted n).contactStartedTime =
      if 0 < streak run.Contact (n + 1) then
        some (run.frames (streakStart run.Contact (n + 1))).now else none := by
    rw [h.noted_contactStarted]
    exact if_congr streak_succ_pos_iff.symm rfl rfl
  cases h.outcome with
  | idle htransitions hindecisive hafter =>
    have hpending : ¬run.Pending n := fun hpending => hindecisive hpending.1
    exact {
      opposite := ⟨by rw [hafter, if_pos rfl]⟩
      count := by rw [hafter, streak_succ_of_not hpending]
      change := by
        rw [hafter]
        exact h.change.succ htransitions
      contactActive := by rw [hafter, hactive]
      contactStarted := by rw [hafter, hstarted] }
  | change htransitions hdue hafter =>
    have hpending : ¬run.Pending n := fun hpending =>
      Bool.noConfusion (htransitions.symm.trans hpending.2)
    exact {
      opposite := ⟨by rw [hafter, if_pos rfl]⟩
      count := by rw [hafter, streak_succ_of_not hpending]
      change := by
        rw [hafter]
        exact lastChange_succ_of_transitions htransitions
      contactActive := by rw [hafter, hactive]
      contactStarted := by rw [hafter, hstarted] }
  | counted htransitions hdecisive hnotDue hafter =>
    have hpending : run.Pending n := ⟨hdecisive, htransitions⟩
    exact {
      opposite := ⟨by
        rw [hafter, if_neg (Nat.succ_ne_zero _)]
        rfl⟩
      count := by rw [hafter, streak_succ_of hpending, h.count]
      change := by
        rw [hafter]
        exact h.change.succ htransitions
      contactActive := by rw [hafter, hactive]
      contactStarted := by rw [hafter, hstarted] }

theorem remembers (run : GripperRun K) (n : ℕ) : run.Remembers n := by
  induction n with
  | zero => exact remembers_zero run
  | succ n ih => exact ih.succ

theorem command_succ (run : GripperRun K) (n : ℕ) :
    run.command (n + 1) = if run.transitions n then !run.command n else run.command n := by
  rw [command]
  cases (run.remembers n).outcome with
  | idle htransitions hindecisive hafter =>
    rw [hafter, htransitions, if_neg Bool.false_ne_true]
    rfl
  | change htransitions hdue hafter => rw [hafter, htransitions, if_pos rfl]
  | counted htransitions hdecisive hnotDue hafter =>
    rw [hafter, htransitions, if_neg Bool.false_ne_true]
    rfl

private theorem transitions_iff_due : run.transitions n = true ↔
    Due run.config (run.noted n) (run.frames n).rawValue (run.frames n).now := by
  cases (run.remembers n).outcome with
  | idle htransitions hindecisive hafter =>
    exact iff_of_false (by simp [htransitions]) fun hdue => hindecisive hdue.decisive
  | change htransitions hdue hafter => exact iff_of_true htransitions hdue
  | counted htransitions hdecisive hnotDue hafter =>
    exact iff_of_false (by simp [htransitions]) hnotDue

private theorem command_eq_of_no_transition {i : ℕ} (hi : i ≤ n)
    (h : ∀ j, i ≤ j → j < n → run.transitions j = false) : run.command n = run.command i := by
  induction n, hi using Nat.le_induction with
  | base => rfl
  | succ n hi ih =>
    rw [command_succ, h n hi n.lt_succ_self, if_neg Bool.false_ne_true]
    exact ih fun j hj hlt => h j hj (by omega)

/-! ## The demands on a transition, in terms of the history -/

private theorem confirmed_iff : run.Confirmed n ↔
    DecisiveFor run.config (!run.command n) (run.frames n).rawValue ∧
      run.config.confirmationFrames ≤ (run.filterBefore n).candidateCount + 1 := by
  have hframes := run.config.confirmationFrames_pos
  rw [(run.remembers n).count]
  constructor
  · rintro ⟨hlength, hall⟩
    refine ⟨(hall n (by omega) le_rfl).1, ?_⟩
    suffices run.config.confirmationFrames - 1 ≤ streak run.Pending n by omega
    refine le_streak_iff.mpr ⟨by omega, fun i hi hlt => ?_⟩
    have hcommand : run.command n = run.command i :=
      command_eq_of_no_transition hlt.le fun j hj hjn => (hall j (by omega) hjn.le).2 hjn
    have hi := hall i (by omega) hlt.le
    exact ⟨hcommand ▸ hi.1, hi.2 hlt⟩
  · rintro ⟨hdecisive, hcount⟩
    obtain ⟨hlength, hall⟩ := le_streak_iff.mp
      (show run.config.confirmationFrames - 1 ≤ streak run.Pending n by omega)
    refine ⟨by omega, fun i hi hle => ?_⟩
    rcases hle.lt_or_eq with hlt | rfl
    · have hcommand : run.command n = run.command i :=
        command_eq_of_no_transition hlt.le fun j hj hjn => (hall j (by omega) hjn).2
      have hpending := hall i (by omega) hlt
      exact ⟨hcommand ▸ hpending.1, fun _ => hpending.2⟩
    · exact ⟨hdecisive, fun hlt => absurd hlt (lt_irrefl _)⟩

private theorem dwelt_iff : run.Dwelt n ↔ (PyFloat.finite run.config.minStateDwellSeconds).le
    ((run.noted n).elapsed (run.frames n).now) = true := by
  have hchange := (run.remembers n).change
  constructor
  · rintro ⟨time, htime, hdwell⟩
    rwa [htime.unique hchange] at hdwell
  · exact fun hdwell => ⟨_, hchange, hdwell⟩

private theorem contactReleased_iff [IsStrictOrderedRing K] (h : run.Monotonic n) :
    run.ContactReleased n ↔ ∀ started ∈ (run.noted n).contactStartedTime,
      (PyFloat.finite run.config.contactHoldSeconds).le
        (toFloat ((run.frames n).now - started)) = true := by
  rw [(run.remembers n).noted_contactStarted]
  by_cases hcontact : run.Contact n
  · have hnot : ¬(run.frames n).contactActive = false := ne_of_eq_of_ne hcontact nofun
    rw [ContactReleased, or_iff_right hnot, if_pos hcontact]
    apply (held_iff (p := run.Contact) fun i j hij hj hlong => ?_).trans
    · rw [and_iff_right hcontact]
      simp
    · exact PyFloat.le_trans hlong (Rounding.toFloat_mono (sub_le_sub_left (h i j hij hj) _))
  · rw [if_neg hcontact]
    exact iff_of_true (Or.inl (Bool.eq_false_of_not_eq_true hcontact)) (by simp)

/-! ## The specification -/

theorem commandClosed_of_result {result : GripperTemporalResult} (h : run.result n = some result) :
    result.commandClosed = run.command (n + 1) := by
  rw [result_eq] at h
  obtain rfl := Option.some.inj h
  rw [command, filterBefore_succ, advance_commandClosed]

private theorem transitions_iff [IsStrictOrderedRing K] (h : run.Monotonic n) :
    run.transitions n = true ↔
      run.Confirmed n ∧ run.Dwelt n ∧ (run.command n = true → run.ContactReleased n) := by
  rw [transitions_iff_due, confirmed_iff, dwelt_iff, contactReleased_iff h]
  constructor
  · intro hdue
    exact ⟨⟨hdue.decisive, hdue.confirmed⟩, hdue.dwelt, hdue.held⟩
  · rintro ⟨⟨hdecisive, hconfirmed⟩, hdwelt, hheld⟩
    exact ⟨hdecisive, hconfirmed, hdwelt, hheld⟩

/-- Two transitions with none between them are of opposite kinds. -/
theorem command_alternates {i j : ℕ} (hij : i < j) (hj : run.transitions j = true)
    (hbetween : ∀ k, i < k → k < j → run.transitions k = false) :
    run.command (j + 1) = !run.command (i + 1) := by
  rw [command_succ, hj, if_pos rfl]
  exact congrArg not (command_eq_of_no_transition hij fun k hk hlt => hbetween k hk hlt)

end GripperRun

/-- An update that raises leaves every component of the filter as it was. -/
theorem updateCall_raises (config : GripperTemporalConfig K) (rawValue now : PyFloat K)
    (contactActive : Bool) (filter : GripperTemporalFilter K) :
    (returned (updateCall config rawValue now contactActive) filter = none ↔
      ¬(rawValue.isFinite ∧ now.isFinite)) ∧
    RaisesUnchanged (updateCall config rawValue now contactActive) filter := by
  rw [updateCall_eq]
  exact ⟨returned_ofFunction_eq_none_iff.trans update_eq_error_iff, raisesUnchanged_ofFunction⟩

/-- An update reports a transition exactly when the history since the reset demands one; the
command flips at transitions only, and an update that raises changes nothing. -/
theorem gripper_update_history [IsStrictOrderedRing K] (run : GripperRun K) :
    (∀ n, run.Monotonic n →
      (run.transitions n = true ↔
        run.Confirmed n ∧ run.Dwelt n ∧ (run.command n = true → run.ContactReleased n)) ∧
      run.command (n + 1) = (if run.transitions n then !run.command n else run.command n) ∧
      ∃ result, run.result n = some result ∧ result.commandClosed = run.command (n + 1)) ∧
    (∀ i j, i < j → run.transitions i = true → run.transitions j = true →
      (∀ k, i < k → k < j → run.transitions k = false) →
      run.command (j + 1) = !run.command (i + 1)) ∧
    ∀ (rawValue now : PyFloat K) (contactActive : Bool) (filter : GripperTemporalFilter K),
      (returned (updateCall run.config rawValue now contactActive) filter = none ↔
        ¬(rawValue.isFinite ∧ now.isFinite)) ∧
      RaisesUnchanged (updateCall run.config rawValue now contactActive) filter := by
  refine ⟨fun n hn => ⟨run.transitions_iff hn, run.command_succ n, ?_⟩, ?_, ?_⟩
  · exact ⟨_, run.result_eq, run.commandClosed_of_result run.result_eq⟩
  · intro i j hij _ hj hbetween
    exact run.command_alternates hij hj hbetween
  · intro rawValue now contactActive filter
    exact updateCall_raises run.config rawValue now contactActive filter

/-- A closed gripper in contact from the first update on is asked to open once a second. -/
def releaseRun : GripperRun ℚ where
  config := {
    openThreshold := 3 / 20
    closeThreshold := 17 / 20
    confirmationFrames := 2
    minStateDwellSeconds := 2
    contactHoldSeconds := 3
    thresholds := by norm_num
    confirmationFrames_pos := by norm_num
    minStateDwellSeconds_nonneg := by norm_num
    contactHoldSeconds_nonneg := by norm_num }
  initialClosed := true
  resetTime := 0
  frames := fun n => ⟨1 / 10, n, true⟩

/-- The contact hold is over at the fourth update, and the gripper opens. -/
theorem releaseRun_opens : releaseRun.Confirmed 3 ∧ releaseRun.Dwelt 3 ∧
    releaseRun.ContactReleased 3 := by
  have hmono : releaseRun.Monotonic 3 := fun i j hij _ => Nat.cast_le.mpr hij
  have htransitions : releaseRun.transitions 3 = true := by decide +kernel
  have hclosed : releaseRun.command 3 = true := by decide +kernel
  obtain ⟨hconfirmed, hdwelt, hreleased⟩ :=
    (((gripper_update_history releaseRun).1 3 hmono).1.mp htransitions)
  exact ⟨hconfirmed, hdwelt, hreleased hclosed⟩

end SmolVlaQgf.GripperHistory
