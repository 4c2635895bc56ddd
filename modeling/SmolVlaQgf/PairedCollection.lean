import SmolVlaQgf.KeptEpisodes

/-!
# The quotas of a paired session

The main loop goes on while one of the two quotas is open; the prompt for the next policy
refuses a policy whose quota is complete. Only the first round takes its policy without
that test. The counters follow the finalizers that return, not the ones that commit.
-/

namespace SmolVlaQgf.PairedCollection
open TransitionRuns FieldText EpisodeDataset EpisodeFinalizer EpisodeCommit FinalizerEffects
  CollectionSession Session KeptEpisodes

variable {K : Type}

/-! ## The conditions -/

/-- The first round runs under a policy whose quota is open, or there is no round. -/
def FirstModeOpen (mode : PolicyMode) (quotas : PairedQuotas) : Prop :=
  quotas.initialSaved mode < quotas.target mode ∨ ∀ m, quotas.target m ≤ quotas.initialSaved m

/-- A finalizer that commits an episode returns, and the session goes on to count it. -/
def commitsReported [Zero K] [One K] (config : SessionConfig) (s : Session K) (label : Label K) :
    Bool :=
  match s.phase, label with
  | .finalizing stop outcome, .finalizer run =>
      !s.commits config stop outcome run ||
        (s.returns config stop outcome run && decide (run.exit = .reported))
  | _, _ => true

def ReportingSteps [Zero K] [One K] (config : SessionConfig) :
    Session K → Label K → Session K → Prop :=
  Restricted (fun s label => commitsReported config s label = true) (Steps (Session.step config))

/-! ## The invariant -/

section Invariant

variable (config : SessionConfig) (quotas : PairedQuotas) (s : Session K)

def CurrentOpen : Prop := s.savedUnder s.currentMode < quotas.target s.currentMode

def OpenIn : Phase → Prop
  | .setup | .armPrompt | .preparing | .roundStart =>
      s.wantsEpisodes config = true → CurrentOpen quotas s
  | .makeStaging | .recorderStart | .movePrompt | .enablePolicy | .monitoring | .endingRound
  | .labelling _ | .finalizing _ _ | .startingPolicy | .readyPrompt => CurrentOpen quotas s
  | .stoppingPolicy mode => s.savedUnder mode < quotas.target mode
  | .resetPrompt | .resetting => False
  | .labelled _ | .nextPolicy | .complete | .trap | .ended => True

/-- No counter exceeds its target, and each has counted the commits under its policy. -/
structure Balanced : Prop where
  le : ∀ mode, s.savedUnder mode ≤ quotas.target mode
  counted : ∀ mode,
    (s.savedUnder mode).toInt = (quotas.initialSaved mode).toInt + s.committed.count mode
  opened : OpenIn config quotas s s.phase

end Invariant

section Steps

variable {config : SessionConfig} {initialMode : PolicyMode} {quotas : PairedQuotas}
  {s t : Session K}

theorem Balanced.of_same (h : Balanced config quotas s) (hsaved : t.savedUnder = s.savedUnder)
    (hcommitted : t.committed = s.committed) (hopened : OpenIn config quotas t t.phase) :
    Balanced config quotas t where
  le := hsaved ▸ h.le
  counted := fun mode => by rw [hsaved, hcommitted, h.counted mode]
  opened := hopened

theorem Balanced.goTo (h : Balanced config quotas s) {phase : Phase}
    (hopened : OpenIn config quotas s s.phase → OpenIn config quotas s phase) :
    Balanced config quotas (s.goTo phase) := by
  refine h.of_same rfl rfl ?_
  have hphase := hopened h.opened
  cases phase <;> exact hphase

theorem Balanced.trap (h : Balanced config quotas s) : Balanced config quotas (s.goTo .trap) :=
  h.goTo fun _ => trivial

theorem Balanced.beginRound (h : Balanced config quotas s) (hphase : s.phase = .roundStart)
    (timestamp : Text) : Balanced config quotas (s.beginRound config timestamp) := by
  have hopened : s.wantsEpisodes config = true → CurrentOpen quotas s := by
    have hopened := h.opened
    rw [hphase] at hopened
    exact hopened
  rw [Session.beginRound]
  split
  · exact h.of_same rfl rfl (hopened ‹_›)
  · exact h.goTo fun _ => trivial

theorem Balanced.stopRound (h : Balanced config quotas s) (hopened : CurrentOpen quotas s)
    (stop : RoundStop) : Balanced config quotas (s.stopRound stop) :=
  h.of_same rfl rfl hopened

theorem Balanced.afterLabel (h : Balanced config quotas s)
    (hplan : config.plan = .paired initialMode quotas) (stop : RoundStop) :
    Balanced config quotas (s.afterLabel config stop) := by
  rw [Session.afterLabel, hplan]
  split_ifs
  · exact h.trap
  · exact h.goTo fun _ => trivial
  · exact h.goTo fun _ => trivial

theorem Balanced.commandDone (h : Balanced config quotas s)
    (hplan : config.plan = .paired initialMode quotas) (hstep : s.commandDone config = some t) :
    Balanced config quotas t := by
  have hopened := h.opened
  rw [Session.commandDone] at hstep
  cases hphase : s.phase with
  | makeStaging =>
    rw [hphase] at hstep hopened
    obtain ⟨staging, -, rfl⟩ := Option.map_eq_some_iff.mp hstep
    exact h.of_same rfl rfl hopened
  | labelled stop =>
    rw [hphase] at hstep
    obtain rfl := Option.some.inj hstep
    exact h.afterLabel hplan stop
  | stoppingPolicy mode =>
    rw [hphase] at hstep hopened
    obtain rfl := Option.some.inj hstep
    exact h.of_same rfl rfl hopened
  | recorderStart =>
    rw [hphase] at hstep hopened
    obtain rfl := Option.some.inj hstep
    refine h.goTo fun _ => ?_
    split <;> exact hopened
  | resetting =>
    rw [hphase] at hopened
    exact hopened.elim
  | setup | preparing | enablePolicy | endingRound | startingPolicy =>
    rw [hphase] at hstep hopened
    obtain rfl := Option.some.inj hstep
    exact h.of_same rfl rfl hopened
  | complete =>
    rw [hphase] at hstep
    obtain rfl := Option.some.inj hstep
    exact h.trap
  | _ =>
    rw [hphase] at hstep
    cases hstep

theorem Balanced.answered {answer : String} (h : Balanced config quotas s)
    (hplan : config.plan = .paired initialMode quotas)
    (hanswer : Answered config s answer t) : Balanced config quotas t := by
  have hopened := h.opened
  cases hanswer with
  | armed hphase | moved hphase | stopped hphase | watched hphase =>
    rw [hphase] at hopened
    exact h.goTo fun _ => hopened
  | interrupted hs => exact h.trap
  | repeated => exact h
  | labelled stop outcome hphase hlabel =>
    rw [hphase] at hopened
    exact h.of_same rfl rfl hopened
  | chosen mode initialMode' quotas' hphase hplan' hroom =>
    obtain ⟨-, rfl⟩ := RunPlan.paired.inj (hplan.symm.trans hplan')
    exact h.goTo fun _ => hroom
  | finished hphase => exact h.goTo fun _ => trivial
  | ready hphase =>
    rw [hphase] at hopened
    exact h.goTo fun _ _ => hopened
  | reset hphase =>
    rw [hphase] at hopened
    exact hopened.elim

end Steps

section Finalizer

variable [Zero K] [One K] {config : SessionConfig} {initialMode : PolicyMode}
  {quotas : PairedQuotas} {s t : Session K}

theorem commits_of_returns {stop : RoundStop} {outcome : EpisodeOutcome} {run : FinalizerRun}
    (houtcome : outcome ≠ .discard) (h : s.returns config stop outcome run = true) :
    s.commits config stop outcome run = true := by
  have hargs : (s.finalizeArgs config stop outcome run).outcome ≠ .discard := houtcome
  rcases before_rename run.faults s.dataset hargs with ⟨-, hraises⟩ | ⟨hreach, -⟩
  · obtain ⟨error, herror⟩ := (after_of_raises (n := 8) (by omega) hraises).raised
    rw [returns, show (s.finalized config stop outcome run).2 = .raised error from herror] at h
    cases h
  · obtain ⟨staging, files, hstaging, hfiles, -⟩ := hreach.capture
    refine (commits_iff_reachesRename houtcome ⟨staging, hstaging, ?_⟩).mpr hreach
    rw [hfiles, Option.isSome_some]

private theorem not_commits_of_discard (stop : RoundStop) (run : FinalizerRun) :
    s.commits config stop .discard run = false := by simp [commits]

/-- A counter below its target does not wrap around when it goes up. -/
private theorem toInt_add_one {count target : Int64} (h : count < target) :
    (count + 1).toInt = count.toInt + 1 := by
  have hlt := Int64.lt_iff_toInt_lt.mp h
  have htarget := target.toInt_lt
  have hcount := count.le_toInt
  rw [Int64.toInt_add, Int64.toInt_one]
  exact Int.bmod_eq_of_le (by omega) (by omega)

omit [Zero K] [One K] in
/-- The counter of the current policy goes up with the commits under it. -/
theorem Balanced.counted_commit (h : Balanced config quotas s)
    (hopened : CurrentOpen quotas s) {u : Session K}
    (hsaved : u.savedUnder =
      Function.update s.savedUnder s.currentMode (s.savedUnder s.currentMode + 1))
    (hcommitted : u.committed = s.committed ++ [s.currentMode])
    (hphase : OpenIn config quotas u u.phase) : Balanced config quotas u where
  le := fun mode => by
    rw [hsaved]
    by_cases hmode : mode = s.currentMode
    · subst hmode
      have hlt := Int64.lt_iff_toInt_lt.mp hopened
      rw [Function.update_self, Int64.le_iff_toInt_le, toInt_add_one hopened]
      exact hlt
    · rw [Function.update_of_ne hmode]
      exact h.le mode
  counted := fun mode => by
    rw [hsaved, hcommitted, List.count_append]
    by_cases hmode : mode = s.currentMode
    · subst hmode
      rw [Function.update_self, List.count_singleton_self, toInt_add_one hopened, h.counted]
      push_cast
      ring
    · have hother : s.currentMode ≠ mode := Ne.symm hmode
      rw [Function.update_of_ne hmode, List.count_singleton, h.counted]
      simp [hother]
  opened := hphase

theorem Balanced.finalizeCurrent (h : Balanced config quotas s)
    (hplan : config.plan = .paired initialMode quotas) {stop : RoundStop}
    {outcome : EpisodeOutcome} {run : FinalizerRun} (hphase : s.phase = .finalizing stop outcome)
    (hreported : s.commits config stop outcome run = false ∨
      s.returns config stop outcome run = true ∧ run.exit = .reported) :
    Balanced config quotas (s.finalizeCurrent config stop outcome run) := by
  have hopened : CurrentOpen quotas s := by
    have hopened := h.opened
    rw [hphase] at hopened
    exact hopened
  rw [Session.finalizeCurrent]
  by_cases hdiscard : outcome = .discard
  · subst hdiscard
    simp only [not_commits_of_discard, Session.count, if_true]
    split
    · split <;> exact h.of_same rfl rfl trivial
    · exact h.of_same rfl rfl trivial
  · rcases hreported with hcommits | ⟨hreturns, hexit⟩
    · have hreturns : s.returns config stop outcome run = false := by
        by_contra hreturns
        rw [commits_of_returns hdiscard (Bool.eq_true_of_not_eq_false hreturns)] at hcommits
        cases hcommits
      simp only [hcommits, hreturns]
      exact h.of_same rfl rfl trivial
    · simp only [hreturns, hexit, commits_of_returns hdiscard hreturns, Session.count, hplan,
        if_neg hdiscard, if_true]
      exact h.counted_commit hopened rfl rfl trivial

theorem Balanced.step {label : Label K} (h : Balanced config quotas s)
    (hplan : config.plan = .paired initialMode quotas)
    (hcondition : commitsReported config s label = true)
    (hstep : Session.step config s label = some t) : Balanced config quotas t := by
  have hopened := h.opened
  cases step_eq_some hstep with
  | done t hcommand => exact h.commandDone hplan hcommand
  | answered text t hanswer => exact h.answered hplan hanswer
  | begun timestamp hphase => exact h.beginRound hphase timestamp
  | recorded files staging hrecording hcurrent =>
    refine h.of_same rfl rfl ?_
    cases hphase : s.phase <;> rw [hphase] at hopened <;> exact hopened
  | stopped label stop hphase =>
    rw [hphase] at hopened
    exact h.stopRound hopened stop
  | finalized stop outcome run hphase =>
    apply h.finalizeCurrent hplan hphase
    simpa [commitsReported, hphase] using hcondition
  | interrupted | signalled => exact h.trap
  | deleted | killed => exact h.of_same rfl rfl trivial

/-! ## Runs -/

omit [Zero K] [One K] in
private theorem balanced_start (hplan : config.plan = .paired initialMode quotas)
    (hfirst : FirstModeOpen initialMode quotas) (dataset : Dataset K) :
    Balanced config quotas (.start config dataset) := by
  have hsaved : (Session.start config dataset).savedUnder = quotas.initialSaved := by
    rw [start, hplan]
  have hmode : (Session.start config dataset).currentMode = initialMode := by
    rw [start, hplan]
  refine ⟨fun mode => ?_, fun mode => ?_, fun hwants => ?_⟩
  · rw [hsaved]
    exact quotas.initialSaved_le mode
  · rw [hsaved, start, List.count_nil, Nat.cast_zero, add_zero]
  · rw [CurrentOpen, hsaved, hmode]
    rcases hfirst with hopen | hcomplete
    · exact hopen
    · rw [wantsEpisodes, hplan, hsaved] at hwants
      simp [Int64.not_lt.mpr (hcomplete _)] at hwants

/-- When the first policy has an open quota, or no round runs, and every finalizer reports what
it commits, no counter of a paired session exceeds its target and each counts the commits under
its policy. -/
theorem paired_quotas_respected (config : SessionConfig) (initialMode : PolicyMode)
    (quotas : PairedQuotas) (hplan : config.plan = .paired initialMode quotas)
    (hfirst : FirstModeOpen initialMode quotas) (dataset : Dataset K) (labels : List (Label K))
    (s : Session K) (hrun : Run (ReportingSteps config) (.start config dataset) labels s) :
    (∀ mode, s.savedUnder mode ≤ quotas.target mode) ∧
      ∀ mode, (s.savedUnder mode).toInt =
        (quotas.initialSaved mode).toInt + s.committed.count mode := by
  have hbalanced := hrun.invariant (I := Balanced config quotas)
    (fun _ _ _ hstep hs => hs.step hplan hstep.1 hstep.2) (balanced_start hplan hfirst dataset)
  exact ⟨hbalanced.le, hbalanced.counted⟩

end Finalizer

/-! ## Concrete sessions -/

/-- One episode under each policy, none of them saved before. -/
def oneOfEach : PairedQuotas where
  target := fun _ => 1
  initialSaved := fun _ => 0
  initialSaved_le := fun _ => by decide

def baselineSaved : PairedQuotas where
  target := fun _ => 1
  initialSaved
    | .baseline => 1
    | .qgf => 0
  initialSaved_le := fun mode => by cases mode <;> decide

def baselineFirst (quotas : PairedQuotas) : SessionConfig :=
  ⟨.paired .baseline quotas, "", "", "180"⟩

def savedRound : List (Label ℚ) :=
  firstRound ++ [.answer "S", .finalizer ⟨noFaults, "", "", .reported⟩]

theorem saved_round_within_quotas :
    FirstModeOpen .baseline oneOfEach ∧ ∃ s : Session ℚ, s.committed = [.baseline] ∧
      (∀ mode, s.savedUnder mode ≤ oneOfEach.target mode) ∧
      ∀ mode, (s.savedUnder mode).toInt =
        (oneOfEach.initialSaved mode).toInt + s.committed.count mode := by
  have hfirst : FirstModeOpen .baseline oneOfEach := Or.inl (by decide)
  have hsome : (execute (restrict (fun s label =>
      commitsReported (baselineFirst oneOfEach) s label = true)
      (Session.step (baselineFirst oneOfEach))) (.start (baselineFirst oneOfEach) emptyDataset)
      savedRound).any (fun s => decide (s.committed = [.baseline])) = true := by decide +kernel
  obtain ⟨s, hs, hcommitted⟩ := (Option.any_eq_true _ _).mp hsome
  exact ⟨hfirst, s, of_decide_eq_true hcommitted, paired_quotas_respected
    (baselineFirst oneOfEach) .baseline oneOfEach rfl hfirst emptyDataset savedRound s
    (run_restricted_of_execute _ hs)⟩

/-- A session that starts under a policy whose quota is complete saves one episode too many. -/
theorem complete_quota_exceeded :
    ∃ s : Session ℚ, Run (Steps (Session.step (baselineFirst baselineSaved)))
        (.start (baselineFirst baselineSaved) emptyDataset) savedRound s ∧
      ¬∀ mode, s.savedUnder mode ≤ baselineSaved.target mode := by
  have hsome : (execute (Session.step (baselineFirst baselineSaved))
      (.start (baselineFirst baselineSaved) emptyDataset) savedRound).any (fun s =>
        decide (baselineSaved.target .baseline < s.savedUnder .baseline)) = true := by
    decide +kernel
  obtain ⟨s, hs, hexceeded⟩ := (Option.any_eq_true _ _).mp hsome
  exact ⟨s, run_of_execute hs, fun hle => 
    Int64.not_le.mpr (of_decide_eq_true hexceeded) (hle .baseline)⟩

end SmolVlaQgf.PairedCollection
