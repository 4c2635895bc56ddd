import SmolVlaQgf.CollectionSession
import SmolVlaQgf.FinalizerEffects

/-!
# Episodes the operator decided to keep

The exit trap deletes the current staging directory whatever the label was, and the script
forgets that directory only after the finalizer has succeeded. An episode labelled success
or failure is therefore lost when its finalizer fails before the rename, and is safe when
that finalizer gets through it.
-/

namespace SmolVlaQgf.KeptEpisodes
open TransitionRuns FieldText CaptureValidation EpisodeDataset EpisodeFinalizer EpisodeCommit
  FinalizerEffects CollectionSession Session

variable {K : Type} [Zero K] [One K]

/-! ## The condition -/

/-- A label that keeps the episode is followed by a finalizer that gets through its rename. -/
def keptRunCommits (config : SessionConfig) (s : Session K) (label : Label K) : Bool :=
  match s.phase, label with
  | .finalizing stop outcome, .finalizer run =>
      decide (outcome = .discard) || s.commits config stop outcome run
  | .finalizing _ outcome, .signal => decide (outcome = .discard)
  | _, _ => true

/-! ## What holds in the phases of a session -/

/-- Phases that agree on what they know about the current staging directory. -/
inductive PhaseKind where
  | idle
  | opening
  | running
  | labelling
  | deciding (outcome : EpisodeOutcome)
  | closing
  | finished

def kind : Phase → PhaseKind
  | .makeStaging => .opening
  | .recorderStart | .movePrompt | .enablePolicy | .monitoring | .endingRound => .running
  | .labelling _ => .labelling
  | .finalizing _ outcome => .deciding outcome
  | .trap => .closing
  | .ended => .finished
  | _ => .idle

def CurrentStaged (s : Session K) : Prop :=
  ∃ staging, s.currentStaging = some staging ∧ (s.dataset.staging staging).isSome = true

def Kept (s : Session K) : Prop := ∃ outcome, s.answered = some outcome ∧ outcome ≠ .discard

def FactsAt (s : Session K) : PhaseKind → Prop
  | .idle => s.currentStaging = none ∧ s.recording = false
  | .opening => s.currentStaging.isSome = true ∧ s.recording = false ∧ s.answered = none
  | .running => CurrentStaged s ∧ s.answered = none
  | .labelling => CurrentStaged s ∧ s.recording = false ∧ s.answered = none
  | .deciding outcome => CurrentStaged s ∧ s.recording = false ∧ s.answered = some outcome
  | .closing => Kept s →
      s.recording = false ∧ ∀ staging ∈ s.currentStaging, s.dataset.staging staging = none
  | .finished => True

def Facts (s : Session K) : Prop := FactsAt s (kind s.phase)

omit [Zero K] [One K] in
private theorem factsAt_goTo (s : Session K) (phase : Phase) (k : PhaseKind) :
    FactsAt (s.goTo phase) k ↔ FactsAt s k := by cases k <;> rfl

omit [Zero K] [One K] in
theorem Facts.goTo {s : Session K} (h : Facts s) {phase : Phase}
    (hkind : kind phase = kind s.phase) : Facts (s.goTo phase) := by
  have hfacts : FactsAt s (kind phase) := by
    rw [hkind]
    exact h
  exact (factsAt_goTo s phase (kind phase)).mpr hfacts

section Steps

variable {config : SessionConfig} {s t : Session K}

omit [Zero K] [One K]

/-- The trap is entered before any label, or when nothing is staged. -/
theorem Facts.trap (h : Facts s) (hdiscard : ∀ stop outcome, s.phase = .finalizing stop outcome →
    outcome = .discard) (hended : s.phase ≠ .ended) : Facts (s.goTo .trap) := by
  have hfacts : FactsAt s (kind s.phase) := h
  have hdeciding : ∀ given, kind s.phase = .deciding given → given = .discard := by
    intro given hgiven
    cases hphase : s.phase with
    | finalizing stop outcome =>
      rw [hphase] at hgiven
      obtain rfl := PhaseKind.deciding.inj hgiven
      exact hdiscard stop outcome hphase
    | _ =>
      rw [hphase] at hgiven
      cases hgiven
  have hfinished : kind s.phase ≠ .finished := by
    intro hfinished
    cases hphase : s.phase with
    | ended => exact hended hphase
    | _ =>
      rw [hphase] at hfinished
      cases hfinished
  apply (factsAt_goTo s .trap .closing).mpr
  rintro ⟨outcome, houtcome, hkept⟩
  cases hphase : kind s.phase with
  | idle =>
    rw [hphase] at hfacts
    refine ⟨hfacts.2, fun staging hstaging => ?_⟩
    rw [hfacts.1] at hstaging
    cases hstaging
  | opening =>
    rw [hphase] at hfacts
    simp [hfacts.2.2] at houtcome
  | running =>
    rw [hphase] at hfacts
    simp [hfacts.2] at houtcome
  | labelling =>
    rw [hphase] at hfacts
    simp [hfacts.2.2] at houtcome
  | deciding given =>
    rw [hphase] at hfacts
    obtain rfl := Option.some.inj (hfacts.2.2.symm.trans houtcome)
    exact absurd (hdeciding given hphase) hkept
  | closing =>
    rw [hphase] at hfacts
    exact hfacts ⟨outcome, houtcome, hkept⟩
  | finished => exact absurd hphase hfinished

theorem Facts.interrupted (h : Facts s) (hs : s.Interruptible) : Facts (s.goTo .trap) :=
  h.trap (fun stop outcome hphase => absurd hphase (hs.1 stop outcome)) hs.2

theorem Facts.stopRound (h : Facts s) (hkind : kind s.phase = .running) (stop : RoundStop) :
    Facts (s.stopRound stop) := by
  have hfacts : FactsAt s .running := hkind ▸ h
  exact ⟨hfacts.1, rfl, hfacts.2⟩

theorem Facts.beginRound (h : Facts s) (hphase : s.phase = .roundStart) (timestamp : Text) :
    Facts (s.beginRound config timestamp) := by
  rw [Session.beginRound]
  split
  · have hidle : FactsAt s .idle := by
      rw [Facts, hphase] at h
      exact h
    exact ⟨rfl, hidle.2, rfl⟩
  · exact h.goTo (by rw [hphase]; rfl)

private theorem interruptible_of_idle (h : kind s.phase = .idle) : s.Interruptible := by
  constructor
  · intro stop outcome hphase
    rw [hphase] at h
    cases h
  · intro hphase
    rw [hphase] at h
    cases h

theorem Facts.afterLabel (h : Facts s) (hkind : kind s.phase = .idle) (stop : RoundStop) :
    Facts (s.afterLabel config stop) := by
  rw [Session.afterLabel]
  split_ifs
  · exact h.interrupted (interruptible_of_idle hkind)
  · cases config.plan <;> exact h.goTo hkind.symm
  · exact h.goTo hkind.symm

theorem Facts.commandDone (h : Facts s) (hstep : s.commandDone config = some t) : Facts t := by
  rw [Session.commandDone] at hstep
  cases hphase : s.phase with
  | makeStaging =>
    rw [hphase] at hstep
    obtain ⟨staging, hstaging, rfl⟩ := Option.map_eq_some_iff.mp hstep
    have hopening : FactsAt s .opening := by
      rw [Facts, hphase] at h
      exact h
    refine ⟨⟨staging, hstaging, ?_⟩, hopening.2.2⟩
    simp [makeStaging]
  | endingRound =>
    rw [hphase] at hstep
    obtain rfl := Option.some.inj hstep
    exact h.stopRound (by rw [hphase]; rfl) _
  | labelled stop =>
    rw [hphase] at hstep
    obtain rfl := Option.some.inj hstep
    exact h.afterLabel (by rw [hphase]; rfl) stop
  | complete =>
    rw [hphase] at hstep
    obtain rfl := Option.some.inj hstep
    exact h.interrupted (by simp [Interruptible, hphase])
  | stoppingPolicy mode =>
    rw [hphase] at hstep
    obtain rfl := Option.some.inj hstep
    rw [Facts, hphase] at h
    exact h
  | recorderStart =>
    rw [hphase] at hstep
    obtain rfl := Option.some.inj hstep
    apply h.goTo
    rw [hphase]
    split <;> rfl
  | setup | preparing | enablePolicy | startingPolicy | resetting =>
    rw [hphase] at hstep
    obtain rfl := Option.some.inj hstep
    apply h.goTo
    rw [hphase]
    rfl
  | _ =>
    rw [hphase] at hstep
    cases hstep

theorem Facts.answered {answer : String} (h : Facts s) (hanswer : Answered config s answer t) :
    Facts t := by
  cases hanswer with
  | armed hphase => exact h.goTo (by rw [hphase]; rfl)
  | moved hphase => exact h.goTo (by rw [hphase]; rfl)
  | watched hphase => exact h.goTo (by rw [hphase])
  | stopped hphase => exact h.goTo (by rw [hphase]; rfl)
  | interrupted hs => exact h.interrupted hs
  | repeated => exact h
  | labelled stop outcome hphase hlabel =>
    have hlabelling : FactsAt s .labelling := by
      rw [Facts, hphase] at h
      exact h
    exact ⟨hlabelling.1, hlabelling.2.1, rfl⟩
  | chosen mode initialMode quotas hphase hplan hroom => exact h.goTo (by rw [hphase]; rfl)
  | finished hphase =>
    apply h.goTo
    rcases hphase with hphase | hphase | hphase <;> rw [hphase] <;> rfl
  | ready hphase => exact h.goTo (by rw [hphase]; rfl)
  | reset hphase => exact h.goTo (by rw [hphase]; rfl)

theorem Facts.record (h : Facts s) {staging : Text} (hrecording : s.recording = true)
    (hstaging : s.currentStaging = some staging) (files : EpisodeFiles K) :
    Facts { s with dataset := { s.dataset with
      staging := Function.update s.dataset.staging staging (some files) } } := by
  have hfacts : FactsAt s (kind s.phase) := h
  rw [Facts]
  dsimp only
  cases hphase : kind s.phase with
  | running =>
    rw [hphase] at hfacts
    exact ⟨⟨staging, hstaging, by simp⟩, hfacts.2⟩
  | closing =>
    rw [hphase] at hfacts
    intro hkept
    have hnot := (hfacts hkept).1
    rw [hrecording] at hnot
    cases hnot
  | finished => trivial
  | idle =>
    rw [hphase] at hfacts
    exact absurd hrecording (by simp [hfacts.2])
  | opening =>
    rw [hphase] at hfacts
    exact absurd hrecording (by simp [hfacts.2.1])
  | labelling =>
    rw [hphase] at hfacts
    exact absurd hrecording (by simp [hfacts.2.1])
  | deciding outcome =>
    rw [hphase] at hfacts
    exact absurd hrecording (by simp [hfacts.2.1])

private theorem count_recording (config : SessionConfig) (s : Session K)
    (outcome : EpisodeOutcome) :
    (s.count config outcome).recording = s.recording := by
  rw [Session.count]
  split
  · rfl
  · split <;> rfl

end Steps

section Finalizer

variable {config : SessionConfig} {s t : Session K}

theorem staging_of_commits {stop : RoundStop} {outcome : EpisodeOutcome} {run : FinalizerRun}
    (h : s.commits config stop outcome run = true) {staging : Text}
    (hstaging : s.currentStaging = some staging) :
    (s.finalized config stop outcome run).1.staging staging = none := by
  rw [commits, hstaging, Option.any_some, Bool.and_eq_true, Bool.and_eq_true] at h
  exact Option.isNone_iff_eq_none.mp h.2.2

theorem Facts.finalizeCurrent {stop : RoundStop} {outcome : EpisodeOutcome} {run : FinalizerRun}
    (h : Facts s) (hphase : s.phase = .finalizing stop outcome)
    (hcommits : outcome = .discard ∨ s.commits config stop outcome run = true) :
    Facts (s.finalizeCurrent config stop outcome run) := by
  have hdeciding : FactsAt s (.deciding outcome) := by
    rw [Facts, hphase] at h
    exact h
  obtain ⟨-, hrecording, hanswered⟩ := hdeciding
  rw [Session.finalizeCurrent]
  dsimp only
  have htrap : ∀ u : Session K, u.phase = .trap → u.answered = s.answered →
      u.recording = s.recording → (u.currentStaging = none ∨
        u.currentStaging = s.currentStaging ∧
          u.dataset = (s.finalized config stop outcome run).1) → Facts u := by
    intro u huphase huanswered hurecording hustaging
    rw [Facts, huphase]
    rintro ⟨given, hgiven, hkept⟩
    refine ⟨hurecording.trans hrecording, fun staging hstaging => ?_⟩
    rw [huanswered, hanswered] at hgiven
    obtain rfl := Option.some.inj hgiven
    rcases hustaging with hnone | ⟨hsame, hdataset⟩
    · rw [hnone] at hstaging
      cases hstaging
    · rw [hsame] at hstaging
      rw [hdataset]
      exact staging_of_commits (hcommits.resolve_left hkept) hstaging
  split
  · split
    · refine ⟨rfl, ?_⟩
      dsimp only
      rw [count_recording]
      exact hrecording
    · exact htrap _ rfl rfl rfl (Or.inl rfl)
    · exact htrap _ rfl rfl rfl (Or.inr ⟨rfl, rfl⟩)
  · exact htrap _ rfl rfl rfl (Or.inr ⟨rfl, rfl⟩)

/-- The facts hold after every step that meets the condition. -/
theorem Facts.step {label : Label K} (h : Facts s)
    (hcondition : keptRunCommits config s label = true)
    (hstep : Session.step config s label = some t) : Facts t := by
  cases step_eq_some hstep with
  | done t hcommand => exact h.commandDone hcommand
  | interrupted label hs => exact h.interrupted hs
  | answered text t hanswer => exact h.answered hanswer
  | begun timestamp hphase => exact h.beginRound hphase timestamp
  | recorded files staging hrecording hcurrent => exact h.record hrecording hcurrent files
  | stopped label stop hphase => exact h.stopRound (by rw [hphase]; rfl) stop
  | finalized stop outcome run hphase =>
    apply h.finalizeCurrent hphase
    simpa [keptRunCommits, hphase] using hcondition
  | signalled hended =>
    refine h.trap (fun stop outcome hphase => ?_) hended
    simpa [keptRunCommits, hphase] using hcondition
  | deleted | killed => exact trivial

end Finalizer

/-! ## Runs -/

section Runs

variable {config : SessionConfig} {s t : Session K}

/-- Without its rename a finalizer leaves the staged directory. -/
theorem reachesRename_of_commits {stop : RoundStop} {outcome : EpisodeOutcome}
    {run : FinalizerRun} (h : s.commits config stop outcome run = true) :
    ReachesRename run.faults (s.finalizeArgs config stop outcome run) s.dataset := by
  rw [commits, Bool.and_eq_true, decide_eq_true_eq] at h
  obtain ⟨houtcome, hgone⟩ := h
  obtain ⟨staging, hstaging, hmoved⟩ := (Option.any_eq_true _ _).mp hgone
  rw [Bool.and_eq_true] at hmoved
  have hargs : (s.finalizeArgs config stop outcome run).outcome ≠ .discard := houtcome
  rcases before_rename run.faults s.dataset hargs with ⟨-, hraises⟩ | ⟨hreach, -⟩
  · have hlast : Unchanged s.dataset (s.finalized config stop outcome run).1 :=
      (after_of_raises (n := 8) (by omega) hraises).state
    have hsame := hlast.staging staging
    rw [hmoved.1, Option.isNone_iff_eq_none.mp hmoved.2] at hsame
    cases hsame
  · exact hreach

/-- The finalizer of a kept episode commits exactly when it gets through its rename. -/
theorem commits_iff_reachesRename {stop : RoundStop} {outcome : EpisodeOutcome}
    {run : FinalizerRun} (houtcome : outcome ≠ .discard) (hs : CurrentStaged s) :
    s.commits config stop outcome run = true ↔
      ReachesRename run.faults (s.finalizeArgs config stop outcome run) s.dataset := by
  refine ⟨reachesRename_of_commits, fun hreach => ?_⟩
  obtain ⟨staging, hstaging, hstaged⟩ := hs
  have hargs : (s.finalizeArgs config stop outcome run).outcome ≠ .discard := houtcome
  have hgone := gone_of_reachesRename hargs hreach
  have htarget : target (s.finalizeArgs config stop outcome run) = staging := by
    rw [target, finalizeArgs, hstaging, Option.getD_some]
  rw [htarget] at hgone
  simp [commits, houtcome, hstaging, hstaged, finalized, hgone]

/-- A finalizer that takes the staged directory away has committed its capture. -/
theorem committed_of_commits {stop : RoundStop} {outcome : EpisodeOutcome} {run : FinalizerRun}
    (h : s.commits config stop outcome run = true) {staging : Text} {files : EpisodeFiles K}
    (hstaging : s.currentStaging = some staging) (hfiles : s.dataset.staging staging = some files) :
    Committed (s.finalized config stop outcome run).1 files.capture := by
  obtain ⟨staging', files', hstaging', hfiles', hvalid⟩ := (reachesRename_of_commits h).capture
  obtain rfl : staging = staging' := Option.some.inj (hstaging.symm.trans hstaging')
  obtain rfl : files = files' := Option.some.inj (hfiles.symm.trans hfiles')
  have htarget : target (s.finalizeArgs config stop outcome run) = staging := by
    rw [target, finalizeArgs, hstaging, Option.getD_some]
  have houtcome : outcome ≠ .discard := by
    rw [commits, Bool.and_eq_true, decide_eq_true_eq] at h
    exact h.1
  have heffects := finalize_effects run.faults (s.finalizeArgs config stop outcome run) s.dataset
  have hcapture := isFile_samples_of_validateCapture hvalid
  rcases heffects.kept houtcome hcapture ⟨files, htarget ▸ hfiles, rfl⟩ with
    ⟨files', hstaged, -⟩ | hcommitted
  · rw [htarget] at hstaged
    have hgone := staging_of_commits h hstaging
    rw [finalized, hstaged] at hgone
    cases hgone
  · exact hcommitted

theorem committed_step {label : Label K} (hstep : Session.step config s label = some t)
    {capture : CaptureFiles K} (h : Committed s.dataset capture) : Committed t.dataset capture := by
  cases step_dataset hstep with
  | same hdataset => rwa [hdataset]
  | staged hepisodes hstaging => rwa [Committed, hepisodes]
  | finalized stop outcome run hphase hdataset =>
    rw [hdataset]
    exact (finalize_effects _ _ _).committed h
  | deleted run hphase hdataset =>
    rw [hdataset, deleteCurrentEpisode]
    split
    · exact h
    · split
      · split <;> exact h
      · exact (finalize_effects _ _ _).committed h

theorem committed_after_answer {stop : RoundStop} {outcome : EpisodeOutcome} {label : Label K}
    (h : Facts s) (hphase : s.phase = .finalizing stop outcome) (houtcome : outcome ≠ .discard)
    (hcondition : keptRunCommits config s label = true)
    (hstep : Session.step config s label = some t) {staging : Text} {files : EpisodeFiles K}
    (hstaging : s.currentStaging = some staging) (hfiles : s.dataset.staging staging = some files) :
    Committed t.dataset files.capture := by
  have hdeciding : FactsAt s (.deciding outcome) := by
    rw [Facts, hphase] at h
    exact h
  cases label with
  | finalizer run =>
    simp only [keptRunCommits, hphase, Bool.or_eq_true, decide_eq_true_eq] at hcondition
    have hcommits := hcondition.resolve_left houtcome
    simp only [Session.step, hphase] at hstep
    obtain rfl := Option.some.inj hstep
    rw [finalizeCurrent_dataset]
    exact committed_of_commits hcommits hstaging hfiles
  | signal =>
    simp only [keptRunCommits, hphase, decide_eq_true_eq] at hcondition
    exact absurd hcondition houtcome
  | record files' =>
    simp [Session.step, hdeciding.2.1] at hstep
  | command succeeds => cases succeeds <;>
      simp [Session.step, commandDone, commandFailed, hphase] at hstep
  | answer text => simp [Session.step, answerPrompt, hphase] at hstep
  | endOfInput => simp [Session.step, promptFailed, hphase] at hstep
  | now timestamp => simp [Session.step, hphase] at hstep
  | clientExits => simp [Session.step, hphase] at hstep
  | monitorEnds source code => simp [Session.step, hphase] at hstep
  | delete run => simp [Session.step, hphase] at hstep

/-- Why a staging directory is gone: it was committed after an S or F answer, discarded after
a D answer, or deleted by the trap without any S or F answer. -/
inductive Removal (s t : Session K) (staging : Text) : Prop where
  | committed (kept : Kept s) (files : EpisodeFiles K)
      (staged : s.dataset.staging staging = some files)
      (committed : Committed t.dataset files.capture)
  | discarded (answered : s.answered = some .discard)
  | interrupted (trap : s.phase = .trap) (unanswered : ¬Kept s)

private theorem deleteCurrentEpisode_staging_of_ne (config : SessionConfig) (s : Session K)
    (run : DeletionRun) {name : Text} (hname : name ∉ s.currentStaging) :
    (s.deleteCurrentEpisode config run).staging name = s.dataset.staging name := by
  rw [deleteCurrentEpisode]
  cases hstaging : s.currentStaging with
  | none => rfl
  | some staging =>
    have hne : name ≠ staging := by
      rintro rfl
      exact hname hstaging
    dsimp only
    split
    · split
      · rfl
      · exact Function.update_of_ne hne _ _
    · exact (finalize_effects _ _ _).staging_of_ne hne

private theorem removal_of_step {label : Label K} (h : Facts s)
    (hcondition : keptRunCommits config s label = true)
    (hstep : Session.step config s label = some t) {name : Text}
    (hbefore : (s.dataset.staging name).isSome = true) (hafter : t.dataset.staging name = none) :
    Removal s t name := by
  obtain ⟨files, hfiles⟩ := Option.isSome_iff_exists.mp hbefore
  cases step_dataset hstep with
  | same hdataset =>
    rw [hdataset, hfiles] at hafter
    cases hafter
  | staged hepisodes hstaging =>
    have hkept := hstaging name hbefore
    rw [hafter] at hkept
    cases hkept
  | finalized stop outcome run hphase hdataset =>
    have hdeciding : FactsAt s (.deciding outcome) := by
      rw [Facts, hphase] at h
      exact h
    obtain ⟨⟨staging, hstaging, -⟩, -, hanswered⟩ := hdeciding
    by_cases houtcome : outcome = .discard
    · exact .discarded (houtcome ▸ hanswered)
    · have htarget : target (s.finalizeArgs config stop outcome run) = staging := by
        rw [target, finalizeArgs, hstaging, Option.getD_some]
      have hname : name = staging := by
        by_contra hne
        rw [hdataset, finalized, (finalize_effects _ _ _).staging_of_ne (htarget ▸ hne),
          hfiles] at hafter
        cases hafter
      refine .committed ⟨outcome, hanswered, houtcome⟩ files hfiles ?_
      exact committed_after_answer h hphase houtcome hcondition hstep (hname ▸ hstaging) hfiles
  | deleted run hphase hdataset =>
    refine .interrupted hphase fun hkept => ?_
    have hclosing : FactsAt s .closing := by
      rw [Facts, hphase] at h
      exact h
    by_cases hname : name ∈ s.currentStaging
    · rw [(hclosing hkept).2 name hname] at hbefore
      cases hbefore
    · rw [hdataset, deleteCurrentEpisode_staging_of_ne config s run hname, hfiles] at hafter
      cases hafter

/-- The steps of a session in which every S or F answer is followed by a finalizer that gets
through its rename. -/
def KeepingSteps (config : SessionConfig) : Session K → Label K → Session K → Prop :=
  Restricted (fun s label => keptRunCommits config s label = true) (Steps (Session.step config))

omit [Zero K] [One K] in
private theorem facts_start (config : SessionConfig) (dataset : Dataset K) :
    Facts (.start config dataset) := ⟨rfl, rfl⟩

private theorem facts_of_run {dataset : Dataset K} {labels : List (Label K)}
    (h : Run (KeepingSteps config) (.start config dataset) labels s) : Facts s :=
  h.invariant (fun _ _ _ hstep hs => hs.step hstep.1 hstep.2) (facts_start config dataset)

/-- When every S or F answer is followed by a finalizer that gets through its rename, an
episode with such an answer is committed at the end of the session, and staging directories
are deleted only after a D answer or by a trap before any S or F answer. -/
theorem kept_episodes_survive (config : SessionConfig) (dataset : Dataset K)
    (labels : List (Label K)) (s : Session K)
    (hrun : Run (KeepingSteps config) (.start config dataset) labels s) :
    (∀ stop text outcome t later u, s.phase = .labelling stop → labelOf text = some outcome →
      outcome ≠ .discard → Session.step config s (.answer text) = some t →
      Run (KeepingSteps config) t later u → u.phase = .ended →
      ∃ staging files, s.currentStaging = some staging ∧
        s.dataset.staging staging = some files ∧
        (Committed u.dataset files.capture ∨ (u.dataset.staging staging).isSome = true)) ∧
    ∀ label t staging, KeepingSteps config s label t →
      (s.dataset.staging staging).isSome = true → t.dataset.staging staging = none →
      Removal s t staging := by
  have hs := facts_of_run hrun
  refine ⟨?_, fun label t staging hstep => removal_of_step hs hstep.1 hstep.2⟩
  intro stop text outcome t later u hphase hlabel houtcome hstep hlater hended
  have hlabelling : FactsAt s .labelling := by
    rw [Facts, hphase] at hs
    exact hs
  obtain ⟨⟨staging, hstaging, hstaged⟩, -, -⟩ := hlabelling
  obtain ⟨files, hfiles⟩ := Option.isSome_iff_exists.mp hstaged
  have ht : Facts t := hs.step (by simp [keptRunCommits, hphase]) hstep
  simp only [Session.step, answerPrompt, hphase, hlabel] at hstep
  obtain rfl := Option.some.inj hstep
  have hfinal := hlater.invariant (I := fun v => v = { s with
      answered := some outcome
      phase := .finalizing stop outcome } ∨ Committed v.dataset files.capture) ?_ (Or.inl rfl)
  · rcases hfinal with rfl | hcommitted
    · cases hended
    · exact ⟨staging, files, hstaging, hfiles, Or.inl hcommitted⟩
  · rintro v label w hvw (rfl | hcommitted)
    · exact Or.inr (committed_after_answer ht rfl houtcome hvw.1 hvw.2 hstaging hfiles)
    · exact Or.inr (committed_step hvw.2 hcommitted)

def deletes : DeletionRun := ⟨noFaults, false, false⟩

private theorem deleteCurrentEpisode_deletes {staging : Text}
    (h : s.currentStaging = some staging) :
    s.deleteCurrentEpisode config deletes =
      { s.dataset with staging := Function.update s.dataset.staging staging none } := by
  rw [deleteCurrentEpisode, h]
  have hdiscard : (finalize noFaults (discardArgs config staging) s.dataset).1 = _ :=
    finalize_discard rfl rfl
  exact hdiscard

/-- A finalizer that does not get through its rename leaves the episode to the trap. -/
theorem lost_of_not_commits {stop : RoundStop} {outcome : EpisodeOutcome} {run : FinalizerRun}
    (h : Facts s) (hphase : s.phase = .finalizing stop outcome) (houtcome : outcome ≠ .discard)
    (hcommits : s.commits config stop outcome run = false) :
    ∃ t u, Session.step config s (.finalizer run) = some t ∧
      Session.step config t (.delete deletes) = some u ∧ u.phase = .ended ∧
      u.dataset.episodes = s.dataset.episodes ∧
      ∀ staging ∈ s.currentStaging, u.dataset.staging staging = none := by
  have hdeciding : FactsAt s (.deciding outcome) := by
    rw [Facts, hphase] at h
    exact h
  obtain ⟨⟨staging, hstaging, hstaged⟩, -, -⟩ := hdeciding
  have hargs : (s.finalizeArgs config stop outcome run).outcome ≠ .discard := houtcome
  have hreach := (commits_iff_reachesRename houtcome ⟨staging, hstaging, hstaged⟩).not.mp
    (Bool.eq_false_iff.mp hcommits)
  rcases before_rename run.faults s.dataset hargs with ⟨-, hraises⟩ | ⟨hreached, -⟩
  · have hlast := after_of_raises (n := 8) (by omega) hraises
    obtain ⟨error, herror⟩ := hlast.raised
    have hunchanged : Unchanged s.dataset (s.finalized config stop outcome run).1 := hlast.state
    have hreturns : s.returns config stop outcome run = false := by
      rw [returns, show (s.finalized config stop outcome run).2 = .raised error from herror]
    let t : Session K := { s with
      dataset := (s.finalized config stop outcome run).1
      phase := .trap }
    have ht : Session.step config s (.finalizer run) = some t := by
      simp only [Session.step, hphase, finalizeCurrent, hreturns, hcommits]
      rfl
    have hcurrent : t.currentStaging = some staging := hstaging
    have hdelete : t.deleteCurrentEpisode config deletes =
        { t.dataset with staging := Function.update t.dataset.staging staging none } :=
      deleteCurrentEpisode_deletes hcurrent
    refine ⟨t, _, ht, rfl, rfl, ?_, fun staging' hstaging' => ?_⟩
    · exact (congrArg Dataset.episodes hdelete).trans hunchanged.episodes
    · obtain rfl : staging = staging' := Option.some.inj (hstaging.symm.trans hstaging')
      have hstaging₁ := congrFun (congrArg Dataset.staging hdelete) staging
      exact hstaging₁.trans (Function.update_self _ _ _)
  · exact absurd hreached hreach

end Runs

/-! ## Concrete sessions -/

def collectOne : SessionConfig := ⟨.single .baseline 1, "", "", "180"⟩

def firstRound : List (Label ℚ) :=
  [.command true, .answer "ARM", .command true, .now [], .command true,
    .record (stagedEpisode .missing), .command true, .answer "MOVE", .command true,
    .monitorEnds "task_complete" 0]

def emptyDataset : Dataset ℚ := ⟨[], none, none, none, none, fun _ => none⟩

def atFirstLabel (s : Session ℚ) : Bool :=
  decide (s.phase = .labelling ⟨"task_complete", 0⟩)

/-- The finalizer commits, and the session has its one episode. -/
def committedRound : List (Label ℚ) :=
  [.finalizer ⟨noFaults, "", "", .reported⟩, .command true, .command true, .delete deletes]

/-- The episode of a session whose finalizer does not fail. -/
theorem collected_episode_survives :
    ∃ s u : Session ℚ, u.phase = .ended ∧ ∃ staging files, s.currentStaging = some staging ∧
      s.dataset.staging staging = some files ∧
      (Committed u.dataset files.capture ∨ (u.dataset.staging staging).isSome = true) := by
  have hsome : ((execute (restrict (fun s label => keptRunCommits collectOne s label = true)
      (Session.step collectOne)) (.start collectOne emptyDataset) firstRound).any fun s =>
        atFirstLabel s && (Session.step collectOne s (.answer "S")).any fun t =>
          (execute (restrict (fun s label => keptRunCommits collectOne s label = true)
            (Session.step collectOne)) t committedRound).any fun u =>
              decide (u.phase = .ended)) = true := by decide +kernel
  obtain ⟨s, hs, hsome⟩ := (Option.any_eq_true _ _).mp hsome
  rw [Bool.and_eq_true] at hsome
  obtain ⟨t, ht, hlater⟩ := (Option.any_eq_true _ _).mp hsome.2
  obtain ⟨u, hu, hended⟩ := (Option.any_eq_true _ _).mp hlater
  have hrun : Run (KeepingSteps collectOne) (.start collectOne emptyDataset) firstRound s :=
    run_restricted_of_execute _ hs
  have hended : u.phase = .ended := of_decide_eq_true hended
  refine ⟨s, u, hended, (kept_episodes_survive collectOne emptyDataset firstRound s hrun).1 _ "S"
    .success t committedRound u (of_decide_eq_true hsome.1) (by decide) (by decide) ht
    (run_restricted_of_execute _ hu) hended⟩

/-- The finalizer of a kept episode fails before it has written a table; the trap then deletes
the episode. -/
theorem kept_episode_lost :
    ∃ s t u : Session ℚ, ∃ labels later staging files,
      Run (Steps (Session.step collectOne)) (.start collectOne emptyDataset) labels s ∧
      s.phase = .labelling ⟨"task_complete", 0⟩ ∧ labelOf "S" = some .success ∧
      Session.step collectOne s (.answer "S") = some t ∧
      Run (Steps (Session.step collectOne)) t later u ∧ u.phase = .ended ∧
      s.currentStaging = some staging ∧ s.dataset.staging staging = some files ∧
      ¬(Committed u.dataset files.capture ∨ (u.dataset.staging staging).isSome = true) := by
  have hsome : ((execute (Session.step collectOne) (.start collectOne emptyDataset)
      firstRound).any fun s => atFirstLabel s &&
        (Session.step collectOne s (.answer "S")).any fun t =>
          (execute (Session.step collectOne) t [.finalizer ⟨(· == .writeTransitions), "", "",
            .reported⟩, .delete deletes]).any fun u =>
            decide (u.phase = .ended) && u.dataset.episodes.isEmpty &&
              s.currentStaging.any fun staging => (s.dataset.staging staging).isSome &&
                (u.dataset.staging staging).isNone) = true := by decide +kernel
  obtain ⟨s, hs, hsome⟩ := (Option.any_eq_true _ _).mp hsome
  rw [Bool.and_eq_true] at hsome
  obtain ⟨t, ht, hlater⟩ := (Option.any_eq_true _ _).mp hsome.2
  obtain ⟨u, hu, hlast⟩ := (Option.any_eq_true _ _).mp hlater
  simp only [Bool.and_eq_true, decide_eq_true_eq, List.isEmpty_iff] at hlast
  obtain ⟨⟨hended, hempty⟩, hcurrent⟩ := hlast
  obtain ⟨staging, hstaging, hgone⟩ := (Option.any_eq_true _ _).mp hcurrent
  rw [Bool.and_eq_true, Option.isNone_iff_eq_none] at hgone
  obtain ⟨files, hfiles⟩ := Option.isSome_iff_exists.mp hgone.1
  refine ⟨s, t, u, _, _, staging, files, run_of_execute hs, of_decide_eq_true hsome.1, by decide,
    ht, run_of_execute hu, hended, hstaging, hfiles, ?_⟩
  rintro (⟨episode, hepisode, -⟩ | hstaged)
  · rw [hempty] at hepisode
    cases hepisode
  · rw [hgone.2] at hstaged
    cases hstaged

end SmolVlaQgf.KeptEpisodes
