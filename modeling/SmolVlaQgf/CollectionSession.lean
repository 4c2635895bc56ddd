import SmolVlaQgf.EpisodeFinalizer
import SmolVlaQgf.TransitionRuns

/-!
# The collection session

`run_qgf_collection_session.sh` as a state machine over the dataset: rounds of recording,
monitoring and labelling, the review of an abnormal stop, and the exit trap, which runs
after any failing command, interruption or regular end and deletes the current episode.
The operator, the monitor, the recorder, the finalizer processes and signals are labels.
-/

namespace SmolVlaQgf.CollectionSession
open DecimalText FieldText EpisodeDataset EpisodeFinalizer

/-! ## The configuration -/

inductive PolicyMode where
  | baseline
  | qgf
  deriving DecidableEq

def PolicyMode.name : PolicyMode → String
  | .baseline => "baseline"
  | .qgf => "qgf"

def policyMode? (name : String) : Option PolicyMode :=
  if name = "baseline" then some .baseline else if name = "qgf" then some .qgf else none

/-- The regular expression `^[1-9][0-9]*$` -/
def isPositiveInteger (text : Text) : Bool :=
  text.head?.any (fun c => isDigit c && c ≠ '0') && text.all isDigit

/-- The regular expression `^[0-9]+$` -/
def isNonnegativeInteger (text : Text) : Bool := !text.isEmpty && text.all isDigit

/-- The value of digits in a base; shell arithmetic wraps around at 64 bits. -/
def valueIn (base : Int64) (digits : Text) : Int64 :=
  digits.foldl (fun value c => value * base + .ofNat (c.toNat - '0'.toNat)) 0

/-- The number shell arithmetic reads: digits after a leading zero are octal. -/
def shellNumber (digits : Text) : Option Int64 :=
  match digits with
  | '0' :: rest => if rest.all (· < '8') then some (valueIn 8 rest) else none
  | digits => some (valueIn 10 digits)

-- 2^64 and 2^63 as shell arithmetic reads them
example : shellNumber "18446744073709551616".toList = some 0 := by decide +kernel

example : shellNumber "9223372036854775808".toList = some (-9223372036854775808) := by
  decide +kernel

structure PairedQuotas where
  target : PolicyMode → Int64
  initialSaved : PolicyMode → Int64
  initialSaved_le : ∀ mode, initialSaved mode ≤ target mode

/-- What `RUN_MODE` selects. -/
inductive RunPlan where
  | single (mode : PolicyMode) (targetEpisodes : Int64)
  | paired (initialMode : PolicyMode) (quotas : PairedQuotas)

structure SessionConfig where
  plan : RunPlan
  task : String
  notes : String
  rolloutTimeoutSeconds : String

structure SessionFields where
  runMode : String := "baseline"
  initialMode : String := "baseline"
  targetEpisodes : Text := "20".toList
  baselineTarget : Text := "0".toList
  qgfTarget : Text := "0".toList
  initialSavedBaseline : Text := "0".toList
  initialSavedQgf : Text := "0".toList

def checkedSaved (saved : Text) (target : Int64) : Option { count : Int64 // count ≤ target } :=
  if isNonnegativeInteger saved then
    (shellNumber saved).bind fun count => if h : count ≤ target then some ⟨count, h⟩ else none
  else none

/-- A target that is accepted. Only its text is tested, not the number it stands for. -/
def checkedTarget (target : Text) : Option Int64 :=
  if isPositiveInteger target then shellNumber target else none

def pairedPlan (fields : SessionFields) : Except String RunPlan :=
  match checkedTarget fields.baselineTarget with
  | none => .error
      "ERROR: QGF_BASELINE_EPISODE_COUNT must be a positive integer in paired mode."
  | some baselineTarget =>
  match checkedTarget fields.qgfTarget with
  | none => .error "ERROR: QGF_QGF_EPISODE_COUNT must be a positive integer in paired mode."
  | some qgfTarget =>
  match checkedSaved fields.initialSavedBaseline baselineTarget with
  | none => .error ("ERROR: QGF_INITIAL_SAVED_BASELINE must be an integer between 0 and the " ++
      "baseline target.")
  | some savedBaseline =>
  match checkedSaved fields.initialSavedQgf qgfTarget with
  | none => .error
      "ERROR: QGF_INITIAL_SAVED_QGF must be an integer between 0 and the QGF target."
  | some savedQgf =>
  match policyMode? fields.initialMode with
  | none => .error "ERROR: QGF_INITIAL_MODE must be baseline or qgf in paired mode."
  | some mode => .ok (.paired mode {
      target := fun
        | .baseline => baselineTarget
        | .qgf => qgfTarget
      initialSaved := fun
        | .baseline => savedBaseline
        | .qgf => savedQgf
      initialSaved_le := fun
        | .baseline => savedBaseline.property
        | .qgf => savedQgf.property })

/-- The validation of `RUN_MODE` and of the counts it needs. -/
def validate (fields : SessionFields) : Except String RunPlan :=
  match policyMode? fields.runMode with
  | some mode =>
      match checkedTarget fields.targetEpisodes with
      | none => .error "ERROR: QGF_EPISODE_COUNT must be a positive integer."
      | some target => .ok (.single mode target)
  | none =>
      if fields.runMode = "paired" then pairedPlan fields
      else .error ("ERROR: QGF_RUN_MODE must be baseline, qgf or paired, got " ++
        fields.runMode ++ ".")

/-! ## The state -/

structure RoundStop where
  terminationSource : String
  monitorCode : ℕ
  deriving DecidableEq

inductive Phase where
  | setup
  | armPrompt
  | preparing
  | roundStart
  | makeStaging
  | recorderStart
  | movePrompt
  | enablePolicy
  | monitoring
  | endingRound
  | labelling (stop : RoundStop)
  | finalizing (stop : RoundStop) (outcome : EpisodeOutcome)
  | labelled (stop : RoundStop)
  | nextPolicy
  | stoppingPolicy (mode : PolicyMode)
  | startingPolicy
  | readyPrompt
  | resetPrompt
  | resetting
  | complete
  | trap
  | ended
  deriving DecidableEq

/-- The state of a session. No command reads `answered`, the label given in this round, or
`committed`, the modes under which finalizers have committed an episode. -/
structure Session (K : Type) where
  dataset : Dataset K
  attempt : Int64
  currentStaging : Option Text
  currentMode : PolicyMode
  saved : Int64
  savedUnder : PolicyMode → Int64
  recording : Bool
  phase : Phase
  answered : Option EpisodeOutcome
  committed : List PolicyMode

/-- How the shell goes on after a finalizer has returned. -/
inductive FinalizerExit where
  | reported
  | failed
  | interruptedBeforeCount
  deriving DecidableEq

/-- A finalizer process of `finalize_current`. -/
structure FinalizerRun where
  faults : FileOp → Bool
  finalizedAtUtc : String
  updatedAtUtc : String
  exit : FinalizerExit

/-- The deletion in the exit trap: a discarding finalizer, and `rm -rf` if it fails. -/
structure DeletionRun where
  faults : FileOp → Bool
  finalizerFails : Bool
  rmFails : Bool

/-- What happens next. A command stands for all commands of a phase; it fails when one of
them does. `now` is the clock reading in the name of the staging directory. -/
inductive Label (K : Type) where
  | command (succeeds : Bool)
  | answer (text : String)
  | endOfInput
  | now (timestamp : Text)
  | record (files : EpisodeFiles K)
  | clientExits
  | monitorEnds (terminationSource : String) (monitorCode : ℕ)
  | finalizer (run : FinalizerRun)
  | delete (run : DeletionRun)
  | signal

/-- The `case` of the labelling prompts. -/
def labelOf (answer : String) : Option EpisodeOutcome :=
  if answer = "S" ∨ answer = "s" then some .success
  else if answer = "F" ∨ answer = "f" then some .failure
  else if answer = "D" ∨ answer = "d" then some .discard
  else none

/-- An accepted answer to the next-policy prompt; `none` finishes the session. -/
def nextPolicyOf (answer : String) : Option (Option PolicyMode) :=
  if answer = "B" ∨ answer = "b" ∨ answer = "baseline" ∨ answer = "BASELINE" then
    some (some .baseline)
  else if answer = "G" ∨ answer = "g" ∨ answer = "Q" ∨ answer = "q" ∨ answer = "qgf" ∨
      answer = "QGF" then some (some .qgf)
  else if answer = "X" ∨ answer = "x" then some none
  else none

variable {K : Type}

/-- The directory `start_recorder` makes; it holds the recorder's log. -/
def newStaging : EpisodeFiles K where
  capture := ⟨.missing, .missing, .missing, .missing, fun _ => false⟩
  transitions := none
  normalizedPolicyChunks := none
  policyObservations := none
  metadata := .missing
  other := true

/-- `mkdir -p` of a staging directory. -/
def makeStaging (staging : Text) (d : Dataset K) : Dataset K :=
  { d with
    staging :=
      Function.update d.staging staging (some ((d.staging staging).getD newStaging)) }

/-- `printf '%04d'` -/
def printedAttempt (attempt : Int64) : Text :=
  if attempt < 0 then '-' :: zeroFilled 3 attempt.toInt.natAbs
  else zeroFilled 4 attempt.toInt.toNat

def stagingName (timestamp : Text) (attempt : Int64) : Text :=
  timestamp ++ "_attempt_".toList ++ printedAttempt attempt

namespace Session

section Script

variable (config : SessionConfig) (s : Session K)

def start (config : SessionConfig) (dataset : Dataset K) : Session K where
  dataset
  attempt := 0
  currentStaging := none
  currentMode := match config.plan with
    | .single mode _ => mode
    | .paired mode _ => mode
  saved := 0
  savedUnder := match config.plan with
    | .single _ _ => fun _ => 0
    | .paired _ quotas => quotas.initialSaved
  recording := false
  phase := .setup
  answered := none
  committed := []

def goTo (phase : Phase) : Session K := { s with phase }

def wantsEpisodes : Bool :=
  match config.plan with
  | .single _ targetEpisodes => decide (s.saved < targetEpisodes)
  | .paired _ quotas =>
      decide (s.savedUnder .baseline < quotas.target .baseline) ||
        decide (s.savedUnder .qgf < quotas.target .qgf)

def beginRound (timestamp : Text) : Session K :=
  if s.wantsEpisodes config then
    { s with
      attempt := s.attempt + 1
      currentStaging := some (stagingName timestamp (s.attempt + 1))
      answered := none
      phase := .makeStaging }
  else s.goTo .complete

/-- The round is over: policy and recorder are stopped, and the episode is to be labelled. -/
def stopRound (stop : RoundStop) : Session K :=
  { s with recording := false, phase := .labelling stop }

/-- The monitor ended by itself; a time limit is a normal ending. -/
def monitorEnded (terminationSource : String) (monitorCode : ℕ) : Session K :=
  if terminationSource = "episode_timeout" ∧ monitorCode = 27 then
    s.stopRound ⟨"episode_timeout_" ++ config.rolloutTimeoutSeconds ++ "s", 0⟩
  else s.stopRound ⟨terminationSource, monitorCode⟩

/-- The notes `finalize_current` writes. -/
def finalNotes (mode : PolicyMode) : String :=
  match config.plan with
  | .single _ _ => config.notes
  | .paired _ _ => config.notes ++ "; policy_mode=" ++ mode.name

/-- The arguments of `finalize_current`. -/
def finalizeArgs (stop : RoundStop) (outcome : EpisodeOutcome) (run : FinalizerRun) :
    FinalizeArgs where
  staging := s.currentStaging
  outcome
  task := config.task
  notes := finalNotes config s.currentMode
  terminationSource := stop.terminationSource
  finalizedAtUtc := run.finalizedAtUtc
  updatedAtUtc := run.updatedAtUtc

def count (outcome : EpisodeOutcome) : Session K :=
  if outcome = .discard then s
  else
    match config.plan with
    | .single _ _ => { s with saved := s.saved + 1 }
    | .paired _ _ => { s with
        savedUnder :=
          Function.update s.savedUnder s.currentMode (s.savedUnder s.currentMode + 1) }

def afterLabel (stop : RoundStop) : Session K :=
  if stop.monitorCode ≠ 0 then s.goTo .trap
  else if s.wantsEpisodes config then
    match config.plan with
    | .single _ _ => s.goTo .resetPrompt
    | .paired _ _ => s.goTo .nextPolicy
  else s.goTo .complete

def commandDone : Option (Session K) :=
  match s.phase with
  | .setup => some (s.goTo .armPrompt)
  | .preparing => some (s.goTo .roundStart)
  | .makeStaging => s.currentStaging.map fun staging => { s with
      dataset := makeStaging staging s.dataset
      recording := true
      phase := .recorderStart }
  | .recorderStart => some (s.goTo (if s.attempt = 1 then .movePrompt else .enablePolicy))
  | .enablePolicy => some (s.goTo .monitoring)
  | .endingRound => some (s.stopRound ⟨"operator_END", 0⟩)
  | .labelled stop => some (s.afterLabel config stop)
  | .stoppingPolicy mode => some { s with currentMode := mode, phase := .startingPolicy }
  | .startingPolicy => some (s.goTo .readyPrompt)
  | .resetting => some (s.goTo .roundStart)
  | .complete => some (s.goTo .trap)
  | _ => none

def commandFailed : Option (Session K) :=
  match s.phase with
  | .setup | .preparing | .makeStaging | .recorderStart | .enablePolicy | .monitoring
  | .endingRound | .labelled _ | .stoppingPolicy _ | .startingPolicy | .resetting | .complete =>
      some (s.goTo .trap)
  | _ => none

def answerPrompt (answer : String) : Option (Session K) :=
  match s.phase with
  | .armPrompt => some (s.goTo (if answer = "ARM" then .preparing else .trap))
  | .movePrompt => some (s.goTo (if answer = "MOVE" then .enablePolicy else .trap))
  | .monitoring => some (s.goTo
      (if answer = "END" then .endingRound else if answer = "ABORT" then .trap else .monitoring))
  | .labelling stop => some
      (match labelOf answer with
      | none => s
      | some outcome => { s with answered := some outcome, phase := .finalizing stop outcome })
  | .nextPolicy => some
      (match nextPolicyOf answer, config.plan with
      | some (some mode), .paired _ quotas =>
          if quotas.target mode ≤ s.savedUnder mode then s else s.goTo (.stoppingPolicy mode)
      | some none, _ => s.goTo .complete
      | _, _ => s)
  | .readyPrompt => some (s.goTo (if answer = "X" ∨ answer = "x" then .complete else .roundStart))
  | .resetPrompt => some (s.goTo (if answer = "Q" ∨ answer = "q" then .complete else .resetting))
  | _ => none

def promptFailed : Option (Session K) :=
  match s.phase with
  | .armPrompt | .movePrompt | .labelling _ | .nextPolicy | .readyPrompt | .resetPrompt =>
      some (s.goTo .trap)
  | _ => none

def finalized [Zero K] [One K] (stop : RoundStop) (outcome : EpisodeOutcome)
    (run : FinalizerRun) : Dataset K × Stage K :=
  finalize run.faults (s.finalizeArgs config stop outcome run) s.dataset

/-- The finalizer has taken the staged episode away and put it under `episodes`. -/
def commits [Zero K] [One K] (stop : RoundStop) (outcome : EpisodeOutcome)
    (run : FinalizerRun) : Bool :=
  decide (outcome ≠ .discard) && s.currentStaging.any fun staging =>
    (s.dataset.staging staging).isSome &&
      ((s.finalized config stop outcome run).1.staging staging).isNone

/-- The finalizer has returned from `finalize`. -/
def returns [Zero K] [One K] (stop : RoundStop) (outcome : EpisodeOutcome)
    (run : FinalizerRun) : Bool :=
  match (s.finalized config stop outcome run).2 with
  | .returned _ => true
  | _ => false

/-- `finalize_current` and the counting after it. -/
def finalizeCurrent [Zero K] [One K] (stop : RoundStop) (outcome : EpisodeOutcome)
    (run : FinalizerRun) : Session K :=
  let done := { s with
    dataset := (s.finalized config stop outcome run).1
    committed :=
      if s.commits config stop outcome run then s.committed ++ [s.currentMode] else s.committed }
  if s.returns config stop outcome run then
    match run.exit with
    | .reported =>
        { (done.count config outcome) with currentStaging := none, phase := .labelled stop }
    | .interruptedBeforeCount => { done with currentStaging := none, phase := .trap }
    | .failed => { done with phase := .trap }
  else { done with phase := .trap }

def discardArgs (staging : Text) : FinalizeArgs :=
  ⟨some staging, .discard, config.task, "", "unknown", "", ""⟩

/-- `delete_current_episode` -/
def deleteCurrentEpisode [Zero K] [One K] (run : DeletionRun) : Dataset K :=
  match s.currentStaging with
  | none => s.dataset
  | some staging =>
      if run.finalizerFails then
        if run.rmFails then s.dataset
        else { s.dataset with staging := Function.update s.dataset.staging staging none }
      else (finalize run.faults (discardArgs config staging) s.dataset).1

end Script

def step [Zero K] [One K] (config : SessionConfig) (s : Session K) :
    Label K → Option (Session K)
  | .command succeeds => if succeeds then s.commandDone config else s.commandFailed
  | .answer text => s.answerPrompt config text
  | .endOfInput => s.promptFailed
  | .now timestamp =>
      match s.phase with
      | .roundStart => some (s.beginRound config timestamp)
      | _ => none
  | .record files =>
      match s.recording, s.currentStaging with
      | true, some staging => some { s with
          dataset := { s.dataset with
            staging := Function.update s.dataset.staging staging (some files) } }
      | _, _ => none
  | .clientExits =>
      match s.phase with
      | .monitoring => some (s.stopRound ⟨"policy_client_exited", 30⟩)
      | _ => none
  | .monitorEnds terminationSource monitorCode =>
      match s.phase with
      | .monitoring => some (s.monitorEnded config terminationSource monitorCode)
      | _ => none
  | .finalizer run =>
      match s.phase with
      | .finalizing stop outcome => some (s.finalizeCurrent config stop outcome run)
      | _ => none
  | .delete run =>
      match s.phase with
      | .trap => some { s with
          dataset := s.deleteCurrentEpisode config run
          recording := false
          phase := .ended }
      | _ => none
  | .signal =>
      match s.phase with
      | .ended => none
      | .trap => some { s with recording := false, phase := .ended }
      | _ => some (s.goTo .trap)

/-! ## Inversion -/

/-- A phase that an interruption leaves for the trap without touching a finalizer. -/
def Interruptible (s : Session K) : Prop :=
  (∀ stop outcome, s.phase ≠ .finalizing stop outcome) ∧ s.phase ≠ .ended

variable {config : SessionConfig} {s t : Session K}

private theorem commandFailed_eq_some (h : s.commandFailed = some t) :
    t = s.goTo .trap ∧ s.Interruptible := by
  rw [commandFailed] at h
  split at h
  all_goals first
    | exact ⟨(Option.some.inj h).symm, by simp [Interruptible, *]⟩
    | cases h

private theorem promptFailed_eq_some (h : s.promptFailed = some t) :
    t = s.goTo .trap ∧ s.Interruptible := by
  rw [promptFailed] at h
  split at h
  all_goals first
    | exact ⟨(Option.some.inj h).symm, by simp [Interruptible, *]⟩
    | cases h

/-- The dataset changes in four ways: not at all, by a directory that is made or written, by
a finalizer, and by the deletion in the trap. -/
inductive DatasetStep [Zero K] [One K] (config : SessionConfig) (s t : Session K) : Prop where
  | same (dataset : t.dataset = s.dataset)
  | staged (episodes : t.dataset.episodes = s.dataset.episodes)
      (staging : ∀ name, (s.dataset.staging name).isSome = true →
        (t.dataset.staging name).isSome = true)
  | finalized (stop : RoundStop) (outcome : EpisodeOutcome) (run : FinalizerRun)
      (phase : s.phase = .finalizing stop outcome)
      (dataset : t.dataset = (s.finalized config stop outcome run).1)
  | deleted (run : DeletionRun) (phase : s.phase = .trap)
      (dataset : t.dataset = s.deleteCurrentEpisode config run)

private theorem count_dataset (config : SessionConfig) (s : Session K) (outcome : EpisodeOutcome) :
    (s.count config outcome).dataset = s.dataset := by
  rw [count]
  split
  · rfl
  · split <;> rfl

theorem finalizeCurrent_dataset [Zero K] [One K] (config : SessionConfig) (s : Session K)
    (stop : RoundStop) (outcome : EpisodeOutcome) (run : FinalizerRun) :
    (s.finalizeCurrent config stop outcome run).dataset =
      (s.finalized config stop outcome run).1 := by
  rw [finalizeCurrent]
  split
  · split
    · dsimp only
      rw [count_dataset]
    · rfl
    · rfl
  · rfl

/-- What an answer does: it enters a phase, stays, or labels the round. -/
inductive Answered (config : SessionConfig) (s : Session K) (answer : String) :
    Session K → Prop where
  | armed (phase : s.phase = .armPrompt) : Answered config s answer (s.goTo .preparing)
  | moved (phase : s.phase = .movePrompt) : Answered config s answer (s.goTo .enablePolicy)
  | watched (phase : s.phase = .monitoring) : Answered config s answer (s.goTo .monitoring)
  | stopped (phase : s.phase = .monitoring) : Answered config s answer (s.goTo .endingRound)
  | interrupted (interruptible : s.Interruptible) : Answered config s answer (s.goTo .trap)
  | repeated : Answered config s answer s
  | labelled (stop : RoundStop) (outcome : EpisodeOutcome) (phase : s.phase = .labelling stop)
      (label : labelOf answer = some outcome) : Answered config s answer
        { s with answered := some outcome, phase := .finalizing stop outcome }
  | chosen (mode : PolicyMode) (initialMode : PolicyMode) (quotas : PairedQuotas)
      (phase : s.phase = .nextPolicy) (plan : config.plan = .paired initialMode quotas)
      (room : s.savedUnder mode < quotas.target mode) :
        Answered config s answer (s.goTo (.stoppingPolicy mode))
  | finished (phase : s.phase = .nextPolicy ∨ s.phase = .readyPrompt ∨ s.phase = .resetPrompt) :
      Answered config s answer (s.goTo .complete)
  | ready (phase : s.phase = .readyPrompt) : Answered config s answer (s.goTo .roundStart)
  | reset (phase : s.phase = .resetPrompt) : Answered config s answer (s.goTo .resetting)

private theorem answerPrompt_eq_some {answer : String} (h : s.answerPrompt config answer = some t) :
    Answered config s answer t := by
  rw [answerPrompt] at h
  cases hphase : s.phase with
  | armPrompt =>
    rw [hphase] at h
    obtain rfl := Option.some.inj h
    split
    · exact .armed hphase
    · exact .interrupted (by simp [Interruptible, hphase])
  | movePrompt =>
    rw [hphase] at h
    obtain rfl := Option.some.inj h
    split
    · exact .moved hphase
    · exact .interrupted (by simp [Interruptible, hphase])
  | monitoring =>
    rw [hphase] at h
    obtain rfl := Option.some.inj h
    split_ifs
    · exact .stopped hphase
    · exact .interrupted (by simp [Interruptible, hphase])
    · exact .watched hphase
  | labelling stop =>
    rw [hphase] at h
    obtain rfl := Option.some.inj h
    cases hlabel : labelOf answer with
    | none => exact .repeated
    | some outcome => exact .labelled stop outcome hphase hlabel
  | nextPolicy =>
    rw [hphase] at h
    obtain rfl := Option.some.inj h
    split
    · rename_i mode initialMode quotas hmode hplan
      split
      · exact .repeated
      · exact .chosen mode initialMode quotas hphase hplan (Int64.not_le.mp ‹_›)
    · exact .finished (Or.inl hphase)
    · exact .repeated
  | readyPrompt =>
    rw [hphase] at h
    obtain rfl := Option.some.inj h
    split
    · exact .finished (Or.inr (Or.inl hphase))
    · exact .ready hphase
  | resetPrompt =>
    rw [hphase] at h
    obtain rfl := Option.some.inj h
    split
    · exact .finished (Or.inr (Or.inr hphase))
    · exact .reset hphase
  | _ =>
    rw [hphase] at h
    cases h

theorem Answered.dataset {answer : String} (h : Answered config s answer t) :
    t.dataset = s.dataset := by
  cases h <;> rfl

private theorem exists_monitorEnded (config : SessionConfig) (s : Session K)
    (terminationSource : String)
    (monitorCode : ℕ) :
    ∃ stop, s.monitorEnded config terminationSource monitorCode = s.stopRound stop := by
  rw [monitorEnded]
  split <;> exact ⟨_, rfl⟩

inductive Stepped [Zero K] [One K] (config : SessionConfig) (s : Session K) :
    Label K → Session K → Prop where
  | done (t : Session K) (command : s.commandDone config = some t) :
      Stepped config s (.command true) t
  | interrupted (label : Label K) (interruptible : s.Interruptible) :
      Stepped config s label (s.goTo .trap)
  | answered (text : String) (t : Session K) (answer : Answered config s text t) :
      Stepped config s (.answer text) t
  | begun (timestamp : Text) (phase : s.phase = .roundStart) :
      Stepped config s (.now timestamp) (s.beginRound config timestamp)
  | recorded (files : EpisodeFiles K) (staging : Text) (recording : s.recording = true)
      (current : s.currentStaging = some staging) : Stepped config s (.record files)
        { s with
          dataset := { s.dataset with
            staging := Function.update s.dataset.staging staging (some files) } }
  | stopped (label : Label K) (stop : RoundStop) (phase : s.phase = .monitoring) :
      Stepped config s label (s.stopRound stop)
  | finalized (stop : RoundStop) (outcome : EpisodeOutcome) (run : FinalizerRun)
      (phase : s.phase = .finalizing stop outcome) :
      Stepped config s (.finalizer run) (s.finalizeCurrent config stop outcome run)
  | deleted (run : DeletionRun) (phase : s.phase = .trap) : Stepped config s (.delete run)
      { s with
        dataset := s.deleteCurrentEpisode config run
        recording := false
        phase := .ended }
  | killed (phase : s.phase = .trap) : Stepped config s .signal
      { s with recording := false, phase := .ended }
  | signalled (ended : s.phase ≠ .ended) : Stepped config s .signal (s.goTo .trap)

theorem step_eq_some [Zero K] [One K] {label : Label K} (h : step config s label = some t) :
    Stepped config s label t := by
  cases label with
  | command succeeds =>
    cases succeeds with
    | true => exact .done t h
    | false =>
      obtain ⟨rfl, hs⟩ := commandFailed_eq_some h
      exact .interrupted _ hs
  | answer text => exact .answered text t (answerPrompt_eq_some h)
  | endOfInput =>
    obtain ⟨rfl, hs⟩ := promptFailed_eq_some h
    exact .interrupted _ hs
  | now timestamp =>
    rw [step] at h
    split at h
    · obtain rfl := Option.some.inj h
      exact .begun timestamp ‹_›
    · cases h
  | record files =>
    rw [step] at h
    split at h
    · obtain rfl := Option.some.inj h
      exact .recorded files _ ‹_› ‹_›
    · cases h
  | clientExits =>
    rw [step] at h
    split at h
    · obtain rfl := Option.some.inj h
      exact .stopped _ _ ‹_›
    · cases h
  | monitorEnds terminationSource monitorCode =>
    rw [step] at h
    split at h
    · obtain ⟨stop, hstop⟩ := exists_monitorEnded config s terminationSource monitorCode
      obtain rfl := hstop.symm.trans (Option.some.inj h)
      exact .stopped _ stop ‹_›
    · cases h
  | finalizer run =>
    rw [step] at h
    split at h
    · obtain rfl := Option.some.inj h
      exact .finalized _ _ run ‹_›
    · cases h
  | delete run =>
    rw [step] at h
    split at h
    · obtain rfl := Option.some.inj h
      exact .deleted run ‹_›
    · cases h
  | signal =>
    rw [step] at h
    split at h
    · cases h
    · obtain rfl := Option.some.inj h
      exact .killed ‹_›
    · obtain rfl := Option.some.inj h
      exact .signalled ‹_›

theorem isSome_update {staging name : Text} {d : Dataset K} (files : EpisodeFiles K)
    (h : (d.staging name).isSome = true) :
    (Function.update d.staging staging (some files) name).isSome = true := by
  by_cases hname : name = staging
  · rw [hname, Function.update_self, Option.isSome_some]
  · rwa [Function.update_of_ne hname]

private theorem commandDone_dataset (h : s.commandDone config = some t) :
    t.dataset = s.dataset ∨ ∃ staging, t.dataset = makeStaging staging s.dataset := by
  rw [commandDone] at h
  cases hphase : s.phase with
  | makeStaging =>
    rw [hphase] at h
    obtain ⟨staging, -, rfl⟩ := Option.map_eq_some_iff.mp h
    exact Or.inr ⟨staging, rfl⟩
  | labelled stop =>
    rw [hphase] at h
    obtain rfl := Option.some.inj h
    refine Or.inl ?_
    rw [afterLabel]
    split_ifs
    · rfl
    · cases config.plan <;> rfl
    · rfl
  | setup | preparing | recorderStart | enablePolicy | endingRound | stoppingPolicy
  | startingPolicy | resetting | complete =>
    rw [hphase] at h
    obtain rfl := Option.some.inj h
    exact Or.inl rfl
  | _ =>
    rw [hphase] at h
    cases h

theorem step_dataset [Zero K] [One K] {label : Label K} (h : step config s label = some t) :
    DatasetStep config s t := by
  cases step_eq_some h with
  | done t hcommand =>
    rcases commandDone_dataset hcommand with hsame | ⟨staging, hmade⟩
    · exact .same hsame
    · refine .staged (by rw [hmade]; rfl) fun name hname => ?_
      rw [hmade]
      exact isSome_update _ hname
  | answered text t hanswer => exact .same hanswer.dataset
  | begun timestamp hphase =>
    rw [beginRound]
    split <;> exact .same rfl
  | recorded files staging hrecording hcurrent =>
    exact .staged rfl fun name hname => isSome_update _ hname
  | finalized stop outcome run hphase =>
    exact .finalized stop outcome run hphase (finalizeCurrent_dataset _ _ _ _ _)
  | deleted run hphase => exact .deleted run hphase rfl
  | interrupted | stopped | killed | signalled => exact .same rfl

/-- Episodes are committed by the finalizer of the current episode only. -/
inductive CommitStep [Zero K] [One K] (config : SessionConfig) (s t : Session K) : Prop where
  | finalized (stop : RoundStop) (outcome : EpisodeOutcome) (run : FinalizerRun)
      (state : t = s.finalizeCurrent config stop outcome run)
  | kept (committed : t.committed = s.committed)
      (episodes : t.dataset.episodes = s.dataset.episodes)
  | deleted (run : DeletionRun) (committed : t.committed = s.committed)
      (dataset : t.dataset = s.deleteCurrentEpisode config run)

private theorem commandDone_commitStep [Zero K] [One K] (h : s.commandDone config = some t) :
    CommitStep config s t := by
  rw [commandDone] at h
  cases hphase : s.phase with
  | makeStaging =>
    rw [hphase] at h
    obtain ⟨staging, -, rfl⟩ := Option.map_eq_some_iff.mp h
    exact .kept rfl rfl
  | labelled stop =>
    rw [hphase] at h
    obtain rfl := Option.some.inj h
    rw [afterLabel]
    split_ifs
    · exact .kept rfl rfl
    · cases config.plan <;> exact .kept rfl rfl
    · exact .kept rfl rfl
  | setup | preparing | recorderStart | enablePolicy | endingRound | stoppingPolicy
  | startingPolicy | resetting | complete =>
    rw [hphase] at h
    obtain rfl := Option.some.inj h
    exact .kept rfl rfl
  | _ =>
    rw [hphase] at h
    cases h

theorem step_commitStep [Zero K] [One K] {label : Label K} (h : step config s label = some t) :
    CommitStep config s t := by
  cases step_eq_some h with
  | done t hcommand => exact commandDone_commitStep hcommand
  | answered text t hanswer => cases hanswer <;> exact .kept rfl rfl
  | begun timestamp hphase =>
    rw [beginRound]
    split <;> exact .kept rfl rfl
  | finalized stop outcome run hphase => exact .finalized stop outcome run rfl
  | deleted run hphase => exact .deleted run rfl rfl
  | interrupted | recorded | stopped | killed | signalled => exact .kept rfl rfl

end Session

end SmolVlaQgf.CollectionSession
