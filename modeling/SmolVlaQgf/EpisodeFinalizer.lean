import SmolVlaQgf.EpisodeDataset

/-!
# The finalizer

`finalize` as a sequence of stages over the dataset: validation and tables outside the
lock, index, metadata, rename, manifest and summary inside it. Every file operation may
raise; a parameter says which ones do. Clock readings are arguments.
-/

namespace SmolVlaQgf.EpisodeFinalizer
open FieldText EpisodeRecorder CaptureValidation TransitionTable EpisodeDataset

/-- The operations that may raise, in the order in which a call meets them. -/
inductive FileOp where
  | readCapture
  | writeTransitions
  | readNormalizedPolicyChunks
  | writeNormalizedPolicyChunks
  | readPolicyObservations
  | writePolicyObservations
  | makeDirectories
  | openLock
  | lock
  | listIndices
  | writeMetadata
  | replaceStaging
  | listEpisodes
  | readMetadata (name : Text)
  | writeManifest
  | replaceManifest
  | writeSummary
  | replaceSummary
  | unlock
  | removeStaging
  deriving DecidableEq

/-- The arguments of a call; `staging` is the name of the directory under `.staging`, if it
lies there. -/
structure FinalizeArgs where
  staging : Option Text
  outcome : EpisodeOutcome
  task : String
  notes : String
  terminationSource : String
  finalizedAtUtc : String
  updatedAtUtc : String

inductive FinalizeError where
  | outsideStaging
  | capture (error : CaptureError)
  | tooFewSamples
  | os (op : FileOp)
  | destinationExists
  | unreadableMetadata (name : Text)
  | badTransitionCount

/-- The counts and the summary the metadata needs from the tables. -/
structure Tabulated where
  numSamples : ℕ
  numTransitions : ℕ
  capture : CaptureSummary

/-- How far a call has come; `waiting` is before the lock and `locked` behind it. -/
inductive Stage (K : Type) where
  | started
  | validated (samples : List (SampleRow K)) (capture : CaptureSummary)
  | waiting (tables : Tabulated)
  | locked (tables : Tabulated)
  | allocated (index : ℕ)
  | renamed (index : ℕ)
  | indexed (index : ℕ) (rows : List ManifestRow)
  | summarized (index : ℕ)
  | returned (destination : Option Text)
  | raised (error : FinalizeError)

variable {K : Type}

def episodeMetadata (args : FinalizeArgs) (tables : Tabulated) (index : ℕ) : EpisodeMetadata where
  row := {
    episodeIndex := index
    episodeName := episodeName index
    task := args.task
    outcome := args.outcome.name
    success := decide (args.outcome = .success)
    numTransitions := some tables.numTransitions
    finalizedAtUtc := args.finalizedAtUtc }
  numSamples := tables.numSamples
  notes := args.notes
  terminationSource := args.terminationSource
  capture := tables.capture

def attempt (faults : FileOp → Bool) (op : FileOp) (d : Dataset K)
    (next : Dataset K × Stage K) : Dataset K × Stage K :=
  if faults op then (d, .raised (.os op)) else next

/-- What holds where the operation raises and where the call goes on. -/
theorem attempt_rule {P : Dataset K × Stage K → Prop} {faults : FileOp → Bool} {op : FileOp}
    {d : Dataset K} {next : Dataset K × Stage K} (hraised : P (d, .raised (.os op)))
    (hnext : P next) : P (attempt faults op d next) := by
  rw [attempt]
  split
  · exact hraised
  · exact hnext

section Stages

variable (faults : FileOp → Bool) (args : FinalizeArgs) (d : Dataset K)

/-- The directory check, the discard, and `validate_capture`. -/
def validate : Dataset K × Stage K :=
  match args.staging with
  | none => (d, .raised .outsideStaging)
  | some staging =>
      if args.outcome = .discard then
        (if faults .removeStaging then d
          else { d with staging := Function.update d.staging staging none }, .returned none)
      else
        attempt faults .readCapture d <|
          match d.staging staging with
          | none => (d, .raised (.capture (.fileNotFound
              "capture did not produce samples.jsonl and capture_summary.json")))
          | some files =>
              match validateCapture files.capture with
              | .error error => (d, .raised (.capture error))
              | .ok (samples, capture) => (d, .validated samples capture)

/-- The rows of a file that is read again after the validation. -/
def rereadRows {α : Type} : JsonFile (List α) → List α
  | .content rows => rows
  | _ => []

def tabulate [Zero K] [One K] (staging : Text) (samples : List (SampleRow K))
    (capture : CaptureSummary) : Dataset K × Stage K :=
  match buildTransitions samples (decide (args.outcome = .success)) args.task with
  | none => (d, .raised .tooFewSamples)
  | some transitions =>
      attempt faults .writeTransitions d <|
        let d := writeStaging staging (fun files => { files with
          transitions := some transitions }) d
        attempt faults .readNormalizedPolicyChunks d <|
          attempt faults .writeNormalizedPolicyChunks d <|
            let d := writeStaging staging (fun files => { files with
              normalizedPolicyChunks := some (rereadRows files.capture.chunks) }) d
            attempt faults .readPolicyObservations d <|
              attempt faults .writePolicyObservations d <|
                let d := writeStaging staging (fun files => { files with
                  policyObservations := some (rereadRows files.capture.policyObservations) }) d
                attempt faults .makeDirectories d <|
                  attempt faults .openLock d
                    (d, .waiting ⟨samples.length, transitions.length, capture⟩)

def allocate (staging : Text) (tables : Tabulated) : Dataset K × Stage K :=
  attempt faults .listIndices d <|
    let index := nextMonotonicIndex d.episodes
    attempt faults .writeMetadata d
      (writeStaging staging (fun files => { files with
        metadata := .content (episodeMetadata args tables index) }) d, .allocated index)

def rename (staging : Text) (index : ℕ) : Dataset K × Stage K :=
  attempt faults .replaceStaging d <|
    match replaceStaging staging (episodeName index) d with
    | none => (d, .raised .destinationExists)
    | some d => (d, .renamed index)

/-- The manifest, written beside the old one and renamed over it. -/
def rebuildManifest (index : ℕ) : Dataset K × Stage K :=
  attempt faults .listEpisodes d <|
    match manifestRows (fun name => faults (.readMetadata name)) (sortedEpisodes d.episodes) with
    | .error name => (d, .raised (.unreadableMetadata name))
    | .ok rows =>
        attempt faults .writeManifest d <|
          let d := { d with manifestTmp := some rows }
          attempt faults .replaceManifest d
            ({ d with manifest := some rows, manifestTmp := none }, .indexed index rows)

def rebuildSummary (index : ℕ) (rows : List ManifestRow) : Dataset K × Stage K :=
  match totalTransitions rows with
  | none => (d, .raised .badTransitionCount)
  | some transitions =>
      let summary := datasetSummary rows transitions args.updatedAtUtc
      attempt faults .writeSummary d <|
        let d := { d with summaryTmp := some summary }
        attempt faults .replaceSummary d
          ({ d with summary := some summary, summaryTmp := none }, .summarized index)

/-- One stage of a call; a call that has returned or raised stays there. -/
def advance [Zero K] [One K] : Stage K → Dataset K × Stage K
  | .started => validate faults args d
  | .validated samples capture => tabulate faults args d (args.staging.getD []) samples capture
  | .waiting tables => attempt faults .lock d (d, .locked tables)
  | .locked tables => allocate faults args d (args.staging.getD []) tables
  | .allocated index => rename faults d (args.staging.getD []) index
  | .renamed index => rebuildManifest faults d index
  | .indexed index rows => rebuildSummary faults args d index rows
  | .summarized index => attempt faults .unlock d (d, .returned (some (episodeName index)))
  | .returned destination => (d, .returned destination)
  | .raised error => (d, .raised error)

end Stages

/-- `finalize` of one caller: eight stages from the start. -/
def finalize [Zero K] [One K] (faults : FileOp → Bool) (args : FinalizeArgs) (d : Dataset K) :
    Dataset K × Stage K :=
  (fun call => advance faults args call.1 call.2)^[8] (d, .started)

end SmolVlaQgf.EpisodeFinalizer
