import SmolVlaQgf.EpisodeRecorder

/-!
# The captured files and their validation

A recorder that has closed leaves three row files, a summary and the videos in its
staging directory. `validate_capture` reads them back and refuses captures that could not
be used for training. A file whose text does not parse, or whose rows lack a key the
program reads, is unreadable.
-/

namespace SmolVlaQgf.CaptureValidation
open ExactFloats EpisodeRecorder CameraVideo

inductive JsonFile (α : Type) where
  | missing
  | unreadable
  | content (value : α)

inductive VideoFile where
  | chestMp4 | wristRightMp4 | chestMjpeg | wristRightMjpeg
  deriving DecidableEq

/-- `VideoFile.name` is the name under which `validate_capture` looks for the file. -/
def VideoFile.name : VideoFile → String
  | .chestMp4 => "chest.mp4"
  | .wristRightMp4 => "wrist_right.mp4"
  | .chestMjpeg => "chest.mjpeg"
  | .wristRightMjpeg => "wrist_right.mjpeg"

/-- The frame counts of `VideoSink.summary`. -/
structure VideoSummary where
  framesReceived : ℕ
  framesEncoded : ℕ
  framesDropped : ℕ
  firstTimestampNs : ℤ
  lastTimestampNs : ℤ

/-- `capture_summary.json`; the last two entries are added by the validation. -/
structure CaptureSummary where
  sampleCount : ℕ
  normalizedPolicyChunkCount : ℕ
  policyObservationCount : ℕ
  callbackCounts : Topic → ℕ
  actionGateWasEnabled : Bool
  chest : VideoSummary
  wristRight : VideoSummary
  normalizedPolicyChunks : Option ℕ
  policyObservations : Option ℕ

/-- The files of a capture; `videos` are the video files that exist and are not empty. -/
structure CaptureFiles (K : Type) where
  samples : JsonFile (List (SampleRow K))
  chunks : JsonFile (List (ChunkRow K))
  policyObservations : JsonFile (List (PolicyObservationRow K))
  summary : JsonFile CaptureSummary
  videos : VideoFile → Bool

variable {K Img : Type}

/-! ## What the recorder leaves -/

def videoSummary (s : VideoSink Img) : VideoSummary where
  framesReceived := s.receivedFrameCount
  framesEncoded := s.frameCount
  framesDropped := s.droppedFrameCount
  firstTimestampNs := s.firstTimestampNs
  lastTimestampNs := s.lastTimestampNs

/-- The summary `QgfEpisodeRecorder.close` writes. -/
def captureSummary (s : QgfEpisodeRecorder K Img) : CaptureSummary where
  sampleCount := s.samples.length
  normalizedPolicyChunkCount := s.chunks.length
  policyObservationCount := s.policyObservations.length
  callbackCounts := s.callbackCounts
  actionGateWasEnabled := s.everEnabled
  chest := videoSummary s.chest
  wristRight := videoSummary s.wrist
  normalizedPolicyChunks := none
  policyObservations := none

/-- The staging directory of a recorder; the summary is written after both videos closed. -/
def capturedFiles (s : QgfEpisodeRecorder K Img) : CaptureFiles K where
  samples := .content s.samples
  chunks := .content s.chunks
  policyObservations := .content s.policyObservations
  summary := if s.closed then .content (captureSummary s) else .missing
  videos := fun
    | .chestMp4 => !s.chest.video.isEmpty
    | .wristRightMp4 => !s.wrist.video.isEmpty
    | .chestMjpeg => !s.chest.archive.isEmpty
    | .wristRightMjpeg => !s.wrist.archive.isEmpty

/-! ## Validation -/

inductive CaptureError where
  | fileNotFound (message : String)
  | unreadable
  | gateNeverEnabled
  | tooFewSamples (samples : ℕ) (callbackCounts : Topic → ℕ)
  | noChunk
  | noPolicyObservation
  | noJoinableChunk
  | missingVideo (video : VideoFile)

/-- The text of the exception; the counts of a short capture are printed after its text. -/
def CaptureError.message : CaptureError → String
  | .fileNotFound message => message
  | .unreadable => "invalid JSONL"
  | .gateNeverEnabled => "SmolVLA action gate was never enabled"
  | .tooFewSamples samples _ =>
      "only " ++ toString samples ++ " synchronized samples were captured; topic callback counts="
  | .noChunk => "no normalized SmolVLA action chunk was captured"
  | .noPolicyObservation => "no policy observation was captured"
  | .noJoinableChunk =>
      "no normalized action chunk can be joined to a two-camera policy observation"
  | .missingVideo video => "missing or empty video: " ++ video.name

/-- `path.is_file()` before the file is read. -/
def JsonFile.isFile {α : Type} : JsonFile α → Bool
  | .missing => false
  | _ => true

/-- `json.loads` of a file, or `read_jsonl`. -/
def JsonFile.read {α : Type} : JsonFile α → Except CaptureError α
  | .content value => .ok value
  | .missing => .error (.fileNotFound "No such file or directory")
  | .unreadable => .error .unreadable

def usable (frames : FrameReference) : Bool :=
  decide (0 ≤ frames.chestFrameIndex) && decide (0 ≤ frames.wristFrameIndex)

/-- Some chunk has the timestep of an observation that shows both cameras. -/
def joinable (chunks : List (ChunkRow K)) (observations : List (PolicyObservationRow K)) : Bool :=
  chunks.any fun chunk => observations.any fun observation =>
    usable observation.frames &&
      decide (observation.observationTimestep = chunk.observationTimestep)

def requireFile {α : Type} (file : JsonFile α) (message : String) : Except CaptureError α :=
  if file.isFile then file.read else .error (.fileNotFound message)

/-- The videos in the order in which they are looked for. -/
def videoFiles : List VideoFile := [.chestMp4, .wristRightMp4, .chestMjpeg, .wristRightMjpeg]

/-- The first check of the contents that fails. -/
def refusal (summary : CaptureSummary) (samples : List (SampleRow K)) (chunks : List (ChunkRow K))
    (observations : List (PolicyObservationRow K)) (videos : VideoFile → Bool) :
    Option CaptureError :=
  if !summary.actionGateWasEnabled then some .gateNeverEnabled
  else if samples.length < 2 then some (.tooFewSamples samples.length summary.callbackCounts)
  else if chunks.isEmpty then some .noChunk
  else if observations.isEmpty then some .noPolicyObservation
  else if !joinable chunks observations then some .noJoinableChunk
  else (videoFiles.find? (!videos ·)).map .missingVideo

def readSamples (files : CaptureFiles K) :
    Except CaptureError (CaptureSummary × List (SampleRow K)) :=
  if files.samples.isFile && files.summary.isFile then do
    let summary ← files.summary.read
    let samples ← files.samples.read
    return (summary, samples)
  else .error (.fileNotFound "capture did not produce samples.jsonl and capture_summary.json")

/-- `validate_capture`: the samples and the completed summary. -/
def validateCapture (files : CaptureFiles K) :
    Except CaptureError (List (SampleRow K) × CaptureSummary) := do
  let (summary, samples) ← readSamples files
  let chunks ← requireFile files.chunks "capture did not produce normalized_policy_chunks.jsonl"
  let observations ← requireFile files.policyObservations
    "capture did not produce policy_observations.jsonl"
  match refusal summary samples chunks observations files.videos with
  | some error => .error error
  | none => .ok (samples, { summary with
      normalizedPolicyChunks := some chunks.length
      policyObservations := some observations.length })

private theorem refusal_eq_none_iff {summary : CaptureSummary} {samples : List (SampleRow K)}
    {chunks : List (ChunkRow K)} {observations : List (PolicyObservationRow K)}
    {videos : VideoFile → Bool} : refusal summary samples chunks observations videos = none ↔
      summary.actionGateWasEnabled = true ∧ 2 ≤ samples.length ∧ chunks ≠ [] ∧
        observations ≠ [] ∧ joinable chunks observations = true ∧
        ∀ video ∈ videoFiles, videos video = true := by
  rw [refusal, Nat.succ_le_iff]
  split_ifs <;> simp_all

theorem isFile_samples_of_validateCapture {files : CaptureFiles K}
    (h : (validateCapture files).isOk = true) : files.samples.isFile = true := by
  by_contra hmissing
  rw [Bool.not_eq_true] at hmissing
  simp [validateCapture, readSamples, hmissing, bind, Except.bind, Except.isOk,
    Except.toBool] at h

/-- An accepted capture has enough samples for a transition. -/
theorem two_le_of_validateCapture {files : CaptureFiles K} {samples : List (SampleRow K)}
    {capture : CaptureSummary} (h : validateCapture files = .ok (samples, capture)) :
    2 ≤ samples.length := by
  rw [validateCapture] at h
  obtain ⟨⟨summary, rows⟩, -, h⟩ := bind_eq_ok_iff.mp h
  obtain ⟨chunks, -, h⟩ := bind_eq_ok_iff.mp h
  obtain ⟨observations, -, h⟩ := bind_eq_ok_iff.mp h
  split at h
  · cases h
  · rename_i hrefusal
    obtain ⟨rfl, -⟩ := Prod.mk.inj (Except.ok.inj h)
    exact (refusal_eq_none_iff.mp hrefusal).2.1

end SmolVlaQgf.CaptureValidation
