import SmolVlaQgf.CaptureValidation
import SmolVlaQgf.VideoFifo

/-!
# Recorded frame indices and the frames of the video

A row refers to a camera frame by the number `enqueue` gave to its message; the reader of
the video counts decoded frames. The two agree for a recorded number exactly when no
message up to it met a full queue, and neither the close nor the validation of the
capture notices a frame that did.
-/

namespace SmolVlaQgf.RecordedFrameIndices
open TransitionRuns ArmstrongAdapter CameraVideo VideoFifo EpisodeRecorder QgfEpisodeRecorder
  CaptureValidation

variable {K Img : Type}

def sink (s : QgfEpisodeRecorder K Img) : Camera → VideoSink Img
  | .chest => s.chest
  | .wrist => s.wrist

def frameIndex (frames : FrameReference) : Camera → ℤ
  | .chest => frames.chestFrameIndex
  | .wrist => frames.wristFrameIndex

/-- The numbers written for a camera; `-1` stands for no frame and is no number. -/
def Recorded (s : QgfEpisodeRecorder K Img) (camera : Camera) (i : ℕ) : Prop :=
  (∃ row ∈ s.samples, frameIndex row.frames camera = i) ∨
    ∃ row ∈ s.policyObservations, frameIndex row.frames camera = i

/-- The frame at a position of the MP4 is the message `enqueue` gave that number. -/
def Addresses (video : VideoSink Img) (i : ℕ) : Prop :=
  ∃ frame, video.video[i]? = some frame ∧ video.received[i]? = some frame.source

def FrameIndicesAddress (s : QgfEpisodeRecorder K Img) : Prop :=
  ∀ camera i, Recorded s camera i → Addresses (sink s camera) i

/-- No message up to a recorded number has met a full queue. -/
def NoEarlierRejection (s : QgfEpisodeRecorder K Img) : Prop :=
  ∀ camera i, Recorded s camera i → ∀ j ≤ i, j ∉ (sink s camera).rejected

/-! ## The invariant of the recorder -/

/-- The numbers in a row have been given out, or are `-1`. -/
structure Issued (s : QgfEpisodeRecorder K Img) (frames : FrameReference) : Prop where
  bound : ∀ camera, frameIndex frames camera < (sink s camera).receivedFrameCount

structure Consistent (s : QgfEpisodeRecorder K Img) : Prop where
  fifo : ∀ camera, Fifo (sink s camera)
  samples : ∀ row ∈ s.samples, Issued s row.frames
  policyObservations : ∀ row ∈ s.policyObservations, Issued s row.frames

theorem Consistent.issued_latestFrames {s : QgfEpisodeRecorder K Img} (h : Consistent s) :
    Issued s s.latestFrames where
  bound := fun camera => by
    have hlatest := (h.fifo camera).numbered.latest
    cases camera with
    | chest =>
      simp only [sink, frameIndex, latestFrames] at hlatest ⊢
      omega
    | wrist =>
      simp only [sink, frameIndex, latestFrames] at hlatest ⊢
      omega

private theorem consistent_new (gripperOpenPosition gripperClosedPosition : K)
    (chestQueueSize wristQueueSize : ℤ) :
    Consistent (.new gripperOpenPosition gripperClosedPosition chestQueueSize wristQueueSize :
      QgfEpisodeRecorder K Img) where
  fifo := fun camera => by cases camera <;> exact fifo_new _
  samples := fun _ hrow => absurd hrow List.not_mem_nil
  policyObservations := fun _ hrow => absurd hrow List.not_mem_nil

/-- A step that leaves the rows alone and gives no number back. -/
structure KeepsRows (s t : QgfEpisodeRecorder K Img) : Prop where
  fifo : ∀ camera, Fifo (sink s camera) → Fifo (sink t camera)
  count : ∀ camera, (sink s camera).receivedFrameCount ≤ (sink t camera).receivedFrameCount
  samples : t.samples = s.samples
  policyObservations : t.policyObservations = s.policyObservations

theorem KeepsRows.issued {s t : QgfEpisodeRecorder K Img} (h : KeepsRows s t)
    {frames : FrameReference} (hframes : Issued s frames) : Issued t frames where
  bound := fun camera => by
    have hbound := hframes.bound camera
    have hcount := h.count camera
    omega

theorem Consistent.of_keepsRows {s t : QgfEpisodeRecorder K Img} (h : Consistent s)
    (hkeeps : KeepsRows s t) : Consistent t where
  fifo := fun camera => hkeeps.fifo camera (h.fifo camera)
  samples := fun row hrow => hkeeps.issued (h.samples row (hkeeps.samples ▸ hrow))
  policyObservations := fun row hrow =>
    hkeeps.issued (h.policyObservations row (hkeeps.policyObservations ▸ hrow))

theorem keepsRows_of_same {s t : QgfEpisodeRecorder K Img}
    (hsink : ∀ camera, sink t camera = sink s camera) (hsamples : t.samples = s.samples)
    (hobservations : t.policyObservations = s.policyObservations) : KeepsRows s t where
  fifo := fun camera h => by rwa [hsink camera]
  count := fun camera => (congrArg VideoSink.receivedFrameCount (hsink camera)).ge
  samples := hsamples
  policyObservations := hobservations

theorem keepsRows_chest {s : QgfEpisodeRecorder K Img} {chest : VideoSink Img}
    (hstep : Fifo s.chest → Fifo chest)
    (hcount : s.chest.receivedFrameCount ≤ chest.receivedFrameCount) :
    KeepsRows s { s with chest } where
  fifo := fun camera hfifo => by
    cases camera with
    | chest => exact hstep hfifo
    | wrist => exact hfifo
  count := fun camera => by
    cases camera with
    | chest => exact hcount
    | wrist => exact le_rfl
  samples := rfl
  policyObservations := rfl

theorem keepsRows_wrist {s : QgfEpisodeRecorder K Img} {wrist : VideoSink Img}
    (hstep : Fifo s.wrist → Fifo wrist)
    (hcount : s.wrist.receivedFrameCount ≤ wrist.receivedFrameCount) :
    KeepsRows s { s with wrist } where
  fifo := fun camera hfifo => by
    cases camera with
    | chest => exact hfifo
    | wrist => exact hstep hfifo
  count := fun camera => by
    cases camera with
    | chest => exact le_rfl
    | wrist => exact hcount
  samples := rfl
  policyObservations := rfl

theorem Consistent.addSample {s : QgfEpisodeRecorder K Img} (h : Consistent s)
    {row : SampleRow K} (hrow : row.frames = s.latestFrames) :
    Consistent { s with samples := s.samples ++ [row] } where
  fifo := h.fifo
  samples := fun other hother => by
    rcases List.mem_append.mp hother with hother | hother
    · exact ⟨(h.samples other hother).bound⟩
    · obtain rfl := List.mem_singleton.mp hother
      rw [hrow]
      exact ⟨h.issued_latestFrames.bound⟩
  policyObservations := fun other hother => ⟨(h.policyObservations other hother).bound⟩

theorem Consistent.addPolicyObservation {s : QgfEpisodeRecorder K Img} (h : Consistent s)
    {row : PolicyObservationRow K} (hrow : row.frames = s.latestFrames) :
    Consistent { s with policyObservations := s.policyObservations ++ [row] } where
  fifo := h.fifo
  samples := fun other hother => ⟨(h.samples other hother).bound⟩
  policyObservations := fun other hother => by
    rcases List.mem_append.mp hother with hother | hother
    · exact ⟨(h.policyObservations other hother).bound⟩
    · obtain rfl := List.mem_singleton.mp hother
      rw [hrow]
      exact ⟨h.issued_latestFrames.bound⟩

section Steps

variable [Field K] [LinearOrder K] {codec : Codec Img} {s t : QgfEpisodeRecorder K Img}

omit [Field K] [LinearOrder K] in
private theorem consistent_count (h : Consistent s) (topic : Topic) : Consistent (s.count topic) :=
  h.of_keepsRows (keepsRows_of_same (fun camera => by cases camera <;> rfl) rfl rfl)

omit [Field K] [LinearOrder K] in
private theorem consistent_sample (h : Consistent s) (now : ℤ) : Consistent (s.sample now) := by
  rw [sample]
  split
  · split
    · exact h.addSample rfl
    · exact h
  · exact h

/-- A callback either leaves videos and rows alone, numbers a frame, or adds a row. -/
theorem consistent_callback (h : Consistent s) (callback : Callback K) (now : ℤ) :
    Consistent (callback.perform now s) := by
  have hsame : ∀ {u v : QgfEpisodeRecorder K Img}, Consistent u → v.chest = u.chest →
      v.wrist = u.wrist → v.samples = u.samples → v.policyObservations = u.policyObservations →
      Consistent v := fun hu hchest hwrist hsamples hobservations =>
    hu.of_keepsRows (keepsRows_of_same (fun camera => by cases camera <;> assumption) hsamples
      hobservations)
  cases callback with
  | sampleTimer => exact consistent_sample h now
  | policyObservation message =>
    have hcount := consistent_count h .policyObservation
    simp only [Callback.perform, policyObservationCallback]
    split
    · exact hcount.addPolicyObservation rfl
    · exact hcount
  | chest message =>
    have hcount := consistent_count h .chest
    simp only [Callback.perform, chestCallback]
    split
    · exact hcount.of_keepsRows (keepsRows_chest (fun hfifo => hfifo.enqueue message now)
        (receivedFrameCount_le_enqueue message now _))
    · exact hcount
  | wrist message =>
    have hcount := consistent_count h .wrist
    simp only [Callback.perform, wristCallback]
    split
    · exact hcount.of_keepsRows (keepsRows_wrist (fun hfifo => hfifo.enqueue message now)
        (receivedFrameCount_le_enqueue message now _))
    · exact hcount
  | jointState message =>
    have hcount := consistent_count h .jointState
    simp only [Callback.perform, stateCallback]
    split <;> exact hsame hcount rfl rfl rfl rfl
  | executedJoint message =>
    have hcount := consistent_count h .executedJoint
    simp only [Callback.perform, executedJointCallback]
    split <;> exact hsame hcount rfl rfl rfl rfl
  | rawAction message =>
    have hcount := consistent_count h .rawAction
    simp only [Callback.perform, rawActionCallback]
    split <;> exact hsame hcount rfl rfl rfl rfl
  | guardedAction message =>
    have hcount := consistent_count h .guardedAction
    simp only [Callback.perform, guardedActionCallback]
    split <;> exact hsame hcount rfl rfl rfl rfl
  | gripperState message =>
    have hcount := consistent_count h .gripperState
    simp only [Callback.perform, gripperStateCallback]
    split <;> exact hsame hcount rfl rfl rfl rfl
  | executedGripper data => exact hsame (consistent_count h .executedGripper) rfl rfl rfl rfl
  | gripperContact data => exact hsame (consistent_count h .gripperContact) rfl rfl rfl rfl
  | smolvlaStatus data => exact hsame (consistent_count h .smolvlaStatus) rfl rfl rfl rfl
  | normalizedChunk message =>
    have hcount := consistent_count h .normalizedChunk
    simp only [Callback.perform, normalizedChunkCallback]
    split
    · exact hcount
    · split
      · exact hcount
      · split <;> exact hsame hcount rfl rfl rfl rfl

omit [Field K] [LinearOrder K] in
private theorem keepsRows_closeStep (h : s.closeStep = some t) : KeepsRows s t := by
  rw [closeStep] at h
  split at h
  · obtain ⟨wrist, hwrist, rfl⟩ := Option.map_eq_some_iff.mp h
    exact keepsRows_wrist (fun hfifo => hfifo.close hwrist)
      (receivedFrameCount_le_closeStep hwrist)
  · obtain ⟨chest, hchest, rfl⟩ := Option.map_eq_some_iff.mp h
    exact keepsRows_chest (fun hfifo => hfifo.close hchest)
      (receivedFrameCount_le_closeStep hchest)

omit [Field K] [LinearOrder K] in
private theorem keepsRows_workerStep {label : Label} {camera : Camera}
    (h : workerStep codec label s camera = some t) : KeepsRows s t := by
  cases camera with
  | chest =>
    obtain ⟨chest, hchest, rfl⟩ := Option.map_eq_some_iff.mp h
    exact keepsRows_chest (fun hfifo => hfifo.step hchest) (receivedFrameCount_le_of_next hchest)
  | wrist =>
    obtain ⟨wrist, hwrist, rfl⟩ := Option.map_eq_some_iff.mp h
    exact keepsRows_wrist (fun hfifo => hfifo.step hwrist) (receivedFrameCount_le_of_next hwrist)

theorem Consistent.step {label : RecorderLabel K} (h : Consistent s)
    (hstep : EpisodeRecorder.step codec s label = some t) : Consistent t := by
  cases label with
  | callback callback now =>
    simp only [EpisodeRecorder.step, Option.ite_none_right_eq_some, Option.some.injEq] at hstep
    obtain ⟨-, rfl⟩ := hstep
    exact consistent_callback h callback now
  | take camera => exact h.of_keepsRows (keepsRows_workerStep hstep)
  | write camera fault => exact h.of_keepsRows (keepsRows_workerStep hstep)
  | close => exact h.of_keepsRows (keepsRows_closeStep hstep)

private theorem consistent_of_run {gripperOpenPosition gripperClosedPosition : K}
    {chestQueueSize wristQueueSize : ℤ} {labels : List (RecorderLabel K)}
    (h : Run (Steps (EpisodeRecorder.step codec))
      (.new gripperOpenPosition gripperClosedPosition chestQueueSize wristQueueSize) labels s) :
    Consistent s :=
  h.invariant (fun _ _ _ hstep hs => hs.step hstep) (consistent_new _ _ _ _)

/-! ## The two numberings -/

omit [Field K] [LinearOrder K] in
theorem Consistent.recorded_lt (h : Consistent s) {camera : Camera} {i : ℕ}
    (hi : Recorded s camera i) : i < (sink s camera).receivedFrameCount := by
  rcases hi with ⟨row, hrow, hindex⟩ | ⟨row, hrow, hindex⟩
  · have hbound := (h.samples row hrow).bound camera
    omega
  · have hbound := (h.policyObservations row hrow).bound camera
    omega

private theorem addresses_iff {video : VideoSink Img} (h : Fifo video)
    (hclosed : video.closeStage = .returned none) {i : ℕ} (hi : i < video.receivedFrameCount) :
    Addresses video i ↔ ∀ j ≤ i, j ∉ video.rejected := by
  have hlength := h.numbered.length_received
  obtain ⟨item, hitem⟩ : ∃ item, video.received[i]? = some item :=
    ⟨_, List.getElem?_eq_getElem (by omega)⟩
  rw [← h.getElem?_video_iff hclosed hi, Addresses, hitem]
  constructor
  · rintro ⟨frame, hframe, hsource⟩
    rw [hframe, hsource]
    rfl
  · intro hsource
    obtain ⟨frame, hframe, rfl⟩ := Option.map_eq_some_iff.mp hsource
    exact ⟨frame, hframe, rfl⟩

/-- When both videos have closed without an error, the recorded frame numbers address their
frames exactly when no message up to a recorded number has met a full queue. -/
theorem frame_indices_address_iff {gripperOpenPosition gripperClosedPosition : K}
    {chestQueueSize wristQueueSize : ℤ} {labels : List (RecorderLabel K)}
    (h : Run (Steps (EpisodeRecorder.step codec))
      (.new gripperOpenPosition gripperClosedPosition chestQueueSize wristQueueSize) labels s)
    (hclosed : s.closed = true) : FrameIndicesAddress s ↔ NoEarlierRejection s := by
  have hs := consistent_of_run h
  obtain ⟨hchest, hwrist⟩ : s.chest.closeStage = .returned none ∧
      s.wrist.closeStage = .returned none := by simpa [closed] using hclosed
  have hstage : ∀ camera, (sink s camera).closeStage = .returned none := fun camera => by
    cases camera with
    | chest => exact hchest
    | wrist => exact hwrist
  refine forall_congr' fun camera => forall_congr' fun i => imp_congr_right fun hi => ?_
  exact addresses_iff (hs.fifo camera) (hstage camera) (hs.recorded_lt hi)

end Steps

/-! ## Concrete recordings -/

def unitCodec : Codec Unit where
  imdecode := fun _ => some ()
  size := fun _ => (1, 1)
  resize := fun _ image => image

def zeroMessage (names : List String) : JointState ℚ where
  name := names
  position := names.map fun _ => .finite 0
  frameId := some 0
  sec := 1
  nanosec := 0

def imageAt (sec : ℤ) : CompressedImage := ⟨sec, 0, [0]⟩

def receive (callback : Callback ℚ) : RecorderLabel ℚ := .callback callback 1

/-- The messages a row needs; the raw action also starts the capture. -/
def policyMessages : List (RecorderLabel ℚ) := [
  receive (.rawAction (zeroMessage actionNames)),
  receive (.guardedAction (zeroMessage actionNames)),
  receive (.jointState (zeroMessage armNames)),
  receive (.executedJoint (zeroMessage armNames)),
  receive (.gripperState (zeroMessage [gripperName])),
  receive (.normalizedChunk ⟨actionNames, [actionNames.map fun _ => .finite 0], some 0, 1, 0⟩)]

/-- The worker takes and writes one frame. -/
def encodeNext (camera : Camera) : List (RecorderLabel ℚ) := [.take camera, .write camera none]

/-- One wrist image and three chest images before the rows, the first two chest images in
one burst, and a fourth chest image after the rows. -/
def cameraMessages : List (RecorderLabel ℚ) :=
  [receive (.wrist (imageAt 2)), receive (.chest (imageAt 2)), receive (.chest (imageAt 3))] ++
    encodeNext .chest ++ [receive (.chest (imageAt 4)), receive .sampleTimer,
    receive (.policyObservation (zeroMessage actionNames)), receive .sampleTimer] ++
    encodeNext .chest ++ [receive (.chest (imageAt 5))] ++ encodeNext .chest ++ encodeNext .wrist

/-- Both videos close; each worker stops at its sentinel. -/
def closing : List (RecorderLabel ℚ) :=
  [.close, .close, .take .chest, .close, .close, .close, .take .wrist, .close]

/-- A queue that holds the burst: every number is a position. -/
theorem recording_with_room :
    ∃ s, execute (EpisodeRecorder.step unitCodec) (.new 0 1 2 2)
        (policyMessages ++ cameraMessages ++ encodeNext .chest ++ closing) = some s ∧
      (FrameIndicesAddress s ↔ NoEarlierRejection s) := by
  have hsome : ((execute (EpisodeRecorder.step unitCodec) (.new 0 1 2 2)
      (policyMessages ++ cameraMessages ++ encodeNext .chest ++ closing)).any fun s => s.closed) =
      true := by decide +kernel
  obtain ⟨s, hs, hclosed⟩ := (Option.any_eq_true _ _).mp hsome
  exact ⟨s, hs, frame_indices_address_iff (run_of_execute hs) hclosed⟩

/-- A row refers to chest image 2, and the video shows image 3 at that position. -/
def shifted (s : QgfEpisodeRecorder ℚ Unit) : Bool :=
  s.samples.any (fun row => decide (row.frames.chestFrameIndex = 2)) &&
    decide (s.chest.video[2]?.map (fun frame => frame.source.frameIndex) = some 3) &&
    decide (s.chest.received[2]?.map (fun frame => frame.frameIndex) = some 2)

private theorem not_frameIndicesAddress_of_shifted {s : QgfEpisodeRecorder ℚ Unit}
    (h : shifted s = true) : ¬FrameIndicesAddress s := by
  simp only [shifted, Bool.and_eq_true, List.any_eq_true, decide_eq_true_eq] at h
  obtain ⟨⟨⟨row, hrow, hindex⟩, hvideo⟩, hreceived⟩ := h
  intro haddress
  obtain ⟨frame, hframe, hsource⟩ := haddress .chest 2 (Or.inl ⟨row, hrow, hindex⟩)
  rw [sink] at hframe hsource
  rw [hframe] at hvideo
  rw [hsource] at hreceived
  simp only [Option.map_some, Option.some.injEq] at hvideo hreceived
  omega

/-- A queue of one frame: the second chest image is rejected, the capture is accepted, and
the position of a recorded number holds a later image. -/
theorem recording_with_full_queue :
    ∃ (labels : List (RecorderLabel ℚ)) (s : QgfEpisodeRecorder ℚ Unit),
      Run (Steps (EpisodeRecorder.step unitCodec)) (.new 0 1 1 1) labels s ∧ s.closed = true ∧
      (validateCapture (capturedFiles s)).isOk = true ∧ ¬FrameIndicesAddress s := by
  obtain ⟨s, hrun, hfinal⟩ := exists_run_of_execute (EpisodeRecorder.step unitCodec)
    (.new 0 1 1 1) (policyMessages ++ cameraMessages ++ closing)
    (fun s => s.closed && (validateCapture (capturedFiles s)).isOk && shifted s)
    (by decide +kernel)
  simp only [Bool.and_eq_true] at hfinal
  obtain ⟨⟨hclosed, hvalid⟩, hshifted⟩ := hfinal
  exact ⟨_, s, hrun, hclosed, hvalid, not_frameIndicesAddress_of_shifted hshifted⟩

end SmolVlaQgf.RecordedFrameIndices
