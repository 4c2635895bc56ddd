import SmolVlaQgf.CaptureValidation
import SmolVlaQgf.LengthPrefixedRecords
import SmolVlaQgf.VideoFifo

/-!
# The archive and the counters of a video

While the worker has met no error, the archive is the encoding of the frames it has encoded and
the counter of encoded frames counts them; every received frame was accepted or counted as
dropped. After a close without error the archive reads back as the accepted frames.
-/

namespace SmolVlaQgf.VideoArchive
open TransitionRuns CameraVideo VideoSink VideoFifo CaptureValidation LengthPrefixedRecords

/-! ## The format of the archive -/

def fromLittleEndian : List UInt8 → ℕ
  | [] => 0
  | byte :: bytes => byte.toNat + 256 * fromLittleEndian bytes

private theorem length_littleEndian (width value : ℕ) :
    (littleEndian width value).length = width := by
  induction width generalizing value with
  | zero => rfl
  | succ width ih => rw [littleEndian, List.length_cons, ih]

private theorem fromLittleEndian_littleEndian {width value : ℕ} (h : value < 256 ^ width) :
    fromLittleEndian (littleEndian width value) = value := by
  induction width generalizing value with
  | zero =>
    rw [pow_zero, Nat.lt_one_iff] at h
    rw [littleEndian, fromLittleEndian, h]
  | succ width ih =>
    have hrest : value / 256 < 256 ^ width := by
      rw [Nat.div_lt_iff_lt_mul (by omega), ← pow_succ]
      exact h
    rw [littleEndian, fromLittleEndian, ih hrest, UInt8.toNat_ofNat']
    omega

/-- The documented format: a timestamp of eight bytes, a size of four, and the payload. -/
def archiveFormat : RecordFormat UInt8 (ℕ × ℕ) where
  width := 12
  width_pos := by omega
  decode bytes := (fromLittleEndian (bytes.take 8), fromLittleEndian (bytes.drop 8))
  size := Prod.snd

def readArchive (bytes : List UInt8) : Option (List (ℤ × List UInt8)) :=
  (archiveFormat.parse bytes).map fun records =>
    records.map fun record => ((record.1.1 : ℤ), record.2)

def recordOf (frame : QueuedFrame) : (ℕ × ℕ) × List UInt8 :=
  ((frame.timestampNs.toNat, frame.payload.length), frame.payload)

theorem frames_of_packHeader {frame : QueuedFrame} {header : List UInt8}
    (h : packHeader frame.timestampNs frame.payload.length = some header) :
    0 ≤ frame.timestampNs ∧ archiveFormat.Frames (recordOf frame) (header ++ frame.payload) := by
  rw [packHeader] at h
  split at h
  · rename_i hbounds
    obtain ⟨hnonneg, hstamp, hsize⟩ := hbounds
    obtain rfl := Option.some.inj h
    have hlength := length_littleEndian 8 frame.timestampNs.toNat
    refine ⟨hnonneg, _, rfl, ?_, ?_, rfl⟩
    · rw [List.length_append, hlength, length_littleEndian]
      rfl
    · have htake : (littleEndian 8 frame.timestampNs.toNat ++
          littleEndian 4 frame.payload.length).take 8 =
          littleEndian 8 frame.timestampNs.toNat := List.take_left' hlength
      have hdrop : (littleEndian 8 frame.timestampNs.toNat ++
          littleEndian 4 frame.payload.length).drop 8 =
          littleEndian 4 frame.payload.length := List.drop_left' hlength
      have hvalue : frame.timestampNs.toNat < 256 ^ 8 := by
        rw [Int.toNat_lt hnonneg]
        exact_mod_cast hstamp
      simp only [archiveFormat, htake, hdrop, fromLittleEndian_littleEndian hvalue,
        fromLittleEndian_littleEndian hsize, recordOf]
  · cases h

/-! ## The invariant -/

variable {Img : Type} {codec : Codec Img} {s t : VideoSink Img}

structure Archived (s : VideoSink Img) : Prop where
  counts : (accepted s).length + s.droppedFrameCount = s.receivedFrameCount
  encoded : s.workerError = none → s.frameCount = s.video.length
  archive : s.workerError = none → ∃ frames, s.archive = frames.flatten ∧
    List.Forall₂ (fun video bytes => 0 ≤ video.source.timestampNs ∧
      archiveFormat.Frames (recordOf video.source) bytes) s.video frames

private theorem archived_new (queueSize : ℤ) :
    Archived (VideoSink.new queueSize : VideoSink Img) where
  counts := rfl
  encoded := fun _ => rfl
  archive := fun _ => ⟨[], rfl, .nil⟩

theorem Archived.of_same (h : Archived s) (haccepted : accepted t = accepted s)
    (hdropped : t.droppedFrameCount = s.droppedFrameCount)
    (hreceived : t.receivedFrameCount = s.receivedFrameCount)
    (herror : t.workerError = s.workerError) (hcount : t.frameCount = s.frameCount)
    (hvideo : t.video = s.video) (harchive : t.archive = s.archive) : Archived t := by
  refine ⟨?_, ?_, ?_⟩
  · rw [haccepted, hdropped, hreceived]
    exact h.counts
  · rw [herror, hcount, hvideo]
    exact h.encoded
  · rw [herror, harchive, hvideo]
    exact h.archive

theorem Archived.enqueue (h : Archived s) (hnumbered : Numbered s) (message : CompressedImage)
    (now : ℤ) : Archived (s.enqueue message now) := by
  rw [VideoSink.enqueue]
  split
  · exact h
  · have hcounts := h.counts
    dsimp only
    split
    · refine ⟨?_, h.encoded, h.archive⟩
      have haccepted := filter_received_reject hnumbered (s.receive message now) rfl
      simp only [accepted] at haccepted hcounts ⊢
      rw [haccepted]
      omega
    · refine ⟨?_, h.encoded, h.archive⟩
      have haccepted := filter_received_append hnumbered (s.receive message now) rfl
      simp only [accepted] at haccepted hcounts ⊢
      rw [haccepted, List.length_append, List.length_singleton]
      omega

theorem Archived.take (h : Archived s) (ht : s.take = some t) : Archived t := by
  obtain ⟨-, -, ⟨rest, -, rfl⟩ | ⟨frame, rest, -, rfl⟩⟩ := take_cases ht
  · exact h.of_same rfl rfl rfl rfl rfl rfl rfl
  · exact h.of_same rfl rfl rfl rfl rfl rfl rfl

theorem Archived.close (h : Archived s) (ht : s.closeStep = some t) : Archived t := by
  rw [closeStep] at ht
  split at ht
  · obtain rfl := Option.some.inj ht
    exact h.of_same rfl rfl rfl rfl rfl rfl rfl
  · split at ht
    · cases ht
    · obtain rfl := Option.some.inj ht
      exact h.of_same rfl rfl rfl rfl rfl rfl rfl
  · split at ht
    · obtain rfl := Option.some.inj ht
      exact h.of_same rfl rfl rfl rfl rfl rfl rfl
    · cases ht
  · cases ht

/-- A write that records no error archives and encodes its frame. -/
structure Stores (frame : QueuedFrame) (s t : VideoSink Img) : Prop where
  workerError : s.workerError = none
  frameCount : t.frameCount = s.frameCount + 1
  video : ∃ image, t.video = s.video ++ [⟨image, frame⟩]
  archive : ∃ header, packHeader frame.timestampNs frame.payload.length = some header ∧
    t.archive = s.archive ++ (header ++ frame.payload)

private theorem write_droppedFrameCount (fault : Option WriteFault) (frame : QueuedFrame) :
    (s.write codec fault frame).droppedFrameCount = s.droppedFrameCount := by
  rw [write]
  split
  · rfl
  · split
    · rfl
    · rfl
    · rfl
    · dsimp only
      split <;> rfl

/-- With an open writer, or none yet, a write stores its frame or records an error. -/
theorem write_stores (fault : Option WriteFault) (frame : QueuedFrame)
    (herror : s.workerError = none) (hwriter : ∀ writer ∈ s.writer, writer.2.2 = true) :
    (s.write codec fault frame).workerError ≠ none ∨
      Stores frame s (s.write codec fault frame) := by
  have hencode (image : Img) (writer : ℕ × ℕ × Bool) (hopened : writer.2.2 = true)
      (archived : VideoSink Img) (hvideo : archived.video = s.video) :
      ∃ image', (archived.encode codec frame image writer).video =
        s.video ++ [⟨image', frame⟩] := by
    rw [encode, ← hvideo]
    exact ⟨_, if_pos hopened⟩
  rw [write]
  cases hdecode : codec.imdecode frame.payload with
  | none => exact Or.inl (by simp [fail])
  | some image =>
    cases hheader : packHeader frame.timestampNs frame.payload.length with
    | none => exact Or.inl (by simp [fail])
    | some header =>
      have harchive : s.archive ++ header ++ frame.payload =
          s.archive ++ (header ++ frame.payload) := List.append_assoc _ _ _
      dsimp only
      split
      · rename_i hnone
        cases hnone
      · exact Or.inl (by simp [fail])
      · exact Or.inl (by simp [fail])
      · obtain rfl := Option.some.inj ‹some header = some _›
        split
        · rename_i writer hsome _ _
          exact Or.inr ⟨herror, rfl, hencode _ _ (hwriter writer hsome) _ rfl, header, hheader,
            harchive⟩
        · exact Or.inl (by simp [fail])
        · exact Or.inr ⟨herror, rfl, hencode _ _ rfl _ rfl, header, hheader, harchive⟩

theorem Archived.write (h : Archived s) (hfifo : Fifo s) (fault : Option WriteFault)
    (frame : QueuedFrame) : Archived (s.write codec fault frame) := by
  obtain ⟨hsame, -, hencodes⟩ := write_cases codec fault frame s
  have hcounts : (accepted (s.write codec fault frame)).length +
      (s.write codec fault frame).droppedFrameCount =
        (s.write codec fault frame).receivedFrameCount := by
    rw [accepted, hsame.received, hsame.rejected, hsame.receivedFrameCount, write_droppedFrameCount]
    exact h.counts
  have hstores (hnone : (s.write codec fault frame).workerError = none) :
      Stores frame s (s.write codec fault frame) := by
    have herror := (hencodes.resolve_left (not_not_intro hnone)).workerError
    rw [hnone, eq_comm] at herror
    exact (write_stores fault frame herror (hfifo.writer herror)).resolve_left
      (not_not_intro hnone)
  refine ⟨hcounts, fun hnone => ?_, fun hnone => ?_⟩
  · obtain ⟨herror, hcount, ⟨image, hvideo⟩, -⟩ := hstores hnone
    rw [hcount, hvideo, List.length_append, h.encoded herror, List.length_singleton]
  · obtain ⟨herror, -, ⟨image, hvideo⟩, header, hheader, harchive⟩ := hstores hnone
    obtain ⟨frames, hframes, hall⟩ := h.archive herror
    refine ⟨frames ++ [header ++ frame.payload], ?_, ?_⟩
    · rw [harchive, hframes, List.flatten_append, List.flatten_singleton]
    · rw [hvideo]
      exact List.rel_append hall (.cons (frames_of_packHeader hheader) .nil)

/-! ## Runs -/

theorem Archived.step {label : Label} (h : Archived s) (hfifo : Fifo s)
    (hnext : next codec s label = some t) : Archived t := by
  cases label with
  | enqueue message now =>
    obtain rfl := Option.some.inj hnext
    exact h.enqueue hfifo.numbered message now
  | take => exact h.take hnext
  | write fault =>
    obtain ⟨frame, -, rfl⟩ := Option.map_eq_some_iff.mp hnext
    exact h.write hfifo fault frame
  | close => exact h.close hnext

private theorem archived_of_run {queueSize : ℤ} {labels : List Label}
    (h : Run (Steps (next codec)) (VideoSink.new queueSize) labels s) : Fifo s ∧ Archived s :=
  h.invariant (I := fun s => Fifo s ∧ Archived s)
    (fun _ _ _ hstep hs => ⟨hs.1.step hstep, hs.2.step hs.1 hstep⟩)
    ⟨fifo_new queueSize, archived_new queueSize⟩

theorem readArchive_flatten {video : List (VideoFrame Img)} {frames : List (List UInt8)}
    (h : List.Forall₂ (fun video bytes => 0 ≤ video.source.timestampNs ∧
      archiveFormat.Frames (recordOf video.source) bytes) video frames) :
    readArchive frames.flatten =
      some ((video.map (·.source)).map fun frame => (frame.timestampNs, frame.payload)) := by
  obtain ⟨hnonneg, hrecords⟩ := (List.forall₂_and_left _ _).mp h
  have hframes : List.Forall₂ archiveFormat.Frames (video.map fun v => recordOf v.source) frames :=
    List.forall₂_map_left_iff.mpr hrecords
  rw [readArchive, RecordFormat.parse_flatten hframes, Option.map_some, List.map_map, List.map_map]
  refine congrArg some (List.map_congr_left fun v hv => ?_)
  exact Prod.ext (Int.toNat_of_nonneg (hnonneg v hv)) rfl

/-! ## Frames that meet a full queue -/

def Drops (s : VideoSink Img) (label : Label) (index : ℕ) : Prop :=
  (∃ message now, label = .enqueue message now) ∧ s.closeStage = .opened ∧ s.full = true ∧
    s.receivedFrameCount = index

private theorem rejected_closeStep (h : s.closeStep = some t) : t.rejected = s.rejected := by
  rw [closeStep] at h
  split at h
  · exact (congrArg VideoSink.rejected (Option.some.inj h)).symm
  · split at h
    · cases h
    · exact (congrArg VideoSink.rejected (Option.some.inj h)).symm
  · split at h
    · exact (congrArg VideoSink.rejected (Option.some.inj h)).symm
    · cases h
  · cases h

private theorem mem_rejected_step {label : Label} (h : next codec s label = some t) (index : ℕ) :
    index ∈ t.rejected ↔ index ∈ s.rejected ∨ Drops s label index := by
  have hother (hlabel : ∀ message now, label ≠ .enqueue message now)
      (hsame : t.rejected = s.rejected) :
      index ∈ t.rejected ↔ index ∈ s.rejected ∨ Drops s label index := by
    rw [hsame, or_iff_left]
    rintro ⟨⟨message, now, hmessage⟩, -⟩
    exact hlabel message now hmessage
  cases label with
  | enqueue message now =>
    obtain rfl := Option.some.inj h
    rw [VideoSink.enqueue]
    split
    · rename_i hclosed
      exact (or_iff_left fun hdrops => hclosed hdrops.2.1).symm
    · rename_i hopened
      dsimp only
      split
      · rename_i hfull
        rw [List.mem_append, List.mem_singleton, receive]
        refine or_congr_right ⟨fun heq => ?_, fun hdrops => hdrops.2.2.2.symm⟩
        exact ⟨⟨message, now, rfl⟩, not_not.mp hopened, hfull, heq.symm⟩
      · rename_i hfull
        exact (or_iff_left fun hdrops => hfull hdrops.2.2.1).symm
  | take =>
    obtain ⟨-, -, ⟨rest, -, rfl⟩ | ⟨frame, rest, -, rfl⟩⟩ := take_cases h
    · exact hother (by simp) rfl
    · exact hother (by simp) rfl
  | write fault =>
    obtain ⟨frame, -, rfl⟩ := Option.map_eq_some_iff.mp h
    exact hother (by simp) (write_cases codec fault frame s).1.rejected
  | close => exact hother (by simp) (rejected_closeStep h)

/-- The rejected frames are those whose arrival met a full queue. -/
theorem mem_rejected_iff {queueSize : ℤ} {labels : List Label}
    (hrun : Run (Steps (next codec)) (VideoSink.new queueSize) labels s) (index : ℕ) :
    index ∈ s.rejected ↔ ∃ before label after u v, labels = before ++ label :: after ∧
      Run (Steps (next codec)) (VideoSink.new queueSize) before u ∧ next codec u label = some v ∧
      Run (Steps (next codec)) v after s ∧ Drops u label index := by
  constructor
  · intro hmem
    induction hrun with
    | nil => simp [VideoSink.new] at hmem
    | @snoc labels last u s run hlast ih =>
      rcases (mem_rejected_step hlast index).mp hmem with hmem | hdrops
      · obtain ⟨before, label, after, w, v, rfl, hbefore, hnext, hafter, hdrops⟩ := ih hmem
        exact ⟨before, label, after ++ [last], w, v, by simp, hbefore, hnext, hafter.snoc hlast,
          hdrops⟩
      · exact ⟨labels, last, [], u, s, rfl, run, hlast, .nil, hdrops⟩
  · rintro ⟨before, label, after, u, v, -, -, hnext, hafter, hdrops⟩
    exact hafter.invariant (I := fun s => index ∈ s.rejected)
      (fun _ _ _ hstep hmem => (mem_rejected_step hstep index).mpr (Or.inl hmem))
      ((mem_rejected_step hnext index).mpr (Or.inr hdrops))

/-- After a close without error, on every run: the encoded frames are the received ones that did
not meet a full queue, in order and each once, the archive reads back as exactly these, and every
received frame is counted as encoded or as dropped. -/
theorem closed_video_honest (codec : Codec Img) (queueSize : ℤ) (labels : List Label)
    (s : VideoSink Img)
    (hrun : Run (Steps (next codec)) (VideoSink.new queueSize) labels s)
    (hclosed : s.closeStage = .returned none) :
    s.video.map (·.source) = accepted s ∧ (accepted s).Nodup ∧
      readArchive s.archive =
        some ((accepted s).map fun frame => (frame.timestampNs, frame.payload)) ∧
      (videoSummary s).framesReceived =
        (videoSummary s).framesEncoded + (videoSummary s).framesDropped := by
  obtain ⟨hfifo, harchived⟩ := archived_of_run hrun
  have hvideo := hfifo.video_eq_accepted hclosed
  have herror := (hfifo.finished_of_closed hclosed).2.2
  refine ⟨hvideo, hfifo.numbered.nodup.filter _, ?_, ?_⟩
  · obtain ⟨frames, hframes, hall⟩ := harchived.archive herror
    rw [hframes, readArchive_flatten hall, hvideo]
  · have hcounts := harchived.counts
    have hencoded := harchived.encoded herror
    rw [← hvideo, List.length_map, ← hencoded] at hcounts
    exact hcounts.symm

def onePixel : Codec Unit := ⟨fun _ => some (), fun _ => (1, 1), fun _ image => image⟩

/-- Two frames meet a queue of one; the worker stores the first and the sink closes. -/
def fullQueueLabels : List Label :=
  [.enqueue ⟨0, 5, [1, 2]⟩ 0, .enqueue ⟨0, 6, [3]⟩ 0, .take, .write none, .close, .close, .take,
    .close]

/-- The archive holds the first of the two frames, and the other one met the full queue. -/
theorem fullQueue_honest : ∃ s : VideoSink Unit,
    Run (Steps (next onePixel)) (VideoSink.new 1) fullQueueLabels s ∧
    s.closeStage = .returned none ∧ s.video.map (·.source) = [⟨0, 5, [1, 2]⟩] ∧
    readArchive s.archive = some [(5, [1, 2])] ∧
    (videoSummary s).framesReceived = 2 ∧ (videoSummary s).framesDropped = 1 ∧
    (videoSummary s).framesEncoded + (videoSummary s).framesDropped = 2 := by
  obtain ⟨s, hrun, hfinal⟩ := exists_run_of_execute (next onePixel) (VideoSink.new 1)
    fullQueueLabels
    (fun s => decide (s.closeStage = .returned none) &&
      decide (accepted s = [⟨0, 5, [1, 2]⟩]) && decide ((videoSummary s).framesReceived = 2) &&
      decide ((videoSummary s).framesDropped = 1))
    (by decide +kernel)
  simp only [Bool.and_eq_true, decide_eq_true_eq] at hfinal
  obtain ⟨⟨⟨hclosed, haccepted⟩, hreceived⟩, hdropped⟩ := hfinal
  obtain ⟨hvideo, -, hread, hcounts⟩ := closed_video_honest _ 1 fullQueueLabels s hrun hclosed
  rw [haccepted] at hvideo hread
  exact ⟨s, hrun, hclosed, hvideo, hread, hreceived, hdropped, hcounts.symm.trans hreceived⟩

end SmolVlaQgf.VideoArchive
