import Mathlib.Algebra.Order.Ring.Int
import Mathlib.Data.List.Basic
import SmolVlaQgf.FilteredPositions
import SmolVlaQgf.TransitionRuns

/-!
# The video of one camera

`enqueue` numbers each camera message when it arrives and offers it to a bounded
queue; one worker takes the queued frames in order, archives the JPEG bytes and
encodes the MP4. A frame that meets a full queue keeps its number and is not encoded.
The codec is a parameter; where the disk or the video writer fails is in the labels.
-/

namespace SmolVlaQgf.CameraVideo
open TransitionRuns FilteredPositions

/-! ## Frames -/

/-- A compressed image message: the header stamp and the JPEG bytes. -/
structure CompressedImage where
  sec : ℤ
  nanosec : ℤ
  data : List UInt8
  deriving DecidableEq

/-- What `enqueue` hands to the worker. -/
structure QueuedFrame where
  frameIndex : ℕ
  timestampNs : ℤ
  payload : List UInt8
  deriving DecidableEq

/-- A frame of the MP4; `source` is the queued frame it was encoded from. -/
structure VideoFrame (Img : Type) where
  image : Img
  source : QueuedFrame

/-- The image library: `imdecode` fails with `none`, `size` is width and height. -/
structure Codec (Img : Type) where
  imdecode : List UInt8 → Option Img
  size : Img → ℕ × ℕ
  resize : ℕ × ℕ → Img → Img

inductive WriteFault where
  | archiveHeader
  | archivePayload
  | writerUnopened

/-- What `_worker_error` holds. -/
inductive WorkerError where
  | undecodable (frameIndex : ℕ)
  | unpackable
  | archive
  | unopened
  deriving DecidableEq

/-- `width` bytes of a number, the lowest first. -/
def littleEndian : ℕ → ℕ → List UInt8
  | 0, _ => []
  | width + 1, value => UInt8.ofNat value :: littleEndian width (value / 256)

/-- `struct.pack("<QI", timestamp_ns, size)` -/
def packHeader (timestampNs : ℤ) (size : ℕ) : Option (List UInt8) :=
  if 0 ≤ timestampNs ∧ timestampNs < 256 ^ 8 ∧ size < 256 ^ 4 then
    some (littleEndian 8 timestampNs.toNat ++ littleEndian 4 size)
  else none

/-! ## The sink -/

/-- The stages of `close`; `returned` holds the error it raised, if any. -/
inductive CloseStage where
  | opened
  | closing
  | draining
  | returned (error : Option WorkerError)
  deriving DecidableEq

/-- `busy` is the frame the worker has taken and not written yet. `received` and `rejected`
list the frames in order of receipt and the indices that met a full queue. -/
structure VideoSink (Img : Type) where
  queueSize : ℤ
  queue : List (Option QueuedFrame)
  busy : Option QueuedFrame
  workerFinished : Bool
  workerError : Option WorkerError
  closeStage : CloseStage
  writer : Option (ℕ × ℕ × Bool)
  video : List (VideoFrame Img)
  archive : List UInt8
  frameCount : ℕ
  latestTimestampNs : ℤ
  latestFrameIndex : ℤ
  receivedFrameCount : ℕ
  droppedFrameCount : ℕ
  firstTimestampNs : ℤ
  lastTimestampNs : ℤ
  received : List QueuedFrame
  rejected : List ℕ

namespace VideoSink

variable {Img : Type}

def new (queueSize : ℤ) : VideoSink Img where
  queueSize
  queue := []
  busy := none
  workerFinished := false
  workerError := none
  closeStage := .opened
  writer := none
  video := []
  archive := []
  frameCount := 0
  latestTimestampNs := 0
  latestFrameIndex := -1
  receivedFrameCount := 0
  droppedFrameCount := 0
  firstTimestampNs := 0
  lastTimestampNs := 0
  received := []
  rejected := []

/-- `Queue.full`: a size that is not positive means no bound. -/
def full (s : VideoSink Img) : Bool :=
  decide (0 < s.queueSize) && decide (s.queueSize ≤ s.queue.length)

/-- The frame `enqueue` makes of a message. -/
def receive (message : CompressedImage) (now : ℤ) (s : VideoSink Img) : QueuedFrame :=
  let stamp := message.sec * 1000000000 + message.nanosec
  { frameIndex := s.receivedFrameCount
    timestampNs := if stamp ≤ 0 then now else stamp
    payload := message.data }

/-- `enqueue`; `now` is the clock for a message without a stamp. -/
def enqueue (message : CompressedImage) (now : ℤ) (s : VideoSink Img) : VideoSink Img :=
  if s.closeStage ≠ .opened then s
  else
    let frame := s.receive message now
    let numbered := { s with
      receivedFrameCount := s.receivedFrameCount + 1
      latestFrameIndex := frame.frameIndex
      latestTimestampNs := frame.timestampNs
      firstTimestampNs := if s.firstTimestampNs = 0 then frame.timestampNs else s.firstTimestampNs
      lastTimestampNs := frame.timestampNs
      received := s.received ++ [frame] }
    if s.full then
      { numbered with
        droppedFrameCount := s.droppedFrameCount + 1
        rejected := s.rejected ++ [frame.frameIndex] }
    else { numbered with queue := s.queue ++ [some frame] }

/-- `_run` up to `_write`: take the next item, and stop at the sentinel. -/
def take (s : VideoSink Img) : Option (VideoSink Img) :=
  if s.workerFinished || s.busy.isSome then none
  else
    match s.queue with
    | [] => none
    | none :: rest => some { s with queue := rest, workerFinished := true }
    | some frame :: rest => some { s with queue := rest, busy := some frame }

def fail (error : WorkerError) (s : VideoSink Img) : VideoSink Img :=
  { s with workerError := some error, busy := none }

/-- Encode one decoded frame; a writer that did not open takes no frames. -/
def encode (codec : Codec Img) (frame : QueuedFrame) (image : Img) (writer : ℕ × ℕ × Bool)
    (s : VideoSink Img) : VideoSink Img :=
  let (width, height, isOpened) := writer
  let resized := if codec.size image = (width, height) then image
    else codec.resize (width, height) image
  { s with
    busy := none
    video := if isOpened then s.video ++ [⟨resized, frame⟩] else s.video
    frameCount := s.frameCount + 1 }

/-- `_write` of the frame the worker has taken. -/
def write (codec : Codec Img) (fault : Option WriteFault) (frame : QueuedFrame)
    (s : VideoSink Img) : VideoSink Img :=
  match codec.imdecode frame.payload with
  | none => s.fail (.undecodable frame.frameIndex)
  | some image =>
      match packHeader frame.timestampNs frame.payload.length, fault with
      | none, _ => s.fail .unpackable
      | some _, some .archiveHeader => s.fail .archive
      | some header, some .archivePayload =>
          { s with archive := s.archive ++ header }.fail .archive
      | some header, fault =>
          let archived := { s with archive := s.archive ++ header ++ frame.payload }
          match s.writer, fault with
          | some writer, _ => archived.encode codec frame image writer
          | none, some _ =>
              let writer := ((codec.size image).1, (codec.size image).2, false)
              { archived with writer := some writer }.fail .unopened
          | none, none =>
              let writer := ((codec.size image).1, (codec.size image).2, true)
              { archived with writer := some writer }.encode codec frame image writer

/-- One step of `close`: refuse new frames, put the sentinel once there is room, and return
after the worker has stopped. -/
def closeStep (s : VideoSink Img) : Option (VideoSink Img) :=
  match s.closeStage with
  | .opened => some { s with closeStage := .closing }
  | .closing =>
      if s.full then none else some { s with closeStage := .draining, queue := s.queue ++ [none] }
  | .draining =>
      if s.workerFinished then
        some { s with closeStage := .returned s.workerError, writer := none }
      else none
  | .returned _ => none

end VideoSink

/-- Arrival of a message, the two worker steps, and `close`. -/
inductive Label where
  | enqueue (message : CompressedImage) (now : ℤ)
  | take
  | write (fault : Option WriteFault)
  | close

def next {Img : Type} (codec : Codec Img) (s : VideoSink Img) : Label → Option (VideoSink Img)
  | .enqueue message now => some (s.enqueue message now)
  | .take => s.take
  | .write fault => s.busy.map fun frame => s.write codec fault frame
  | .close => s.closeStep

end SmolVlaQgf.CameraVideo
