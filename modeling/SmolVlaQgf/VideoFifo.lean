import Mathlib.Data.List.ReduceOption
import SmolVlaQgf.CameraVideo

/-!
# The sink encodes what it accepted, in order

As long as the worker has met no error, the encoded frames, the frame in work and the
queued frames are together the received frames that did not meet a full queue. After a
close without error all of them are encoded.
-/

namespace SmolVlaQgf.VideoFifo
open TransitionRuns FilteredPositions CameraVideo VideoSink

variable {Img : Type} {codec : Codec Img} {s t : VideoSink Img}

/-- The received frames that did not meet a full queue. -/
def accepted (s : VideoSink Img) : List QueuedFrame :=
  s.received.filter fun frame => !s.rejected.contains frame.frameIndex

/-- Frames are numbered by their position, and the latest number is the last one. -/
structure Numbered (s : VideoSink Img) : Prop where
  indices : s.received.map (·.frameIndex) = List.range s.receivedFrameCount
  rejected : ∀ j ∈ s.rejected, j < s.receivedFrameCount
  latest : s.latestFrameIndex = s.receivedFrameCount - 1

/-- The sentinel is the last item of the queue while `close` waits for the worker. -/
def sentinel : CloseStage → List (Option QueuedFrame)
  | .draining => [none]
  | _ => []

/-- The queue of a working and of a finished worker. -/
structure Staged (s : VideoSink Img) : Prop where
  working : s.workerFinished = false → (∀ error, s.closeStage ≠ .returned error) ∧
    ∃ frames : List QueuedFrame, s.queue = frames.map some ++ sentinel s.closeStage
  finished : s.workerFinished = true → s.busy = none ∧ s.queue = [] ∧
    (s.closeStage = .draining ∨ s.closeStage = .returned s.workerError)

structure Fifo (s : VideoSink Img) : Prop where
  numbered : Numbered s
  staged : Staged s
  frames : s.workerError = none →
    s.video.map (·.source) ++ s.busy.toList ++ s.queue.reduceOption = accepted s
  writer : s.workerError = none → ∀ writer ∈ s.writer, writer.2.2 = true

theorem fifo_new (queueSize : ℤ) : Fifo (VideoSink.new queueSize : VideoSink Img) where
  numbered := ⟨rfl, by simp [VideoSink.new], rfl⟩
  staged := ⟨fun _ => ⟨by simp [VideoSink.new], [], rfl⟩, by simp [VideoSink.new]⟩
  frames := fun _ => rfl
  writer := by simp [VideoSink.new]

/-! ## Receipt -/

theorem Numbered.index_lt (h : Numbered s) {frame : QueuedFrame} (hframe : frame ∈ s.received) :
    frame.frameIndex < s.receivedFrameCount := by
  have hmem : frame.frameIndex ∈ s.received.map (·.frameIndex) := List.mem_map_of_mem hframe
  rw [h.indices] at hmem
  exact List.mem_range.mp hmem

theorem Numbered.nodup (h : Numbered s) : s.received.Nodup := by
  have hindices : (s.received.map (·.frameIndex)).Nodup := by
    rw [h.indices]
    exact List.nodup_range
  exact hindices.of_map

theorem Numbered.length_received (h : Numbered s) : s.received.length = s.receivedFrameCount := by
  have hlength := congrArg List.length h.indices
  rwa [List.length_map, List.length_range] at hlength

theorem Numbered.of_same (h : Numbered s) (hreceived : t.received = s.received)
    (hcount : t.receivedFrameCount = s.receivedFrameCount) (hrejected : t.rejected = s.rejected)
    (hlatest : t.latestFrameIndex = s.latestFrameIndex) : Numbered t := by
  refine ⟨?_, ?_, ?_⟩
  · rw [hreceived, hcount, h.indices]
  · rw [hrejected, hcount]
    exact h.rejected
  · rw [hlatest, hcount, h.latest]

theorem filter_received_append (h : Numbered s) (frame : QueuedFrame)
    (hframe : frame.frameIndex = s.receivedFrameCount) :
    (s.received ++ [frame]).filter (fun f => !s.rejected.contains f.frameIndex) =
      accepted s ++ [frame] := by
  have hnew : frame.frameIndex ∉ s.rejected := fun hmem => by
    have hlt := h.rejected _ hmem
    omega
  rw [List.filter_append, List.filter_cons_of_pos (by simpa using hnew)]
  rfl

theorem filter_received_reject (h : Numbered s) (frame : QueuedFrame)
    (hframe : frame.frameIndex = s.receivedFrameCount) :
    (s.received ++ [frame]).filter
        (fun f => !(s.rejected ++ [frame.frameIndex]).contains f.frameIndex) = accepted s := by
  rw [List.filter_append, List.filter_cons_of_neg (by simp), List.filter_nil, List.append_nil,
    accepted]
  refine List.filter_congr fun f hf => ?_
  have hlt := h.index_lt hf
  have hne : f.frameIndex ≠ frame.frameIndex := by omega
  simp [hne]

private theorem indices_append (h : Numbered s) (frame : QueuedFrame)
    (hframe : frame.frameIndex = s.receivedFrameCount) :
    (s.received ++ [frame]).map (·.frameIndex) = List.range (s.receivedFrameCount + 1) := by
  rw [List.map_append, h.indices, List.range_succ, List.map_singleton, hframe]

theorem Staged.working_of_opened (h : Staged s) (hopened : s.closeStage = .opened) :
    s.workerFinished = false := by
  cases hfinished : s.workerFinished with
  | false => rfl
  | true =>
    obtain ⟨-, -, hstage | hstage⟩ := h.finished hfinished <;> simp [hopened] at hstage

theorem Fifo.enqueue (h : Fifo s) (message : CompressedImage) (now : ℤ) :
    Fifo (s.enqueue message now) := by
  rw [VideoSink.enqueue]
  split
  · exact h
  · rename_i hstage
    have hopened : s.closeStage = .opened := not_not.mp hstage
    have hworking := h.staged.working_of_opened hopened
    obtain ⟨hreturned, frames, hqueue⟩ := h.staged.working hworking
    have hindices := indices_append h.numbered (s.receive message now) rfl
    have hlatest : ((s.receive message now).frameIndex : ℤ) =
        ((s.receivedFrameCount + 1 : ℕ) : ℤ) - 1 := by
      rw [receive]
      push_cast
      omega
    dsimp only
    split
    · refine ⟨⟨hindices, ?_, hlatest⟩, ⟨fun _ => ⟨hreturned, frames, hqueue⟩, h.staged.finished⟩,
        fun herror => ?_, h.writer⟩
      · intro j hj
        rcases List.mem_append.mp hj with hj | hj
        · exact (h.numbered.rejected j hj).trans (Nat.lt_succ_self _)
        · obtain rfl := List.mem_singleton.mp hj
          exact Nat.lt_succ_self _
      · exact (h.frames herror).trans (filter_received_reject h.numbered _ rfl).symm
    · refine ⟨⟨hindices, ?_, hlatest⟩, ⟨fun _ => ⟨hreturned, ?_⟩, fun hfinished => ?_⟩,
        fun herror => ?_, h.writer⟩
      · exact fun j hj => (h.numbered.rejected j hj).trans (Nat.lt_succ_self _)
      · exact ⟨frames ++ [s.receive message now], by simp [hqueue, hopened, sentinel]⟩
      · exact absurd (hworking.symm.trans hfinished) Bool.false_ne_true
      · have hframes := h.frames herror
        have haccepted := filter_received_append h.numbered (s.receive message now) rfl
        rw [accepted, haccepted, ← hframes, List.reduceOption_append]
        simp

/-! ## The worker -/

theorem take_cases (h : s.take = some t) : s.workerFinished = false ∧ s.busy = none ∧
    ((∃ rest, s.queue = none :: rest ∧ t = { s with queue := rest, workerFinished := true }) ∨
      ∃ frame rest, s.queue = some frame :: rest ∧
        t = { s with queue := rest, busy := some frame }) := by
  rw [VideoSink.take] at h
  split at h
  · cases h
  · rename_i hidle
    obtain ⟨hworking, hbusy⟩ : s.workerFinished = false ∧ s.busy = none := by simpa using hidle
    refine ⟨hworking, hbusy, ?_⟩
    split at h
    · cases h
    · exact Or.inl ⟨_, ‹_›, (Option.some.inj h).symm⟩
    · exact Or.inr ⟨_, _, ‹_›, (Option.some.inj h).symm⟩

theorem Fifo.take (h : Fifo s) (ht : s.take = some t) : Fifo t := by
  obtain ⟨hworking, hbusy, ⟨rest, hqueue, rfl⟩ | ⟨frame, rest, hqueue, rfl⟩⟩ := take_cases ht
  · obtain ⟨hreturned, frames, hframes⟩ := h.staged.working hworking
    have hdrained : rest = [] ∧ s.closeStage = .draining := by
      rw [hqueue] at hframes
      cases frames with
      | cons frame frames => simp at hframes
      | nil =>
        rw [List.map_nil, List.nil_append] at hframes
        cases hstage : s.closeStage with
        | draining =>
          rw [hstage] at hframes
          exact ⟨(List.cons.inj hframes).2, rfl⟩
        | _ => simp [hstage, sentinel] at hframes
    refine ⟨h.numbered.of_same rfl rfl rfl rfl, ⟨by simp, fun _ => ?_⟩, fun herror => ?_, h.writer⟩
    · exact ⟨hbusy, hdrained.1, Or.inl hdrained.2⟩
    · have hall := h.frames herror
      rw [hqueue] at hall
      exact hall
  · obtain ⟨hreturned, frames, hframes⟩ := h.staged.working hworking
    have hrest : ∃ frames : List QueuedFrame, rest = frames.map some ++ sentinel s.closeStage := by
      rw [hqueue] at hframes
      cases frames with
      | cons first frames => exact ⟨frames, (List.cons.inj hframes).2⟩
      | nil => cases hstage : s.closeStage <;> simp [hstage, sentinel] at hframes
    refine ⟨h.numbered.of_same rfl rfl rfl rfl, ⟨fun _ => ⟨hreturned, hrest⟩, fun hfinished => ?_⟩,
      fun herror => ?_, h.writer⟩
    · exact absurd (hworking.symm.trans hfinished) Bool.false_ne_true
    · have hall := h.frames herror
      rw [hqueue, hbusy, List.reduceOption_cons_of_some] at hall
      exact Eq.trans (by simp) hall

structure SameQueue (s t : VideoSink Img) : Prop where
  queue : t.queue = s.queue
  workerFinished : t.workerFinished = s.workerFinished
  closeStage : t.closeStage = s.closeStage
  received : t.received = s.received
  receivedFrameCount : t.receivedFrameCount = s.receivedFrameCount
  rejected : t.rejected = s.rejected
  latestFrameIndex : t.latestFrameIndex = s.latestFrameIndex

/-- The frame is encoded, by the open writer or by one that opens now. -/
structure Encodes (frame : QueuedFrame) (s t : VideoSink Img) : Prop where
  workerError : t.workerError = s.workerError
  writer : ∃ writer, t.writer = some writer ∧ (s.writer = some writer ∨ writer.2.2 = true)
  video : ∀ writer ∈ t.writer, writer.2.2 = true →
    t.video.map (·.source) = s.video.map (·.source) ++ [frame]

/-- A write empties the worker's hand and either encodes its frame or records an error. -/
theorem write_cases (codec : Codec Img) (fault : Option WriteFault) (frame : QueuedFrame)
    (s : VideoSink Img) :
    SameQueue s (s.write codec fault frame) ∧ (s.write codec fault frame).busy = none ∧
      ((s.write codec fault frame).workerError ≠ none ∨
        Encodes frame s (s.write codec fault frame)) := by
  have hfail : ∀ (t : VideoSink Img) (error : WorkerError), SameQueue s t →
      SameQueue s (t.fail error) ∧ (t.fail error).busy = none ∧
        ((t.fail error).workerError ≠ none ∨ Encodes frame s (t.fail error)) :=
    fun t error h => ⟨⟨h.queue, h.workerFinished, h.closeStage, h.received, h.receivedFrameCount,
      h.rejected, h.latestFrameIndex⟩, rfl, Or.inl (by simp [fail])⟩
  have hsame : SameQueue s s := ⟨rfl, rfl, rfl, rfl, rfl, rfl, rfl⟩
  rw [write]
  split
  · exact hfail s _ hsame
  · rename_i image _
    split
    · exact hfail s _ hsame
    · exact hfail s _ hsame
    · exact hfail _ _ ⟨rfl, rfl, rfl, rfl, rfl, rfl, rfl⟩
    · dsimp only
      split
      · rename_i writer hwriter _ _
        refine ⟨⟨rfl, rfl, rfl, rfl, rfl, rfl, rfl⟩, rfl, Or.inr ⟨rfl, ⟨writer, hwriter, Or.inl
          hwriter⟩, fun other hother hopened => ?_⟩⟩
        obtain rfl : other = writer := Option.some.inj (hother.symm.trans hwriter)
        simp [encode, hopened]
      · exact hfail _ _ ⟨rfl, rfl, rfl, rfl, rfl, rfl, rfl⟩
      · exact ⟨⟨rfl, rfl, rfl, rfl, rfl, rfl, rfl⟩, rfl, Or.inr ⟨rfl, ⟨_, rfl, Or.inr rfl⟩,
          fun _ _ _ => by simp [encode]⟩⟩

theorem Fifo.write (h : Fifo s) (fault : Option WriteFault) {frame : QueuedFrame}
    (hbusy : s.busy = some frame) : Fifo (s.write codec fault frame) := by
  obtain ⟨hsame, hdone, houtcome⟩ := write_cases codec fault frame s
  generalize s.write codec fault frame = t at hsame hdone houtcome
  have hworking : s.workerFinished = false := by
    cases hfinished : s.workerFinished with
    | false => rfl
    | true => simp [(h.staged.finished hfinished).1] at hbusy
  refine ⟨h.numbered.of_same hsame.received hsame.receivedFrameCount hsame.rejected
    hsame.latestFrameIndex, ⟨fun _ => ?_, fun hfinished => ?_⟩, fun herror => ?_,
    fun herror => ?_⟩
  · rw [hsame.queue, hsame.closeStage]
    exact h.staged.working hworking
  · rw [hsame.workerFinished, hworking] at hfinished
    cases hfinished
  · have hencodes := houtcome.resolve_left (not_not_intro herror)
    rw [hencodes.workerError] at herror
    obtain ⟨writer, hwriter, hkept⟩ := hencodes.writer
    have hopened : writer.2.2 = true := hkept.elim (h.writer herror writer) id
    have hall := h.frames herror
    rw [hbusy] at hall
    rw [hencodes.video writer hwriter hopened, hdone, hsame.queue, accepted, hsame.received,
      hsame.rejected]
    exact Eq.trans (by simp) hall
  · have hencodes := houtcome.resolve_left (not_not_intro herror)
    rw [hencodes.workerError] at herror
    obtain ⟨writer, hwriter, hkept⟩ := hencodes.writer
    intro other hother
    obtain rfl : other = writer := Option.some.inj (hother.symm.trans hwriter)
    exact hkept.elim (h.writer herror other) id

/-! ## Closing -/

theorem Fifo.close (h : Fifo s) (ht : s.closeStep = some t) : Fifo t := by
  rw [closeStep] at ht
  split at ht
  · rename_i hopened
    obtain rfl := Option.some.inj ht
    have hworking := h.staged.working_of_opened hopened
    obtain ⟨-, frames, hqueue⟩ := h.staged.working hworking
    rw [hopened] at hqueue
    exact ⟨h.numbered.of_same rfl rfl rfl rfl, ⟨fun _ => ⟨by simp, frames, hqueue⟩,
      fun hfinished => absurd (hworking.symm.trans hfinished) Bool.false_ne_true⟩, h.frames,
      h.writer⟩
  · rename_i hclosing
    split at ht
    · cases ht
    · obtain rfl := Option.some.inj ht
      have hworking : s.workerFinished = false := by
        cases hfinished : s.workerFinished with
        | false => rfl
        | true =>
          obtain ⟨-, -, hstage | hstage⟩ := h.staged.finished hfinished <;>
            simp [hclosing] at hstage
      obtain ⟨-, frames, hqueue⟩ := h.staged.working hworking
      rw [hclosing] at hqueue
      refine ⟨h.numbered.of_same rfl rfl rfl rfl, ⟨fun _ => ⟨by simp, frames, ?_⟩,
        fun hfinished => absurd (hworking.symm.trans hfinished) Bool.false_ne_true⟩,
        fun herror => ?_, h.writer⟩
      · simp [hqueue, sentinel]
      · have hall := h.frames herror
        rw [List.reduceOption_append]
        exact Eq.trans (by simp) hall
  · split at ht
    · rename_i hfinished
      obtain rfl := Option.some.inj ht
      obtain ⟨hbusy, hqueue, -⟩ := h.staged.finished hfinished
      refine ⟨h.numbered.of_same rfl rfl rfl rfl, ⟨fun hworking => ?_, fun _ => ?_⟩, h.frames,
        by simp⟩
      · exact absurd (hworking.symm.trans hfinished) Bool.false_ne_true
      · exact ⟨hbusy, hqueue, Or.inr rfl⟩
    · cases ht
  · cases ht

/-! ## Runs -/

theorem Fifo.step {label : Label} (h : Fifo s) (hnext : next codec s label = some t) : Fifo t := by
  cases label with
  | enqueue message now =>
    obtain rfl := Option.some.inj hnext
    exact h.enqueue message now
  | take => exact h.take hnext
  | write fault =>
    obtain ⟨frame, hbusy, rfl⟩ := Option.map_eq_some_iff.mp hnext
    exact h.write fault hbusy
  | close => exact h.close hnext

theorem receivedFrameCount_le_enqueue (message : CompressedImage) (now : ℤ)
    (s : VideoSink Img) : s.receivedFrameCount ≤ (s.enqueue message now).receivedFrameCount := by
  rw [VideoSink.enqueue]
  split
  · exact le_rfl
  · dsimp only
    split <;> exact Nat.le_succ _

theorem receivedFrameCount_le_closeStep (h : s.closeStep = some t) :
    s.receivedFrameCount ≤ t.receivedFrameCount := by
  rw [closeStep] at h
  split at h
  · obtain rfl := Option.some.inj h
    exact le_rfl
  · split at h
    · cases h
    · obtain rfl := Option.some.inj h
      exact le_rfl
  · split at h
    · obtain rfl := Option.some.inj h
      exact le_rfl
    · cases h
  · cases h

/-- Numbers are never given back. -/
theorem receivedFrameCount_le_of_next {label : Label} (h : next codec s label = some t) :
    s.receivedFrameCount ≤ t.receivedFrameCount := by
  cases label with
  | enqueue message now =>
    obtain rfl := Option.some.inj h
    exact receivedFrameCount_le_enqueue message now s
  | take =>
    obtain ⟨-, -, ⟨rest, -, rfl⟩ | ⟨frame, rest, -, rfl⟩⟩ := take_cases h <;> exact le_rfl
  | write fault =>
    obtain ⟨frame, -, rfl⟩ := Option.map_eq_some_iff.mp h
    exact (write_cases codec fault frame s).1.receivedFrameCount.ge
  | close => exact receivedFrameCount_le_closeStep h

/-- A close that returns normally has waited for a worker without error. -/
theorem Fifo.finished_of_closed (h : Fifo s) (hclosed : s.closeStage = .returned none) :
    s.busy = none ∧ s.queue = [] ∧ s.workerError = none := by
  have hfinished : s.workerFinished = true := by
    cases hworking : s.workerFinished with
    | true => rfl
    | false => exact absurd hclosed ((h.staged.working hworking).1 none)
  obtain ⟨hbusy, hqueue, hstage⟩ := h.staged.finished hfinished
  refine ⟨hbusy, hqueue, ?_⟩
  rw [hclosed] at hstage
  rcases hstage with hstage | hstage
  · cases hstage
  · exact (CloseStage.returned.inj hstage).symm

/-- After a close without error the MP4 holds exactly the accepted frames, in order. -/
theorem Fifo.video_eq_accepted (h : Fifo s) (hclosed : s.closeStage = .returned none) :
    s.video.map (·.source) = accepted s := by
  obtain ⟨hbusy, hqueue, herror⟩ := h.finished_of_closed hclosed
  have hall := h.frames herror
  rw [hbusy, hqueue] at hall
  exact Eq.trans (by simp) hall

/-- The frame of the MP4 at a position is the message of that number exactly when no message
up to that number met a full queue. -/
theorem Fifo.getElem?_video_iff (h : Fifo s) (hclosed : s.closeStage = .returned none) {i : ℕ}
    (hi : i < s.receivedFrameCount) :
    (s.video[i]?).map (·.source) = s.received[i]? ↔ ∀ j ≤ i, j ∉ s.rejected := by
  have hlength := h.numbered.length_received
  rw [← List.getElem?_map, h.video_eq_accepted hclosed, accepted,
    getElem?_filter_eq_iff h.numbered.nodup (by omega)]
  have htake : (s.received.take (i + 1)).map (·.frameIndex) = List.range (i + 1) := by
    rw [List.map_take, h.numbered.indices, List.take_range, Nat.min_eq_left (by omega)]
  constructor
  · intro hall j hj
    have hmem : j ∈ (s.received.take (i + 1)).map (·.frameIndex) := by
      rw [htake]
      exact List.mem_range.mpr (by omega)
    obtain ⟨frame, hframe, rfl⟩ := List.mem_map.mp hmem
    simpa using hall frame hframe
  · intro hall frame hframe
    have hmem : frame.frameIndex ∈ List.range (i + 1) := htake ▸ List.mem_map_of_mem hframe
    have hrejected := hall frame.frameIndex (Nat.lt_succ_iff.mp (List.mem_range.mp hmem))
    simpa using hrejected

end SmolVlaQgf.VideoFifo
