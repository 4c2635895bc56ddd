import SmolVlaQgf.EpisodeCommit
import SmolVlaQgf.ResourceInvariants

/-!
# Concurrent finalizers

Any number of `finalize` calls on one dataset, interleaved stage by stage. The lock is held
from the allocation of an index to the summary and is released when a call returns or raises.
Two histories record the allocated indices and the committed directories.
-/

namespace SmolVlaQgf.ConcurrentFinalizers
open TransitionRuns ResourceInvariants FieldText EpisodeRecorder CaptureValidation
  TransitionTable EpisodeDataset EpisodeFinalizer EpisodeCommit

/-! ## The system -/

/-- An allocated index, with the indices that were present at that time. -/
structure Allocation (ι : Type) where
  caller : ι
  index : ℕ
  present : List ℕ

/-- A directory that was renamed to its final place. -/
structure Commit (ι : Type) where
  caller : ι
  index : ℕ
  deriving DecidableEq

def Allocation.commit {ι : Type} (allocation : Allocation ι) : Commit ι :=
  ⟨allocation.caller, allocation.index⟩

structure Shared (ι K : Type) where
  dataset : Dataset K
  allocations : List (Allocation ι)
  commits : List (Commit ι)

/-- The calls, the owner of the lock and what they share. -/
abbrev System (ι K : Type) : Type := LockState ι (Shared ι K) (Stage K)

variable {ι K : Type}

def holdsLock : Stage K → Bool
  | .locked _ => true
  | .allocated _ => true
  | .renamed _ => true
  | .indexed _ _ => true
  | .summarized _ => true
  | _ => false

/-- The stages in which the next thing to do is to take the lock. -/
def awaitsLock : Stage K → Bool
  | .waiting _ => true
  | _ => false

def finished : Stage K → Bool
  | .returned _ => true
  | .raised _ => true
  | _ => false

def record (i : ι) (stage : Stage K) (dataset : Dataset K) (s : Shared ι K) : Shared ι K where
  dataset
  allocations := match stage with
    | .allocated index => s.allocations ++ [⟨i, index, existingIndices s.dataset.episodes⟩]
    | _ => s.allocations
  commits := match stage with
    | .renamed index => s.commits ++ [⟨i, index⟩]
    | _ => s.commits

def initial (d : Dataset K) : System ι K where
  shared := ⟨d, [], []⟩
  lock := none
  stage := fun _ => .started

section Steps

variable [DecidableEq ι] [Zero K] [One K]

/-- One call does its next stage while some operations raise. `flock` waits for the lock
unless it raises. -/
def next (args : ι → FinalizeArgs) (s : System ι K) (label : ι × (FileOp → Bool)) :
    Option (System ι K) :=
  let stage := s.stage label.1
  if finished stage || (awaitsLock stage && s.lock.isSome && !label.2 .lock) then none
  else
    let call := advance label.2 (args label.1) s.shared.dataset stage
    some {
      shared := record label.1 call.2 call.1 s.shared
      lock := lockAfter s.lock label.1 (holdsLock call.2)
      stage := Function.update s.stage label.1 call.2 }

end Steps

/-! ## What one stage does -/

section Progress

inductive Progress (args : FinalizeArgs) (d : Dataset K) :
    Stage K → Dataset K → Stage K → Prop where
  | discarded {staging : Text} {removed : Option (EpisodeFiles K)}
      (hstaging : args.staging = some staging) (houtcome : args.outcome = .discard) :
      Progress args d .started
        { d with staging := Function.update d.staging staging removed } (.returned none)
  | validated {staging : Text} {files : EpisodeFiles K} {samples : List (SampleRow K)}
      {capture : CaptureSummary} (hstaging : args.staging = some staging)
      (houtcome : args.outcome ≠ .discard) (hstaged : d.staging staging = some files) :
      Progress args d .started d (.validated samples capture)
  | tabulated {samples : List (SampleRow K)} {capture : CaptureSummary} {tables : Tabulated}
      {f : EpisodeFiles K → EpisodeFiles K} (hf : ∀ files, (f files).capture = files.capture) :
      Progress args d (.validated samples capture) (writeStaging (args.staging.getD []) f d)
        (.waiting tables)
  | locked {tables : Tabulated} : Progress args d (.waiting tables) d (.locked tables)
  | allocated {tables : Tabulated} : Progress args d (.locked tables)
      (writeStaging (args.staging.getD []) (fun files => { files with
        metadata := .content (episodeMetadata args tables (nextMonotonicIndex d.episodes)) }) d)
      (.allocated (nextMonotonicIndex d.episodes))
  | renamed {index : ℕ} {d' : Dataset K}
      (hreplace : replaceStaging (args.staging.getD []) (episodeName index) d = some d') :
      Progress args d (.allocated index) d' (.renamed index)
  | indexed {index : ℕ} : Progress args d (.renamed index)
      { d with manifest := some (committedRows d.episodes), manifestTmp := none }
      (.indexed index (committedRows d.episodes))
  | summarized {index : ℕ} {rows : List ManifestRow} {transitions : ℤ}
      (htotal : totalTransitions rows = some transitions) :
      Progress args d (.indexed index rows)
        { d with summary := some (datasetSummary rows transitions args.updatedAtUtc),
                 summaryTmp := none } (.summarized index)
  | returned {index : ℕ} : Progress args d (.summarized index) d
      (.returned (some (episodeName index)))

variable {faults : FileOp → Bool} {args : FinalizeArgs} {d d' : Dataset K} {stage stage' : Stage K}

def Sound (stage : Stage K) : Prop := ∀ error, stage ≠ .raised error

def Proceeds (args : FinalizeArgs) (d : Dataset K) (stage : Stage K) (call : Dataset K × Stage K) :
    Prop := Sound call.2 → Progress args d stage call.1 call.2

theorem Proceeds.raised (error : FinalizeError) : Proceeds args d stage (d', .raised error) :=
  fun hsound => absurd rfl (hsound error)

theorem Proceeds.attempt {op : FileOp} {call : Dataset K × Stage K}
    (h : Proceeds args d stage call) : Proceeds args d stage (attempt faults op d' call) :=
  attempt_rule (.raised _) h

private theorem writeStaging_writeStaging (staging : Text) (f g : EpisodeFiles K → EpisodeFiles K)
    (d : Dataset K) : writeStaging staging g (writeStaging staging f d) =
      writeStaging staging (g ∘ f) d := by
  simp only [writeStaging, Function.update_self, Function.update_idem, Option.map_map]

private theorem proceeds_validate (faults : FileOp → Bool) (args : FinalizeArgs) (d : Dataset K) :
    Proceeds args d .started (validate faults args d) := by
  rw [validate]
  cases hstaging : args.staging with
  | none => exact .raised _
  | some staging =>
    dsimp only
    by_cases houtcome : args.outcome = .discard
    · rw [if_pos houtcome]
      intro _
      split
      · have hsame : Progress args d .started
            { d with staging := Function.update d.staging staging (d.staging staging) }
            (.returned none) := .discarded hstaging houtcome
        rwa [Function.update_eq_self] at hsame
      · exact .discarded hstaging houtcome
    · rw [if_neg houtcome]
      apply Proceeds.attempt
      cases hstaged : d.staging staging with
      | none => exact .raised _
      | some files =>
        dsimp only
        cases validateCapture files.capture with
        | error error => exact .raised _
        | ok validated => exact fun _ => .validated hstaging houtcome hstaged

private theorem proceeds_tabulate [Zero K] [One K] (faults : FileOp → Bool) (args : FinalizeArgs)
    (d : Dataset K) (samples : List (SampleRow K)) (capture : CaptureSummary) :
    Proceeds args d (.validated samples capture)
      (tabulate faults args d (args.staging.getD []) samples capture) := by
  rw [tabulate]
  cases buildTransitions samples (decide (args.outcome = .success)) args.task with
  | none => exact .raised _
  | some transitions =>
    refine .attempt (.attempt (.attempt (.attempt (.attempt (.attempt (.attempt fun _ => ?_))))))
    rw [writeStaging_writeStaging, writeStaging_writeStaging]
    exact .tabulated fun _ => rfl

private theorem proceeds_rename (faults : FileOp → Bool) (args : FinalizeArgs) (d : Dataset K)
    (index : ℕ) :
    Proceeds args d (.allocated index) (rename faults d (args.staging.getD []) index) := by
  rw [rename]
  apply Proceeds.attempt
  cases hreplace : replaceStaging (args.staging.getD []) (episodeName index) d with
  | none => exact .raised _
  | some d' => exact fun _ => .renamed hreplace

private theorem proceeds_rebuildManifest (faults : FileOp → Bool) (args : FinalizeArgs)
    (d : Dataset K)
    (index : ℕ) : Proceeds args d (.renamed index) (rebuildManifest faults d index) := by
  rw [rebuildManifest]
  apply Proceeds.attempt
  cases hrows : manifestRows (fun name => faults (.readMetadata name))
      (sortedEpisodes d.episodes) with
  | error name => exact .raised _
  | ok rows =>
    obtain ⟨-, rfl⟩ := manifestRows_eq_ok_iff.mp hrows
    exact .attempt (.attempt fun _ => .indexed)

private theorem proceeds_rebuildSummary (faults : FileOp → Bool) (args : FinalizeArgs)
    (d : Dataset K)
    (index : ℕ) (rows : List ManifestRow) :
    Proceeds args d (.indexed index rows) (rebuildSummary faults args d index rows) := by
  rw [rebuildSummary]
  cases htotal : totalTransitions rows with
  | none => exact .raised _
  | some transitions => exact .attempt (.attempt fun _ => .summarized htotal)

/-- A stage that does not raise makes progress. -/
theorem proceeds_advance [Zero K] [One K] (faults : FileOp → Bool) (args : FinalizeArgs)
    (d : Dataset K) (hlive : finished stage = false) :
    Proceeds args d stage (advance faults args d stage) := by
  cases stage with
  | started => exact proceeds_validate faults args d
  | validated samples capture => exact proceeds_tabulate faults args d samples capture
  | waiting tables => exact .attempt fun _ => .locked
  | locked tables => exact .attempt (.attempt fun _ => .allocated)
  | allocated index => exact proceeds_rename faults args d index
  | renamed index => exact proceeds_rebuildManifest faults args d index
  | indexed index rows => exact proceeds_rebuildSummary faults args d index rows
  | summarized index => exact .attempt fun _ => .returned
  | returned destination => cases hlive
  | raised error => cases hlive

theorem Progress.eq_waiting (h : Progress args d stage d' stage')
    (houtside : holdsLock stage = false) (hinside : holdsLock stage' = true) :
    ∃ tables, stage = .waiting tables := by
  cases h with
  | locked => exact ⟨_, rfl⟩
  | discarded | validated | tabulated => cases hinside
  | allocated | renamed | indexed | summarized | returned => cases houtside

end Progress

/-! ## Runs without exceptions -/

section Moves

variable (args : ι → FinalizeArgs)

/-- A call makes progress, and the indices stay below a million. -/
structure Move (i : ι) (s : Shared ι K) (stage : Stage K) (s' : Shared ι K) (stage' : Stage K) :
    Prop where
  progress : ∃ d', Progress (args i) s.dataset stage d' stage' ∧ s' = record i stage' d' s
  bounded : ∀ allocation ∈ s'.allocations, allocation.index < 10 ^ 6

/-- No call has raised, and the indices are below a million. -/
structure Regular (s : System ι K) : Prop where
  sound : ∀ i, Sound (s.stage i)
  bounded : ∀ allocation ∈ s.shared.allocations, allocation.index < 10 ^ 6

variable {args} [DecidableEq ι] [Zero K] [One K] {s t : System ι K} {i : ι}
  {label : ι × (FileOp → Bool)}

omit [DecidableEq ι] [Zero K] [One K] in
private theorem mem_record_allocations {stage : Stage K} {d : Dataset K} {s : Shared ι K}
    {allocation : Allocation ι} (h : allocation ∈ s.allocations) :
    allocation ∈ (record i stage d s).allocations := by
  dsimp only [record]
  split
  · exact List.mem_append_left _ h
  · exact h

/-- A call that raised stays there and allocations are kept. -/
theorem regular_of_next (hnext : next args s label = some t) (h : Regular t) : Regular s := by
  simp only [next, Option.ite_none_left_eq_some, Bool.or_eq_true, not_or,
    Option.some.injEq] at hnext
  obtain ⟨⟨hlive, -⟩, rfl⟩ := hnext
  refine ⟨fun i => ?_, fun allocation hmem => h.bounded allocation (mem_record_allocations hmem)⟩
  by_cases hi : i = label.1
  · subst hi
    intro error hraised
    rw [hraised] at hlive
    exact hlive rfl
  · have hsound := h.sound i
    dsimp only at hsound
    rwa [Function.update_of_ne hi] at hsound

/-- Every step towards a regular state is a move under the lock. -/
theorem lockStep_of_next (hnext : next args s label = some t) (h : Regular t) :
    LockStep holdsLock (Move args) s label.1 t := by
  simp only [next, Option.ite_none_left_eq_some, Bool.or_eq_true, not_or, Bool.and_eq_true,
    Option.some.injEq] at hnext
  obtain ⟨⟨hlive, hfree⟩, rfl⟩ := hnext
  have hsound := h.sound label.1
  dsimp only at hsound
  rw [Function.update_self] at hsound
  have hprogress := proceeds_advance label.2 (args label.1) s.shared.dataset
    (Bool.eq_false_iff.mpr hlive) hsound
  refine .moved ⟨⟨_, hprogress, rfl⟩, h.bounded⟩ fun houtside hinside => ?_
  obtain ⟨tables, hwaiting⟩ := hprogress.eq_waiting houtside hinside
  rw [hwaiting] at hfree hsound
  cases hlock : s.lock with
  | none => rfl
  | some j =>
    have hfault : label.2 .lock = true := by simpa [awaitsLock, hlock] using hfree
    rw [advance, attempt, if_pos hfault] at hsound
    exact absurd rfl (hsound _)

/-- A run to a regular state consists of moves under the lock. -/
theorem moves_of_run {ls : List (ι × (FileOp → Bool))}
    (hrun : Run (Steps (next args)) s ls t) (h : Regular t) :
    Run (fun s label t => Steps (next args) s label t ∧ Regular t) s ls t := by
  induction hrun with
  | nil => exact .nil
  | snoc run last ih => exact (ih (regular_of_next last h)).snoc ⟨last, h⟩

end Moves

end SmolVlaQgf.ConcurrentFinalizers
