import SmolVlaQgf.ComparisonTable
import SmolVlaQgf.PairedCollection

/-!
# The table of paired sessions

Every commit of a session writes the notes of the policy it was run under. After any number
of paired sessions with the same notes, the table shows the commits by policy exactly when
those notes name no policy of their own or all commits are under the one they name.
-/

namespace SmolVlaQgf.ComparedSessions
open TransitionRuns FieldText CaptureValidation EpisodeDataset EpisodeFinalizer EpisodeCommit
  FinalizerEffects CollectionSession Session KeptEpisodes PairedCollection ComparisonTable

variable {K : Type}

/-! ## The directory a finalizer commits -/

def PastRename : Stage K → Prop
  | .renamed _ | .indexed _ _ | .summarized _ | .returned _ | .raised _ => True
  | _ => False

/-- The committed episodes stay and the rename is not repeated. -/
def LeavesEpisodes (d : Dataset K) (call : Dataset K × Stage K) : Prop :=
  call.1.episodes = d.episodes ∧ PastRename call.2

theorem LeavesEpisodes.attempt {faults : FileOp → Bool} {op : FileOp} {d d' : Dataset K}
    {call : Dataset K × Stage K} (hd : d'.episodes = d.episodes) (h : LeavesEpisodes d call) :
    LeavesEpisodes d (attempt faults op d' call) :=
  attempt_rule ⟨hd, trivial⟩ h

section Finalizer

variable [Zero K] [One K] {faults : FileOp → Bool} {args : FinalizeArgs} {d d' : Dataset K}

theorem PastRename.advance {stage : Stage K} (h : PastRename stage) (faults : FileOp → Bool)
    (args : FinalizeArgs) (d : Dataset K) :
    LeavesEpisodes d (advance faults args d stage) := by
  cases stage with
  | renamed index =>
    refine .attempt rfl ?_
    split
    · exact ⟨rfl, trivial⟩
    · exact .attempt rfl (.attempt rfl ⟨rfl, trivial⟩)
  | indexed index rows =>
    rw [EpisodeFinalizer.advance, rebuildSummary]
    split
    · exact ⟨rfl, trivial⟩
    · exact .attempt rfl (.attempt rfl ⟨rfl, trivial⟩)
  | summarized index => exact .attempt rfl ⟨rfl, trivial⟩
  | returned destination => exact ⟨rfl, trivial⟩
  | raised error => exact ⟨rfl, trivial⟩
  | _ => exact h.elim

/-- What comes after the rename leaves the committed episodes as they are. -/
theorem episodes_after_rename {index : ℕ} (h : after faults args d 5 = (d', .renamed index)) :
    (finalize faults args d).1.episodes = d'.episodes := by
  have hlast : ∀ n, 5 ≤ n → LeavesEpisodes d' (after faults args d n) := by
    intro n hn
    induction n, hn using Nat.le_induction with
    | base =>
      rw [h]
      exact ⟨rfl, trivial⟩
    | succ n hn ih =>
      rw [after_succ]
      have hnext := ih.2.advance faults args (after faults args d n).1
      exact ⟨hnext.1.trans ih.1, hnext.2⟩
  exact (hlast 8 (by omega)).1

/-- A call that gets through its rename adds one directory with its metadata, if every
committed directory has some. -/
theorem episodes_of_reachesRename (houtcome : args.outcome ≠ .discard)
    (hfiles : ∀ episode ∈ d.episodes, episode.files.metadata.isFile = true)
    (h : ReachesRename faults args d) :
    ∃ files tables, (finalize faults args d).1.episodes = d.episodes ++ [⟨nextName d, files⟩] ∧
      files.metadata = .content (episodeMetadata args tables (nextMonotonicIndex d.episodes)) := by
  rcases before_rename faults d houtcome with ⟨hfail, -⟩ | ⟨-, d', hcall, hmoved⟩
  · exact absurd h hfail
  · obtain ⟨files, tables, hmetadata, hnew⟩ := hmoved.episodes
    refine ⟨files, tables, ?_, hmetadata⟩
    rw [episodes_after_rename hcall]
    refine hnew fun episode hepisode hname => ?_
    have hempty := h.destination episode hepisode hname
    simp [EpisodeFiles.isEmpty, hfiles episode hepisode] at hempty

end Finalizer

/-! ## The commits of a session -/

section Session

variable {config : SessionConfig} {initialMode : PolicyMode} {quotas : PairedQuotas}
  {s t : Session K}

/-- All committed episodes carry the notes of the policies they were run under. -/
def Recorded (config : SessionConfig) (modes : List PolicyMode) (d : Dataset K) : Prop :=
  List.Forall₂ (RecordedUnder config) modes d.episodes

theorem Recorded.isFile {modes : List PolicyMode} {d : Dataset K} (h : Recorded config modes d) :
    ∀ episode ∈ d.episodes, episode.files.metadata.isFile = true := by
  intro episode hepisode
  obtain ⟨mode, hrecorded⟩ := exists_recorded h hepisode
  exact hrecorded.isFile

variable [Zero K] [One K]

private theorem finalizeCurrent_committed (stop : RoundStop) (outcome : EpisodeOutcome)
    (run : FinalizerRun) : (s.finalizeCurrent config stop outcome run).committed =
      if s.commits config stop outcome run then s.committed ++ [s.currentMode]
      else s.committed := by
  have hcount : ∀ u : Session K, (u.count config outcome).committed = u.committed := by
    intro u
    rw [Session.count]
    split
    · rfl
    · split <;> rfl
  rw [Session.finalizeCurrent]
  dsimp only
  split
  · split
    · exact hcount _
    · rfl
    · rfl
  · rfl

theorem Recorded.finalizeCurrent {modes : List PolicyMode}
    (h : Recorded config (modes ++ s.committed) s.dataset) (stop : RoundStop)
    (outcome : EpisodeOutcome) (run : FinalizerRun) :
    Recorded config (modes ++ (s.finalizeCurrent config stop outcome run).committed)
      (s.finalizeCurrent config stop outcome run).dataset := by
  rw [Recorded, finalizeCurrent_committed, finalizeCurrent_dataset, finalized]
  cases hcommits : s.commits config stop outcome run with
  | true =>
    have houtcome : (s.finalizeArgs config stop outcome run).outcome ≠ .discard := by
      rw [commits, Bool.and_eq_true, decide_eq_true_eq] at hcommits
      exact hcommits.1
    obtain ⟨files, tables, hepisodes, hmetadata⟩ :=
      episodes_of_reachesRename houtcome h.isFile (reachesRename_of_commits hcommits)
    rw [if_pos rfl, hepisodes, ← List.append_assoc]
    refine List.rel_append h (.cons ⟨?_, _, hmetadata, rfl, outcome, houtcome, rfl⟩ .nil)
    exact List.isPrefixOf_iff_prefix.mpr (List.prefix_append _ _)
  | false =>
    rw [if_neg Bool.false_ne_true, episodes_of_not_reachesRename]
    · exact h
    · intro houtcome hreach
      obtain ⟨staging, files, hstaging, hfiles, -⟩ := hreach.capture
      have hstaged : CurrentStaged s := ⟨staging, hstaging, by rw [hfiles, Option.isSome_some]⟩
      have hkept : outcome ≠ .discard := houtcome
      rw [(commits_iff_reachesRename hkept hstaged).mpr hreach] at hcommits
      cases hcommits

private theorem deleteCurrentEpisode_episodes (run : DeletionRun) :
    (s.deleteCurrentEpisode config run).episodes = s.dataset.episodes := by
  rw [deleteCurrentEpisode]
  split
  · rfl
  · split
    · split <;> rfl
    · exact episodes_of_not_reachesRename fun houtcome => absurd rfl houtcome

/-- Only a finalizer adds an episode. -/
theorem Recorded.step {modes : List PolicyMode} {label : Label K}
    (h : Recorded config (modes ++ s.committed) s.dataset)
    (hstep : Session.step config s label = some t) :
    Recorded config (modes ++ t.committed) t.dataset := by
  cases step_commitStep hstep with
  | finalized stop outcome run state =>
    rw [state]
    exact h.finalizeCurrent stop outcome run
  | kept committed episodes =>
    rw [Recorded, committed, episodes]
    exact h
  | deleted run committed dataset =>
    rw [Recorded, committed, dataset, deleteCurrentEpisode_episodes]
    exact h

/-- Every commit of a session is recorded under the policy of its round. -/
theorem recorded_of_run {modes : List PolicyMode} {dataset : Dataset K}
    (h : Recorded config modes dataset) {labels : List (Label K)}
    (hrun : Run (Steps (Session.step config)) (.start config dataset) labels s) :
    Recorded config (modes ++ s.committed) s.dataset := by
  refine hrun.invariant (I := fun s => Recorded config (modes ++ s.committed) s.dataset)
    (fun _ _ _ hstep hs => hs.step hstep) ?_
  rw [start, List.append_nil]
  exact h

/-- After a paired session the table shows the outcomes of all commits under the policies they
were run under exactly when the notes of the session name no policy, or the one that all
commits were run under. -/
theorem comparison_counts_iff (config : SessionConfig) (initialMode : PolicyMode)
    (quotas : PairedQuotas) (hplan : config.plan = .paired initialMode quotas)
    (modes : List PolicyMode) (dataset : Dataset K) (hdataset : Recorded config modes dataset)
    (labels : List (Label K)) (s : Session K)
    (hrun : Run (Steps (Session.step config)) (.start config dataset) labels s) :
    (∀ mode, collect s.dataset [] mode =
        lineOf (outcomesUnder mode (modes ++ s.committed) s.dataset.episodes)) ↔
      ∀ named, searchMode config.notes.toList = some named →
        ∀ mode ∈ modes ++ s.committed, mode = named :=
  collect_iff_of_recorded hplan (recorded_of_run hdataset hrun)

end Session

/-! ## Concrete sessions -/

def qgfFirst (notes : String) : SessionConfig := ⟨.paired .qgf oneOfEach, "", notes, "180"⟩

private theorem recorded_emptyDataset (config : SessionConfig) :
    Recorded config [] emptyDataset := .nil

theorem plain_notes_counted :
    ∃ s : Session ℚ, s.committed = [.qgf] ∧
      ((∀ mode, collect s.dataset [] mode =
          lineOf (outcomesUnder mode ([] ++ s.committed) s.dataset.episodes)) ↔
        ∀ named, searchMode (qgfFirst "evening").notes.toList = some named →
          ∀ mode ∈ [] ++ s.committed, mode = named) := by
  obtain ⟨s, hrun, hcommitted⟩ := exists_run_of_execute (Session.step (qgfFirst "evening"))
    (.start (qgfFirst "evening") emptyDataset) savedRound
    (fun s => decide (s.committed = [.qgf])) (by decide +kernel)
  exact ⟨s, of_decide_eq_true hcommitted, comparison_counts_iff (qgfFirst "evening") .qgf oneOfEach
    rfl [] emptyDataset (recorded_emptyDataset _) savedRound s hrun⟩

/-- Notes copied from a baseline run: the episode of the guided policy is counted for the
baseline. -/
theorem copied_notes_miscounted :
    ∃ s : Session ℚ, Run (Steps (Session.step (qgfFirst "policy_mode=baseline; repeated")))
        (.start (qgfFirst "policy_mode=baseline; repeated") emptyDataset) savedRound s ∧
      Recorded (qgfFirst "policy_mode=baseline; repeated") s.committed s.dataset ∧
      ¬∀ mode, collect s.dataset [] mode =
        lineOf (outcomesUnder mode s.committed s.dataset.episodes) := by
  obtain ⟨s, hrun, hcounts⟩ := exists_run_of_execute
    (Session.step (qgfFirst "policy_mode=baseline; repeated"))
    (.start (qgfFirst "policy_mode=baseline; repeated") emptyDataset) savedRound
    (fun s => decide (collect s.dataset [] .qgf ≠
      lineOf (outcomesUnder .qgf s.committed s.dataset.episodes))) (by decide +kernel)
  refine ⟨s, hrun, ?_, fun htable => of_decide_eq_true hcounts (htable .qgf)⟩
  exact recorded_of_run (recorded_emptyDataset _) hrun

end SmolVlaQgf.ComparedSessions
