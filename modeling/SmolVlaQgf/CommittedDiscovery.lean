import SmolVlaQgf.DiscoveredEpisodes
import SmolVlaQgf.FinalizerEffects
import SmolVlaQgf.TransitionRuns

/-!
# Discovery after finalizers

The finalizer writes the transition table in the staging directory and renames the directory
later. The files a trainer discovers are those of the committed episodes as long as no call is
stopped between the two operations.
-/

namespace SmolVlaQgf.CommittedDiscovery
open TransitionRuns DecimalText FieldText CaptureValidation TransitionTable EpisodeDataset
  EpisodeFinalizer EpisodeCommit FinalizerEffects DiscoveredEpisodes

variable {K : Type}

/-! ## One state of the dataset -/

/-- The committed directories have their names from the finalizer, no name twice, and each has
a transition table. -/
structure CommittedTables (d : Dataset K) : Prop where
  named : ∀ episode ∈ d.episodes, ∃ index, episode.name = episodeName index
  tables : ∀ episode ∈ d.episodes, episode.files.transitions.isSome = true
  nodup : (d.episodes.map (·.name)).Nodup

/-- No staged directory has a transition table. -/
def Untabled (d : Dataset K) : Prop :=
  ∀ name files, d.staging name = some files → files.transitions = none

def UnmatchedStaging (d : Dataset K) : Prop :=
  ∀ name, (d.staging name).isSome = true → Unmatched name

private theorem unmatched_episodeName (index : ℕ) : Unmatched (episodeName index) := by
  have hdigits : ∀ c ∈ zeroFilled 6 index, isDigit c = true := fun c hc =>
    isDigit_of_mem_zeroFilled hc
  refine ⟨?_, ?_⟩
  · rw [isEpisodeTensor, suffix?_episodeName, Option.any_some, Bool.eq_false_iff, ne_eq,
      List.isSuffixOf_iff_suffix]
    intro hsuffix
    exact absurd (hdigits '.' (hsuffix.subset (by decide))) (by decide)
  · rw [isTransitionTable, beq_eq_false_iff_ne]
    intro hname
    have hhead : some 'e' = some 't' := congrArg List.head? hname
    exact absurd hhead (by decide)

section State

variable {d : Dataset K}

private theorem filter_rootTable (pattern : Text → Bool)
    (h : ∀ name ∈ (rootTable (K := Unit)).map Prod.fst, pattern name.toList = false) :
    (rootTable (K := K)).filter (fun entry => pattern entry.1.toList) = [] :=
  List.filter_eq_nil_iff.mpr fun entry hentry => by
    have hname : entry.1 ∈ (rootTable (K := K)).map Prod.fst := List.mem_map_of_mem hentry
    simp [h entry.1 hname]

theorem rglob_tree (pattern : Text → Bool) (staged : List Text)
    (hroot : ((rootTable (K := K)).filter fun entry => pattern entry.1.toList) = []) :
    rglob pattern (tree d staged) =
      d.episodes.flatMap (fun episode => rglob pattern
        (directoryTree (committedPath episode.name) episode.files)) ++
      staged.flatMap fun name => rglob pattern (stagedTree d name) := by
  have hnames : rglob pattern ((present rootTable d).map ([·])) = [] := by
    have hmap := rglob_map_append pattern [] (present rootTable d)
    rw [filter_present, hroot] at hmap
    exact hmap
  rw [tree, rglob_append, rglob_append, hnames, List.nil_append, rglob_flatMap, rglob_flatMap]

private theorem rglob_tensor_tree (h : CommittedTables d) (hstaged : UnmatchedStaging d)
    (staged : List Text) : rglob isEpisodeTensor (tree d staged) = [] := by
  rw [rglob_tree _ _ (filter_rootTable isEpisodeTensor (by decide))]
  have hcommitted : ∀ episode ∈ d.episodes, rglob isEpisodeTensor
      (directoryTree (committedPath episode.name) episode.files) = [] := by
    intro episode hepisode
    obtain ⟨index, hindex⟩ := h.named episode hepisode
    exact rglob_tensor_directoryTree ["episodes".toList] _
      (hindex ▸ (unmatched_episodeName index).1)
  have hstaging : ∀ name ∈ staged, rglob isEpisodeTensor (stagedTree d name) = [] := by
    intro name hname
    rw [stagedTree]
    split
    · rename_i files hfiles
      exact rglob_tensor_directoryTree [".staging".toList] _
        (hstaged name (by rw [hfiles, Option.isSome_some])).1
    · rfl
  rw [List.flatMap_eq_nil_iff.mpr hcommitted, List.flatMap_eq_nil_iff.mpr hstaging, List.nil_append]

def committedTables (d : Dataset K) : List Path :=
  d.episodes.map fun episode => tableOf (committedPath episode.name)

private theorem rglob_table_tree (h : CommittedTables d) (huntabled : Untabled d)
    (hstaged : UnmatchedStaging d) (staged : List Text) :
    rglob isTransitionTable (tree d staged) = committedTables d := by
  rw [rglob_tree _ _ (filter_rootTable isTransitionTable (by decide))]
  have hcommitted : d.episodes.flatMap (fun episode => rglob isTransitionTable
      (directoryTree (committedPath episode.name) episode.files)) = committedTables d := by
    rw [committedTables, List.map_eq_flatMap]
    refine List.flatMap_congr fun episode hepisode => ?_
    obtain ⟨index, hindex⟩ := h.named episode hepisode
    have htable := rglob_table_directoryTree ["episodes".toList] episode.files
      (hindex ▸ (unmatched_episodeName index).2 : isTransitionTable episode.name = false)
    rw [h.tables episode hepisode, if_pos rfl] at htable
    exact htable
  have hstaging : ∀ name ∈ staged, rglob isTransitionTable (stagedTree d name) = [] := by
    intro name hname
    rw [stagedTree]
    split
    · rename_i files hfiles
      have htable := rglob_table_directoryTree [".staging".toList] files
        (hstaged name (by rw [hfiles, Option.isSome_some])).2
      rw [huntabled name files hfiles] at htable
      exact htable
    · rfl
  rw [hcommitted, List.flatMap_eq_nil_iff.mpr hstaging, List.append_nil]

private theorem committedTables_nodup (h : CommittedTables d) : (committedTables d).Nodup := by
  have hinjective : Function.Injective fun name => tableOf (committedPath name) := by
    intro a b hab
    simpa [tableOf, committedPath] using hab
  have hmap : committedTables d =
      (d.episodes.map (·.name)).map fun name => tableOf (committedPath name) := by
    rw [committedTables, List.map_map]
    rfl
  rw [hmap]
  exact h.nodup.map hinjective

/-- Without tables and matching names under `.staging`, the discovery finds the tables of the
committed directories, each once. -/
theorem discover_perm (h : CommittedTables d) (huntabled : Untabled d)
    (hstaged : UnmatchedStaging d) (staged : List Text) :
    (discoverEpisodeFiles (tree d staged)).Perm (committedTables d) := by
  rw [discoverEpisodeFiles, rglob_tensor_tree h hstaged, rglob_table_tree h huntabled hstaged,
    List.nil_append]
  exact List.mergeSort_perm _ _

/-- A table under `.staging` is found wherever it comes from. -/
theorem staged_table_discovered {name : Text} {files : EpisodeFiles K}
    (hfiles : d.staging name = some files) (htable : files.transitions.isSome = true)
    (listing : StagingListing d) :
    tableOf (stagedPath name) ∈ discoverEpisodeFiles (tree d listing.names) := by
  have hname : name ∈ listing.names := (listing.mem_iff name).mpr (by rw [hfiles]; rfl)
  have htree : tableOf (stagedPath name) ∈ tree d listing.names := by
    refine List.mem_append_right _ (List.mem_flatMap.mpr ⟨name, hname, ?_⟩)
    rw [stagedTree, hfiles]
    refine List.mem_cons_of_mem _ (List.mem_map.mpr ⟨"transitions.parquet".toList, ?_, rfl⟩)
    refine List.mem_map.mpr
      ⟨("transitions.parquet", fun files => files.transitions.isSome), ?_, rfl⟩
    exact List.mem_filter.mpr ⟨by simp [entryTable], htable⟩
  have hfound : tableOf (stagedPath name) ∈ rglob isTransitionTable (tree d listing.names) :=
    List.mem_filter.mpr ⟨htree, by simp [tableOf, isTransitionTable]⟩
  exact ((List.mergeSort_perm _ _).mem_iff).mpr (List.mem_append_right _ hfound)

private theorem not_committed_of_staged (name : Text) :
    tableOf (stagedPath name) ∉ committedTables d := by
  intro hmem
  obtain ⟨episode, -, hpath⟩ := List.mem_map.mp hmem
  have hhead := congrArg List.head? hpath
  exact absurd (Option.some.inj hhead) (by decide)

end State

/-! ## What a finalizer does to the tables -/

/-- The staged directory of a call has its table, if it is there. -/
def Tabled (args : FinalizeArgs) (d : Dataset K) : Prop :=
  ∀ files, d.staging (target args) = some files → files.transitions.isSome = true

/-- The stages between the table and the rename. -/
def Tabulating : Stage K → Prop
  | .waiting _ | .locked _ | .allocated _ => True
  | _ => False

/-- The committed directories keep their tables, and what is renamed has one. -/
def KeepsTables (args : FinalizeArgs) (call : Dataset K × Stage K) : Prop :=
  CommittedTables call.1 ∧ (Tabulating call.2 → Tabled args call.1)

theorem CommittedTables.of_episodes {d d' : Dataset K} (h : CommittedTables d)
    (hepisodes : d'.episodes = d.episodes) : CommittedTables d' where
  named := hepisodes ▸ h.named
  tables := hepisodes ▸ h.tables
  nodup := hepisodes ▸ h.nodup

/-- A rename adds a directory with a name of its own. -/
theorem CommittedTables.rename {d d' : Dataset K} (h : CommittedTables d) {staging : Text}
    {index : ℕ} (htable : ∀ files, d.staging staging = some files →
      files.transitions.isSome = true)
    (hreplaced : replaceStaging staging (episodeName index) d = some d') : CommittedTables d' := by
  obtain ⟨files, hfiles, ⟨hfresh, rfl⟩ | ⟨⟨episode, hepisode, hname⟩, hempty, -⟩⟩ :=
    replaceStaging_cases hreplaced
  · refine ⟨?_, ?_, ?_⟩
    · intro episode hepisode
      rcases List.mem_append.mp hepisode with hold | hnew
      · exact h.named episode hold
      · obtain rfl := List.mem_singleton.mp hnew
        exact ⟨index, rfl⟩
    · intro episode hepisode
      rcases List.mem_append.mp hepisode with hold | hnew
      · exact h.tables episode hold
      · obtain rfl := List.mem_singleton.mp hnew
        exact htable files hfiles
    · dsimp only
      rw [List.map_append, List.nodup_append]
      refine ⟨h.nodup, List.nodup_singleton _, ?_⟩
      intro name hname other hother
      obtain ⟨episode, hepisode, rfl⟩ := List.mem_map.mp hname
      rw [List.map_singleton, List.mem_singleton] at hother
      exact hother ▸ hfresh episode hepisode
  · -- a directory that has a table is not empty
    have hall := hempty episode hepisode hname
    have hnone : episode.files.transitions = none := by
      simp only [EpisodeFiles.isEmpty, Bool.and_eq_true, Option.isNone_iff_eq_none] at hall
      tauto
    have htables := h.tables episode hepisode
    rw [hnone] at htables
    cases htables

theorem KeepsTables.attempt {faults : FileOp → Bool} {args : FinalizeArgs} {op : FileOp}
    {d : Dataset K} {call : Dataset K × Stage K} (hd : CommittedTables d)
    (h : KeepsTables args call) : KeepsTables args (attempt faults op d call) :=
  attempt_rule ⟨hd, False.elim⟩ h

private theorem tabled_writeStaging {args : FinalizeArgs} {d : Dataset K}
    {f : EpisodeFiles K → EpisodeFiles K}
    (h : ∀ files, d.staging (target args) = some files → (f files).transitions.isSome = true) :
    Tabled args (writeStaging (target args) f d) := by
  intro files hfiles
  rw [writeStaging_self] at hfiles
  obtain ⟨before, hbefore, rfl⟩ := Option.map_eq_some_iff.mp hfiles
  exact h before hbefore

/-- What is written beside the table leaves it there. -/
theorem Tabled.write {args : FinalizeArgs} {d : Dataset K} (h : Tabled args d)
    {f : EpisodeFiles K → EpisodeFiles K}
    (hf : ∀ files, (f files).transitions = files.transitions) :
    Tabled args (writeStaging (target args) f d) :=
  tabled_writeStaging fun files hfiles => by rw [hf, h files hfiles]

section Finalizer

variable [Zero K] [One K] {faults : FileOp → Bool} {args : FinalizeArgs} {d : Dataset K}

private theorem tabulate_keepsTables (h : CommittedTables d)
    (samples : List (EpisodeRecorder.SampleRow K))
    (capture : CaptureSummary) :
    KeepsTables args (tabulate faults args d (target args) samples capture) := by
  rw [tabulate]
  cases buildTransitions samples (decide (args.outcome = .success)) args.task with
  | none => exact ⟨h, False.elim⟩
  | some transitions =>
    have h₁ : Tabled args (writeStaging (target args) (fun files => { files with
        transitions := some transitions }) d) := tabled_writeStaging fun _ _ => rfl
    have h₂ := h₁.write (f := fun files => { files with
      normalizedPolicyChunks := some (rereadRows files.capture.chunks) }) fun _ => rfl
    have h₃ := h₂.write (f := fun files => { files with
      policyObservations := some (rereadRows files.capture.policyObservations) }) fun _ => rfl
    have hsame : ∀ {d'}, d'.episodes = d.episodes → CommittedTables d' := h.of_episodes
    exact .attempt h (.attempt (hsame rfl) (.attempt (hsame rfl) (.attempt (hsame rfl)
      (.attempt (hsame rfl) (.attempt (hsame rfl) (.attempt (hsame rfl)
        ⟨hsame rfl, fun _ => h₃⟩))))))

omit [Zero K] [One K] in
private theorem validate_keepsTables (h : CommittedTables d) :
    KeepsTables args (validate faults args d) := by
  rw [validate]
  split
  · exact ⟨h, False.elim⟩
  · split
    · refine ⟨h.of_episodes ?_, False.elim⟩
      dsimp only
      split <;> rfl
    · refine .attempt h ?_
      split
      · exact ⟨h, False.elim⟩
      · split <;> exact ⟨h, False.elim⟩

theorem KeepsTables.advance {stage : Stage K} (h : KeepsTables args (d, stage)) :
    KeepsTables args (advance faults args d stage) := by
  obtain ⟨hd, htabled⟩ := h
  cases stage with
  | started => exact validate_keepsTables hd
  | validated samples capture => exact tabulate_keepsTables hd samples capture
  | waiting tables => exact .attempt hd ⟨hd, fun _ => htabled trivial⟩
  | locked tables =>
    exact .attempt hd (.attempt hd
      ⟨hd.of_episodes rfl, fun _ => (htabled trivial).write fun _ => rfl⟩)
  | allocated index =>
    refine .attempt hd ?_
    split
    · exact ⟨hd, False.elim⟩
    · exact ⟨hd.rename (htabled trivial) ‹_›, False.elim⟩
  | renamed index =>
    refine .attempt hd ?_
    split
    · exact ⟨hd, False.elim⟩
    · exact .attempt hd (.attempt (hd.of_episodes rfl) ⟨hd.of_episodes rfl, False.elim⟩)
  | indexed index rows =>
    rw [EpisodeFinalizer.advance, rebuildSummary]
    split
    · exact ⟨hd, False.elim⟩
    · exact .attempt hd (.attempt (hd.of_episodes rfl) ⟨hd.of_episodes rfl, False.elim⟩)
  | summarized index => exact .attempt hd ⟨hd, False.elim⟩
  | returned destination => exact ⟨hd, False.elim⟩
  | raised error => exact ⟨hd, False.elim⟩

/-- After any call, whether it returns or raises, the committed directories have their tables. -/
theorem CommittedTables.finalize (h : CommittedTables d) :
    CommittedTables (finalize faults args d).1 := by
  have hall : ∀ n, KeepsTables args (after faults args d n) := by
    intro n
    induction n with
    | zero => exact ⟨h, False.elim⟩
    | succ n ih =>
      rw [after_succ]
      exact ih.advance
  exact (hall 8).1

/-! ## The calls that leave a table behind -/

structure WritesTable (faults : FileOp → Bool) (args : FinalizeArgs) (d : Dataset K) : Prop where
  outcome : args.outcome ≠ .discard
  capture : CaptureValid args d
  read : faults .readCapture = false
  write : faults .writeTransitions = false

/-- A call that writes the table gets through its rename. -/
def TableLeaves (faults : FileOp → Bool) (args : FinalizeArgs) (d : Dataset K) : Prop :=
  WritesTable faults args d → ReachesRename faults args d

omit [Zero K] [One K] in
private theorem validate_fst (houtcome : args.outcome ≠ .discard) :
    (validate faults args d).1 = d := by
  rw [validate]
  split
  · rfl
  · rw [if_neg houtcome, EpisodeFinalizer.attempt]
    split
    · rfl
    · split
      · rfl
      · split <;> rfl

/-- A call that does not get as far as writing the table changes nothing. -/
theorem finalize_of_not_writesTable (houtcome : args.outcome ≠ .discard)
    (h : ¬WritesTable faults args d) : (finalize faults args d).1 = d := by
  have hone : after faults args d 1 = validate faults args d := rfl
  have hfirst : ∀ {Q : Dataset K → Prop}, Raises Q (validate faults args d) →
      (finalize faults args d).1 = d := by
    rintro Q ⟨hraised, -⟩
    exact (after_of_raises (Q := (· = d)) (m := 1) (n := 8) (by omega)
      ⟨hraised, validate_fst houtcome⟩).state
  rcases validate_outcome faults args (d := d) houtcome with ⟨-, hraises⟩ | ⟨hcapture, hrest⟩
  · exact hfirst hraises
  · rcases hrest with ⟨-, hraises⟩ | ⟨hread, samples, capture, hsamples, hcall⟩
    · exact hfirst hraises
    · have hwrite : faults .writeTransitions = true := by
        by_contra hwrite
        exact h ⟨houtcome, hcapture, hread _ (by simp), Bool.eq_false_iff.mpr hwrite⟩
      obtain ⟨transitions, htransitions⟩ :=
        exists_transitions hsamples (decide (args.outcome = .success)) args.task
      have htwo : after faults args d 2 = (d, .raised (.os .writeTransitions)) := by
        rw [after_succ, hone, hcall, advance, tabulate, htransitions]
        dsimp only
        rw [EpisodeFinalizer.attempt, if_pos hwrite]
      refine (after_of_raises (Q := (· = d)) (m := 2) (n := 8) (by omega) ?_).state
      rw [htwo]
      exact ⟨⟨_, rfl⟩, rfl⟩

theorem Untabled.finalize (h : Untabled d) (hleaves : TableLeaves faults args d) :
    Untabled (finalize faults args d).1 := by
  intro name files hfiles
  by_cases hname : name = target args
  · subst hname
    by_cases hwrites : WritesTable faults args d
    · rw [gone_of_reachesRename hwrites.outcome (hleaves hwrites)] at hfiles
      cases hfiles
    · by_cases houtcome : args.outcome = .discard
      · cases hstaging : args.staging with
        | none =>
          rw [finalize_of_not_staged hstaging] at hfiles
          exact h _ _ hfiles
        | some staging =>
          rw [finalize_discard houtcome hstaging] at hfiles
          split at hfiles
          · exact h _ _ hfiles
          · simp [target, hstaging] at hfiles
      · rw [finalize_of_not_writesTable houtcome hwrites] at hfiles
        exact h _ _ hfiles
  · rw [(finalize_effects faults args d).staging_of_ne hname] at hfiles
    exact h name files hfiles

theorem UnmatchedStaging.finalize (h : UnmatchedStaging d) :
    UnmatchedStaging (finalize faults args d).1 := by
  intro name hname
  apply h name
  by_cases htarget : name = target args
  · subst htarget
    by_contra hgone
    have hnone := (finalize_effects faults args d).gone (Option.not_isSome_iff_eq_none.mp hgone)
    rw [hnone] at hname
    cases hname
  · rwa [(finalize_effects faults args d).staging_of_ne htarget] at hname

def PastTable : Stage K → Prop
  | .started | .validated _ _ => False
  | _ => True

/-- The table has been written and is still there. -/
def StaysTabled (args : FinalizeArgs) (call : Dataset K × Stage K) : Prop :=
  Tabled args call.1 ∧ PastTable call.2

omit [Zero K] [One K] in
theorem StaysTabled.attempt {op : FileOp} {call : Dataset K × Stage K} (hd : Tabled args d)
    (h : StaysTabled args call) : StaysTabled args (attempt faults op d call) :=
  attempt_rule ⟨hd, trivial⟩ h

/-- The table stays in its directory as long as the directory is staged. -/
theorem StaysTabled.advance {stage : Stage K} (h : StaysTabled args (d, stage)) :
    StaysTabled args (advance faults args d stage) := by
  obtain ⟨hd, hstage⟩ := h
  have hsame : ∀ {d' : Dataset K}, d'.staging = d.staging → Tabled args d' := fun hstaging => by
    rw [Tabled, hstaging]
    exact hd
  cases stage with
  | started => exact hstage.elim
  | validated samples capture => exact hstage.elim
  | waiting tables => exact .attempt hd ⟨hd, trivial⟩
  | locked tables => exact .attempt hd (.attempt hd ⟨hd.write fun _ => rfl, trivial⟩)
  | allocated index =>
    refine .attempt hd ?_
    split
    · exact ⟨hd, trivial⟩
    · rename_i d' hreplaced
      obtain ⟨files, -, hstaging, -, -⟩ := replaceStaging_eq_some hreplaced
      refine ⟨fun files' hfiles' => ?_, trivial⟩
      have hgone : d'.staging (target args) = none := by
        rw [hstaging]
        exact Function.update_self ..
      rw [hgone] at hfiles'
      cases hfiles'
  | renamed index =>
    refine .attempt hd ?_
    split
    · exact ⟨hd, trivial⟩
    · exact .attempt hd (.attempt (hsame rfl) ⟨hsame rfl, trivial⟩)
  | indexed index rows =>
    rw [EpisodeFinalizer.advance, rebuildSummary]
    split
    · exact ⟨hd, trivial⟩
    · exact .attempt hd (.attempt (hsame rfl) ⟨hsame rfl, trivial⟩)
  | summarized index => exact .attempt hd ⟨hd, trivial⟩
  | returned destination => exact ⟨hd, trivial⟩
  | raised error => exact ⟨hd, trivial⟩

private theorem tabulate_staysTabled {samples : List (EpisodeRecorder.SampleRow K)}
    {capture : CaptureSummary} (hsamples : 2 ≤ samples.length)
    (hwrite : faults .writeTransitions = false) :
    StaysTabled args (tabulate faults args d (target args) samples capture) := by
  obtain ⟨transitions, htransitions⟩ :=
    exists_transitions hsamples (decide (args.outcome = .success)) args.task
  rw [tabulate, htransitions]
  dsimp only
  have h₁ : Tabled args (writeStaging (target args) (fun files => { files with
      transitions := some transitions }) d) := tabled_writeStaging fun _ _ => rfl
  have h₂ := h₁.write (f := fun files => { files with
    normalizedPolicyChunks := some (rereadRows files.capture.chunks) }) fun _ => rfl
  have h₃ := h₂.write (f := fun files => { files with
    policyObservations := some (rereadRows files.capture.policyObservations) }) fun _ => rfl
  rw [EpisodeFinalizer.attempt, if_neg (by rw [hwrite]; exact Bool.false_ne_true)]
  exact .attempt h₁ (.attempt h₁ (.attempt h₂ (.attempt h₂ (.attempt h₃ (.attempt h₃
    ⟨h₃, trivial⟩)))))

/-- A call that writes the table and does not get through its rename leaves it staged. -/
theorem staged_table_of_not_leaves (h : ¬TableLeaves faults args d) :
    ∃ files, (finalize faults args d).1.staging (target args) = some files ∧
      files.transitions.isSome = true := by
  obtain ⟨hwrites, hreach⟩ := Classical.not_imp.mp h
  have htwo : StaysTabled args (after faults args d 2) := by
    have hone : after faults args d 1 = validate faults args d := rfl
    rcases validate_outcome faults args (d := d) hwrites.outcome with ⟨hcapture, -⟩ | ⟨-, hrest⟩
    · exact absurd hwrites.capture hcapture
    · rcases hrest with ⟨hread, -⟩ | ⟨-, samples, capture, hsamples, hcall⟩
      · exact absurd (by simpa using hwrites.read) hread
      · rw [after_succ, hone, hcall]
        exact tabulate_staysTabled hsamples hwrites.write
  have hlast : ∀ n, 2 ≤ n → StaysTabled args (after faults args d n) := by
    intro n hn
    induction n, hn using Nat.le_induction with
    | base => exact htwo
    | succ n hn ih =>
      rw [after_succ]
      exact ih.advance
  rcases before_rename faults d hwrites.outcome with ⟨-, hraises⟩ | ⟨hreached, -⟩
  · have hunchanged : Unchanged d (finalize faults args d).1 :=
      (after_of_raises (n := 8) (by omega) hraises).state
    obtain ⟨staging, files, hstaging, hfiles, -⟩ := hwrites.capture
    have htarget : target args = staging := by rw [target, hstaging, Option.getD_some]
    have hsome := hunchanged.staging staging
    rw [hfiles, Option.isSome_some] at hsome
    obtain ⟨files', hfiles'⟩ := Option.isSome_iff_exists.mp hsome
    rw [← htarget] at hfiles'
    exact ⟨files', hfiles', (hlast 8 (by omega)).1 files' hfiles'⟩
  · exact absurd hreached hreach

end Finalizer

/-! ## Sequences of calls -/

/-- What happens to a dataset root: the recorder writes a staged directory, or a finalizer is
called and runs until it returns or raises. -/
inductive RootLabel (K : Type) where
  | record (name : Text) (files : EpisodeFiles K)
  | finalize (faults : FileOp → Bool) (args : FinalizeArgs)

/-- The recorder writes its files; a transition table is not among them. -/
def recordFiles (name : Text) (files : EpisodeFiles K) (d : Dataset K) : Dataset K :=
  { d with
    staging := Function.update d.staging name
      (some { files with
        transitions := (d.staging name).bind (·.transitions) }) }

private theorem recordFiles_self (name : Text) (files : EpisodeFiles K) (d : Dataset K) :
    (recordFiles name files d).staging name = some { files with
      transitions := (d.staging name).bind (·.transitions) } := Function.update_self ..

private theorem recordFiles_of_ne {name other : Text} (h : other ≠ name) (files : EpisodeFiles K)
    (d : Dataset K) : (recordFiles name files d).staging other = d.staging other :=
  Function.update_of_ne h ..

section Runs

variable [Zero K] [One K]

def rootStep (d : Dataset K) : RootLabel K → Dataset K
  | .record name files => recordFiles name files d
  | .finalize faults args => (finalize faults args d).1

/-- Each call that writes its table gets through its rename, and no staged directory has a name
the discovery matches. -/
def Clean (d : Dataset K) : RootLabel K → Prop
  | .record name _ => Unmatched name
  | .finalize faults args => TableLeaves faults args d

def RootSteps (d : Dataset K) (label : RootLabel K) (d' : Dataset K) : Prop := rootStep d label = d'

def emptyRoot : Dataset K := ⟨[], none, none, none, none, fun _ => none⟩

/-- Only committed directories have tables, and every one of them has. -/
structure OnlyCommitted (d : Dataset K) : Prop where
  committed : CommittedTables d
  untabled : Untabled d
  unmatched : UnmatchedStaging d

omit [Zero K] [One K] in
private theorem onlyCommitted_emptyRoot : OnlyCommitted (emptyRoot : Dataset K) where
  committed := ⟨by simp [emptyRoot], by simp [emptyRoot], by simp [emptyRoot]⟩
  untabled := fun _ _ h => by cases h
  unmatched := fun _ h => by cases h

omit [Zero K] [One K] in
theorem OnlyCommitted.record {d : Dataset K} (h : OnlyCommitted d) {name : Text}
    (hname : Unmatched name) (files : EpisodeFiles K) :
    OnlyCommitted (recordFiles name files d) where
  committed := h.committed.of_episodes rfl
  untabled := by
    intro other files' hfiles'
    by_cases hother : other = name
    · subst hother
      rw [recordFiles_self] at hfiles'
      obtain rfl := Option.some.inj hfiles'
      cases hstaged : d.staging other with
      | none => rfl
      | some staged => exact h.untabled other staged hstaged
    · rw [recordFiles_of_ne hother] at hfiles'
      exact h.untabled other files' hfiles'
  unmatched := by
    intro other hstaged
    by_cases hother : other = name
    · exact hother ▸ hname
    · rw [recordFiles_of_ne hother] at hstaged
      exact h.unmatched other hstaged

theorem OnlyCommitted.step {d d' : Dataset K} {label : RootLabel K} (h : OnlyCommitted d)
    (hclean : Clean d label) (hstep : RootSteps d label d') : OnlyCommitted d' := by
  cases label with
  | record name files =>
    rw [← show recordFiles name files d = d' from hstep]
    exact h.record hclean files
  | finalize faults args =>
    rw [← show (finalize faults args d).1 = d' from hstep]
    exact ⟨h.committed.finalize, h.untabled.finalize hclean, h.unmatched.finalize⟩

/-- After any calls each of which, once it has written its table, gets through its rename, the
discovery finds the tables of the committed directories, each once, and nothing staged. -/
theorem discovered_are_committed (labels : List (RootLabel K)) (d : Dataset K)
    (hrun : Run (Restricted Clean RootSteps) emptyRoot labels d) (listing : StagingListing d) :
    (∀ episode ∈ d.episodes, episode.files.transitions.isSome = true) ∧
      (discoverEpisodeFiles (tree d listing.names)).Perm (committedTables d) ∧
      (discoverEpisodeFiles (tree d listing.names)).Nodup ∧
      ∀ name, tableOf (stagedPath name) ∉ discoverEpisodeFiles (tree d listing.names) := by
  have h := hrun.invariant (I := OnlyCommitted) (fun _ _ _ hstep hs => hs.step hstep.1 hstep.2)
    onlyCommitted_emptyRoot
  have hperm := discover_perm h.committed h.untabled h.unmatched listing.names
  refine ⟨h.committed.tables, hperm, hperm.nodup_iff.mpr (committedTables_nodup h.committed), ?_⟩
  intro name hname
  exact not_committed_of_staged name (hperm.mem_iff.mp hname)

/-- Where a call has written its table without getting through its rename, the discovery finds
the staged table. -/
theorem staged_discovered_of_not_leaves {d : Dataset K} {faults : FileOp → Bool}
    {args : FinalizeArgs} (h : ¬TableLeaves faults args d)
    (listing : StagingListing (finalize faults args d).1) :
    tableOf (stagedPath (target args)) ∈
      discoverEpisodeFiles (tree (finalize faults args d).1 listing.names) := by
  obtain ⟨files, hfiles, htable⟩ := staged_table_of_not_leaves h
  exact staged_table_discovered hfiles htable listing

end Runs

/-! ## Concrete datasets -/

def captureName : Text := "20260101_120000_attempt_0001".toList

def captureArgs : FinalizeArgs := ⟨some captureName, .success, "", "", "unknown", "", ""⟩

def capturedRoot : Dataset ℚ := recordFiles captureName (stagedEpisode .missing) emptyRoot

private theorem captureValid_capturedRoot : CaptureValid captureArgs capturedRoot :=
  ⟨captureName, _, rfl, recordFiles_self captureName _ _, by decide +kernel⟩

theorem staging_finalize_capturedRoot (faults : FileOp → Bool) {name : Text}
    (hname : name ≠ captureName) :
    (finalize faults captureArgs capturedRoot).1.staging name = none := by
  have hsame := (finalize_effects faults captureArgs capturedRoot).staging_of_ne hname
  rw [hsame, capturedRoot, recordFiles_of_ne hname]
  rfl

private theorem reachesRename_capturedRoot : ReachesRename noFaults captureArgs capturedRoot where
  capture := captureValid_capturedRoot
  operations := fun _ _ => rfl
  destination := fun _ hepisode => absurd hepisode List.not_mem_nil

def emptyListing : StagingListing (finalize noFaults captureArgs capturedRoot).1 where
  names := []
  nodup := List.nodup_nil
  mem_iff := fun name => by
    have hnone : (finalize noFaults captureArgs capturedRoot).1.staging name = none := by
      by_cases hname : name = captureName
      · have houtcome : captureArgs.outcome ≠ .discard := by decide
        exact hname ▸ gone_of_reachesRename houtcome reachesRename_capturedRoot
      · exact staging_finalize_capturedRoot noFaults hname
    simp [hnone]

theorem committed_capture_discovered :
    ∃ d : Dataset ℚ, ∃ listing : StagingListing d, d.episodes.length = 1 ∧
      (∀ episode ∈ d.episodes, episode.files.transitions.isSome = true) ∧
        (discoverEpisodeFiles (tree d listing.names)).Perm (committedTables d) ∧
        (discoverEpisodeFiles (tree d listing.names)).Nodup ∧
        ∀ name, tableOf (stagedPath name) ∉ discoverEpisodeFiles (tree d listing.names) := by
  have hrun : Run (Restricted Clean RootSteps) emptyRoot
      ([.record captureName (stagedEpisode .missing)] ++ [.finalize noFaults captureArgs])
      (finalize noFaults captureArgs capturedRoot).1 := by
    have hname : Unmatched captureName := ⟨by decide, by decide⟩
    exact (Run.single ⟨hname, rfl⟩).snoc ⟨fun _ => reachesRename_capturedRoot, rfl⟩
  exact ⟨_, emptyListing, by decide +kernel, discovered_are_committed _ _ hrun emptyListing⟩

/-- The policy chunks cannot be read again after the table has been written. -/
def rereadFails : FileOp → Bool := (· == .readNormalizedPolicyChunks)

private theorem not_tableLeaves_rereadFails :
    ¬TableLeaves rereadFails captureArgs capturedRoot := by
  intro h
  have hreach := h ⟨by decide, captureValid_capturedRoot, rfl, rfl⟩
  exact absurd (hreach.operations .readNormalizedPolicyChunks (by decide)) (by decide)

def captureListing : StagingListing (finalize rereadFails captureArgs capturedRoot).1 where
  names := [captureName]
  nodup := List.nodup_singleton _
  mem_iff := fun name => by
    rw [List.mem_singleton]
    constructor
    · rintro rfl
      obtain ⟨files, hfiles, -⟩ := staged_table_of_not_leaves not_tableLeaves_rereadFails
      exact Option.isSome_iff_exists.mpr ⟨files, hfiles⟩
    · intro hstaged
      by_contra hname
      rw [staging_finalize_capturedRoot rereadFails hname] at hstaged
      cases hstaged

/-- A call that raises after it has written the table: the trainer reads a staged episode. -/
theorem staged_capture_discovered :
    ∃ d : Dataset ℚ, ∃ labels, ∃ listing : StagingListing d,
      Run RootSteps emptyRoot labels d ∧
        ¬(discoverEpisodeFiles (tree d listing.names)).Perm (committedTables d) := by
  have hrun : Run RootSteps emptyRoot ([.record captureName (stagedEpisode .missing)] ++
      [.finalize rereadFails captureArgs]) (finalize rereadFails captureArgs capturedRoot).1 :=
    (Run.single rfl).snoc rfl
  refine ⟨_, _, captureListing, hrun, fun hperm => ?_⟩
  have hfound := staged_discovered_of_not_leaves not_tableLeaves_rereadFails captureListing
  exact not_committed_of_staged _ (hperm.mem_iff.mp hfound)

end SmolVlaQgf.CommittedDiscovery
