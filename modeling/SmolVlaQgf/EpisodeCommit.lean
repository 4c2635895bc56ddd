import SmolVlaQgf.EpisodeFinalizer

/-!
# Is a commit atomic?

Everything up to the rename changes only the staged directory, so a call that raises there
leaves the dataset as it was. The rename comes before the manifest and the summary are
rebuilt; a call that raises after it has committed a directory all the same.
-/

namespace SmolVlaQgf.EpisodeCommit
open FieldText EpisodeRecorder CaptureValidation TransitionTable EpisodeDataset EpisodeFinalizer

variable {K : Type}

/-! ## The property -/

/-- Committed directories, manifest and summary are the same, and the same directories are
staged. -/
structure Unchanged (d d' : Dataset K) : Prop where
  episodes : d'.episodes = d.episodes
  manifest : d'.manifest = d.manifest
  summary : d'.summary = d.summary
  staging : ∀ name, (d'.staging name).isSome = (d.staging name).isSome

/-- One new directory, and the manifest contains its row. -/
structure Commits (d d' : Dataset K) (name : Text) : Prop where
  fresh : ∀ episode ∈ d.episodes, episode.name ≠ name
  committed : ∃ files metadata rows, d'.episodes = d.episodes ++ [⟨name, files⟩] ∧
    files.metadata = .content metadata ∧ d'.manifest = some rows ∧ metadata.row ∈ rows

/-- A call that raised changed nothing, and a call that returned committed one episode. -/
def Atomic (d : Dataset K) (call : Dataset K × Stage K) : Prop :=
  match call.2 with
  | .raised _ => Unchanged d call.1
  | .returned (some name) => Commits d call.1 name
  | _ => False

/-! ## The condition -/

def tableOperations : List FileOp := [.writeTransitions, .readNormalizedPolicyChunks,
  .writeNormalizedPolicyChunks, .readPolicyObservations, .writePolicyObservations,
  .makeDirectories, .openLock]

def operationsBefore : List FileOp :=
  [.readCapture] ++ tableOperations ++ [.lock] ++ [.listIndices, .writeMetadata] ++
    [.replaceStaging]

/-- The operations after the rename, beside the reading of metadata. -/
def rebuildOperations : List FileOp := [.listEpisodes, .writeManifest, .replaceManifest] ++
  [.writeSummary, .replaceSummary] ++ [.unlock]

def nextName (d : Dataset K) : Text := episodeName (nextMonotonicIndex d.episodes)

/-- The staged capture is valid, no operation up to the rename raises, and no directory that
holds anything has the next name. -/
structure ReachesRename (faults : FileOp → Bool) (args : FinalizeArgs) (d : Dataset K) : Prop where
  capture : ∃ staging files, args.staging = some staging ∧ d.staging staging = some files ∧
    (validateCapture files.capture).isOk = true
  operations : ∀ op ∈ operationsBefore, faults op = false
  destination : ∀ episode ∈ d.episodes, episode.name = nextName d → episode.files.isEmpty = true

/-- The manifest can read a directory: no metadata file, or a complete one. -/
structure Readable (faults : FileOp → Bool) (episode : EpisodeDirectory K) : Prop where
  read : faults (.readMetadata episode.name) = false
  parsed : episode.files.metadata ≠ .unreadable
  counted : ∀ metadata, episode.files.metadata = .content metadata →
    metadata.row.numTransitions.isSome = true

/-- No directory has the next name, no operation after the rename raises, and every listed
directory is readable. -/
structure Completes (faults : FileOp → Bool) (d : Dataset K) : Prop where
  fresh : ∀ episode ∈ d.episodes, episode.name ≠ nextName d
  operations : ∀ op ∈ rebuildOperations, faults op = false
  newMetadata : faults (.readMetadata (nextName d)) = false
  metadata : ∀ episode ∈ d.episodes, isListed episode.name = true → Readable faults episode

/-! ## The manifest -/

def row? (episode : EpisodeDirectory K) : Option ManifestRow :=
  match episode.files.metadata with
  | .content metadata => some metadata.row
  | _ => none

theorem row?_eq_some_iff {episode : EpisodeDirectory K} {row : ManifestRow} :
    row? episode = some row ↔ ∃ metadata, episode.files.metadata = .content metadata ∧
      metadata.row = row := by
  rw [row?]
  cases episode.files.metadata <;> simp

theorem manifestRows_eq_ok_iff {readFails : Text → Bool} {episodes : List (EpisodeDirectory K)}
    {rows : List ManifestRow} : manifestRows readFails episodes = .ok rows ↔
      (∀ episode ∈ episodes, readFails episode.name = false ∧
        episode.files.metadata ≠ .unreadable) ∧ rows = episodes.filterMap row? := by
  induction episodes generalizing rows with
  | nil =>
    rw [manifestRows, Except.ok.injEq]
    exact ⟨fun h => ⟨by simp, h.symm⟩, fun h => h.2.symm⟩
  | cons episode episodes ih =>
    rw [manifestRows]
    cases hfails : readFails episode.name with
    | true => simp [hfails]
    | false =>
      cases hmetadata : episode.files.metadata with
      | missing => simp [ih, hfails, hmetadata, row?]
      | unreadable => simp [hmetadata]
      | content metadata =>
        have hrow : row? episode = some metadata.row := by rw [row?, hmetadata]
        simp only [Bool.false_eq_true, if_false, List.forall_mem_cons, hfails, hmetadata,
          ne_eq, reduceCtorEq, not_false_eq_true, and_self, true_and,
          List.filterMap_cons_some hrow]
        constructor
        · intro h
          cases hrest : manifestRows readFails episodes with
          | error name => simp [hrest, Except.map] at h
          | ok rest =>
            rw [hrest] at h
            obtain ⟨hall, rfl⟩ := ih.mp hrest
            exact ⟨hall, (Except.ok.inj h).symm⟩
        · rintro ⟨hall, rfl⟩
          rw [ih.mpr ⟨hall, rfl⟩]
          rfl

theorem totalTransitions_isSome_iff {rows : List ManifestRow} :
    (totalTransitions rows).isSome = true ↔ ∀ row ∈ rows, row.numTransitions.isSome = true := by
  induction rows with
  | nil => simp [totalTransitions]
  | cons row rows ih =>
    rw [totalTransitions, List.forall_mem_cons, ← ih]
    cases row.numTransitions <;> simp

theorem mem_sortedEpisodes {episodes : List (EpisodeDirectory K)} {episode : EpisodeDirectory K} :
    episode ∈ sortedEpisodes episodes ↔ episode ∈ episodes ∧ isListed episode.name = true := by
  rw [sortedEpisodes, List.mem_mergeSort, List.mem_filter]

/-! ## Stages -/

section Outcomes

variable {faults : FileOp → Bool} {Q : Dataset K → Prop} {P : Dataset K × Stage K → Prop}
  {ops : List FileOp} {op : FileOp} {d : Dataset K} {call : Dataset K × Stage K}

/-- The call raised in a state with `Q`. -/
structure Raises (Q : Dataset K → Prop) (call : Dataset K × Stage K) : Prop where
  raised : ∃ error, call.2 = .raised error
  state : Q call.1

/-- Some of the operations raises and so does the call, in a state with `Q`; or none does and
the call goes on with `P`. -/
def Outcome (faults : FileOp → Bool) (Q : Dataset K → Prop) (ops : List FileOp)
    (P : Dataset K × Stage K → Prop) (call : Dataset K × Stage K) : Prop :=
  (¬(∀ op ∈ ops, faults op = false) ∧ Raises Q call) ∨ ((∀ op ∈ ops, faults op = false) ∧ P call)

theorem Outcome.done (h : P call) : Outcome faults Q [] P call := Or.inr ⟨by simp, h⟩

theorem Outcome.attempt (hd : Q d) (h : Outcome faults Q ops P call) :
    Outcome faults Q (op :: ops) P (attempt faults op d call) := by
  rw [EpisodeFinalizer.attempt]
  cases hop : faults op with
  | true => exact Or.inl ⟨by simp [hop], ⟨_, rfl⟩, hd⟩
  | false =>
    simp only [Bool.false_eq_true, if_false]
    rcases h with ⟨hfail, hraises⟩ | ⟨hall, hP⟩
    · refine Or.inl ⟨fun hops => hfail fun op' hop' => ?_, hraises⟩
      exact hops op' (List.mem_cons_of_mem _ hop')
    · exact Or.inr ⟨List.forall_mem_cons.mpr ⟨hop, hall⟩, hP⟩

private theorem attempt_raises (hd : Q d) (h : Raises Q call) :
    Raises Q (attempt faults op d call) :=
  attempt_rule ⟨⟨_, rfl⟩, hd⟩ h

end Outcomes

section Before

variable [Zero K] [One K] (faults : FileOp → Bool) (args : FinalizeArgs) {d d' : Dataset K}

omit [Zero K] [One K] in
theorem Unchanged.refl (d : Dataset K) : Unchanged d d := ⟨rfl, rfl, rfl, fun _ => rfl⟩

omit [Zero K] [One K] in
theorem Unchanged.writeStaging (h : Unchanged d d') (staging : Text)
    (f : EpisodeFiles K → EpisodeFiles K) : Unchanged d (writeStaging staging f d') where
  episodes := h.episodes
  manifest := h.manifest
  summary := h.summary
  staging := fun name => by
    rw [← h.staging name, EpisodeDataset.writeStaging]
    by_cases hname : name = staging
    · subst hname
      simp
    · simp [hname]

omit [Zero K] [One K] in
@[simp] theorem writeStaging_self (staging : Text) (f : EpisodeFiles K → EpisodeFiles K)
    (d : Dataset K) : (writeStaging staging f d).staging staging = (d.staging staging).map f :=
  Function.update_self _ _ _

def CaptureValid (d : Dataset K) : Prop :=
  ∃ staging files, args.staging = some staging ∧ d.staging staging = some files ∧
    (validateCapture files.capture).isOk = true

omit [Zero K] [One K] in
theorem validate_outcome (houtcome : args.outcome ≠ .discard) :
    (¬CaptureValid args d ∧ Raises (Unchanged d) (validate faults args d)) ∨
      (CaptureValid args d ∧ Outcome faults (Unchanged d) [.readCapture]
        (fun call => ∃ samples capture, 2 ≤ samples.length ∧
          call = (d, .validated samples capture)) (validate faults args d)) := by
  have hraises : ∀ error, Raises (Unchanged d) (d, (.raised error : Stage K)) := fun error =>
    ⟨⟨error, rfl⟩, .refl d⟩
  rw [validate]
  cases hstaging : args.staging with
  | none =>
    refine Or.inl ⟨?_, hraises _⟩
    rintro ⟨staging, files, hsome, -⟩
    simp [hstaging] at hsome
  | some staging =>
    simp only [if_neg houtcome]
    cases hfiles : d.staging staging with
    | none =>
      refine Or.inl ⟨?_, attempt_raises (.refl d) (hraises _)⟩
      rintro ⟨staging', files, hsome, hstaged, -⟩
      obtain rfl := Option.some.inj (hstaging.symm.trans hsome)
      simp [hfiles] at hstaged
    | some files =>
      cases hvalid : validateCapture files.capture with
      | error error =>
        refine Or.inl ⟨?_, attempt_raises (.refl d) (by simpa only [hvalid] using hraises _)⟩
        rintro ⟨staging', files', hsome, hstaged, hok⟩
        obtain rfl := Option.some.inj (hstaging.symm.trans hsome)
        obtain rfl := Option.some.inj (hfiles.symm.trans hstaged)
        simp [hvalid, Except.isOk, Except.toBool] at hok
      | ok validated =>
        refine Or.inr ⟨⟨staging, files, hstaging, hfiles,
          by simp [hvalid, Except.isOk, Except.toBool]⟩, ?_⟩
        exact .attempt (.refl d) (.done ⟨validated.1, validated.2,
          two_le_of_validateCapture hvalid, by simp only [hvalid]⟩)

private theorem tabulate_outcome {samples : List (SampleRow K)} (hsamples : 2 ≤ samples.length)
    (staging : Text) (capture : CaptureSummary) :
    Outcome faults (Unchanged d) tableOperations
      (fun call => ∃ d' tables, Unchanged d d' ∧ call = (d', .waiting tables))
      (tabulate faults args d staging samples capture) := by
  obtain ⟨transitions, htransitions⟩ :=
    exists_transitions hsamples (decide (args.outcome = .success)) args.task
  rw [tabulate, htransitions]
  have h₀ := Unchanged.refl d
  have h₁ := h₀.writeStaging staging fun files => { files with transitions := some transitions }
  have h₂ := h₁.writeStaging staging fun files => { files with
    normalizedPolicyChunks := some (rereadRows files.capture.chunks) }
  have h₃ := h₂.writeStaging staging fun files => { files with
    policyObservations := some (rereadRows files.capture.policyObservations) }
  exact .attempt h₀ (.attempt h₁ (.attempt h₁ (.attempt h₂ (.attempt h₂ (.attempt h₃ (.attempt h₃
    (.done ⟨_, _, h₃, rfl⟩)))))))

omit [Zero K] [One K] in
private theorem allocate_outcome (h : Unchanged d d') (staging : Text) (tables : Tabulated) :
    Outcome faults (Unchanged d) [.listIndices, .writeMetadata]
      (fun call => call = (writeStaging staging (fun files => { files with
        metadata := .content (episodeMetadata args tables (nextMonotonicIndex d.episodes)) }) d',
        .allocated (nextMonotonicIndex d.episodes)))
      (allocate faults args d' staging tables) := by
  rw [← h.episodes]
  exact .attempt h (.attempt h (.done rfl))

/-- The rename took the staged directory away and put it under the next name. -/
structure Moved (d d' : Dataset K) : Prop where
  staging : ∃ staging, (d.staging staging).isSome = true ∧ d'.staging staging = none
  episodes : ∃ files tables,
    files.metadata = .content (episodeMetadata args tables (nextMonotonicIndex d.episodes)) ∧
      ((∀ episode ∈ d.episodes, episode.name ≠ nextName d) →
        d'.episodes = d.episodes ++ [⟨nextName d, files⟩])

/-- No directory that holds anything has the next name. -/
def DestinationFree (d : Dataset K) : Prop :=
  ∀ episode ∈ d.episodes, episode.name = nextName d → episode.files.isEmpty = true

omit [Zero K] [One K] in
private theorem rename_outcome (h : Unchanged d d') {staging : Text} {files : EpisodeFiles K}
    {tables : Tabulated} (hstaged : d'.staging staging = some files)
    (hmetadata : files.metadata =
      .content (episodeMetadata args tables (nextMonotonicIndex d.episodes))) :
    (¬DestinationFree d ∧ Raises (Unchanged d)
        (rename faults d' staging (nextMonotonicIndex d.episodes))) ∨
      (DestinationFree d ∧ Outcome faults (Unchanged d) [.replaceStaging]
        (fun call => ∃ d'', call = (d'', .renamed (nextMonotonicIndex d.episodes)) ∧
          Moved args d d'') (rename faults d' staging (nextMonotonicIndex d.episodes))) := by
  have hbefore : (d.staging staging).isSome = true := by
    rw [← h.staging, hstaged, Option.isSome_some]
  have hall : (d'.episodes.all fun episode => decide (episode.name ≠ nextName d) ||
      episode.files.isEmpty) = true ↔ DestinationFree d := by
    rw [h.episodes, List.all_eq_true, DestinationFree]
    refine forall_congr' fun episode => imp_congr_right fun _ => ?_
    by_cases hname : episode.name = nextName d <;> simp [hname]
  rw [rename, replaceStaging, hstaged]
  dsimp only
  rw [show episodeName (nextMonotonicIndex d.episodes) = nextName d from rfl]
  by_cases hany : (d'.episodes.any fun episode => decide (episode.name = nextName d)) = true
  · rw [if_pos hany]
    by_cases hfree : DestinationFree d
    · rw [if_pos (hall.mpr hfree)]
      refine Or.inr ⟨hfree, .attempt h (.done ⟨_, rfl, ⟨staging, hbefore, by simp⟩, files, tables,
        hmetadata, fun hfresh => ?_⟩)⟩
      simp only [List.any_eq_true, decide_eq_true_eq, h.episodes] at hany
      obtain ⟨episode, hmem, hname⟩ := hany
      exact absurd hname (hfresh episode hmem)
    · rw [if_neg (mt hall.mp hfree)]
      refine Or.inl ⟨hfree, ?_⟩
      rw [EpisodeFinalizer.attempt]
      split <;> exact ⟨⟨_, rfl⟩, h⟩
  · rw [if_neg hany]
    simp only [List.any_eq_true, decide_eq_true_eq, h.episodes, not_exists, not_and] at hany
    refine Or.inr ⟨fun episode hmem hname => absurd hname (hany episode hmem), .attempt h (.done
      ⟨_, rfl, ⟨staging, hbefore, by simp⟩, files, tables, hmetadata, fun _ => ?_⟩)⟩
    rw [h.episodes]

/-! ## Up to the rename -/

/-- The state of a call after some stages. -/
def after (d : Dataset K) (n : ℕ) : Dataset K × Stage K :=
  (fun call => advance faults args call.1 call.2)^[n] (d, .started)

variable {faults args}

theorem after_succ (n : ℕ) : after faults args d (n + 1) =
    advance faults args (after faults args d n).1 (after faults args d n).2 :=
  Function.iterate_succ_apply' _ _ _

theorem after_of_raises {Q : Dataset K → Prop} {m n : ℕ} (hmn : m ≤ n)
    (h : Raises Q (after faults args d m)) : Raises Q (after faults args d n) := by
  obtain ⟨error, herror⟩ := h.raised
  induction n, hmn using Nat.le_induction with
  | base => exact h
  | succ n hmn ih =>
    obtain ⟨error', herror'⟩ := ih.raised
    rw [after_succ, herror']
    exact ⟨⟨error', rfl⟩, ih.state⟩

/-- A call that raises because of an operation before the rename does not reach it. -/
theorem not_reachesRename_of_raises {ops : List FileOp} {n : ℕ} (hsub : ops ⊆ operationsBefore)
    (hn : n ≤ 5) (hops : ¬∀ op ∈ ops, faults op = false)
    (h : Raises (Unchanged d) (after faults args d n)) :
    ¬ReachesRename faults args d ∧ Raises (Unchanged d) (after faults args d 5) :=
  ⟨fun hreach => hops fun op hop => hreach.operations op (hsub hop), after_of_raises hn h⟩

/-- Either the call raises with the dataset unchanged, or it gets through the rename. -/
theorem before_rename (faults : FileOp → Bool) {args : FinalizeArgs} (d : Dataset K)
    (houtcome : args.outcome ≠ .discard) :
    (¬ReachesRename faults args d ∧ Raises (Unchanged d) (after faults args d 5)) ∨
      (ReachesRename faults args d ∧ ∃ d', after faults args d 5 =
        (d', .renamed (nextMonotonicIndex d.episodes)) ∧ Moved args d d') := by
  have hone : after faults args d 1 = validate faults args d := rfl
  rcases validate_outcome faults args (d := d) houtcome with
    ⟨hcapture, hraises⟩ | ⟨hcapture, houtcome⟩
  · exact Or.inl ⟨fun h => hcapture h.capture, after_of_raises (by omega) (hone ▸ hraises)⟩
  rw [← hone] at houtcome
  rcases houtcome with ⟨hfail, hraises⟩ | ⟨hread, samples, capture, hsamples, hcall⟩
  · exact Or.inl (not_reachesRename_of_raises (by decide) (by omega) hfail hraises)
  obtain ⟨staging, files, hstaging, hfiles, hvalid⟩ := hcapture
  have htwo := tabulate_outcome faults args (d := d) hsamples staging capture
  rw [← show after faults args d 2 = tabulate faults args d staging samples capture by
    rw [after_succ, hcall, advance, hstaging, Option.getD_some]] at htwo
  rcases htwo with ⟨hfail, hraises⟩ | ⟨htables, d₂, tables, hunchanged, hcall⟩
  · exact Or.inl (not_reachesRename_of_raises (by decide) (by omega) hfail hraises)
  have hthree : Outcome faults (Unchanged d) [.lock] (· = (d₂, .locked tables))
      (after faults args d 3) := by
    rw [after_succ, hcall]
    exact .attempt hunchanged (.done rfl)
  rcases hthree with ⟨hfail, hraises⟩ | ⟨hlock, hcall⟩
  · exact Or.inl (not_reachesRename_of_raises (by decide) (by omega) hfail hraises)
  have hfour := allocate_outcome faults args hunchanged staging tables
  rw [← show after faults args d 4 = allocate faults args d₂ staging tables by
    rw [after_succ, hcall, advance, hstaging, Option.getD_some]] at hfour
  rcases hfour with ⟨hfail, hraises⟩ | ⟨hallocate, hcall⟩
  · exact Or.inl (not_reachesRename_of_raises (by decide) (by omega) hfail hraises)
  have hstaged : ∃ files₂, d₂.staging staging = some files₂ := by
    rw [← Option.isSome_iff_exists, hunchanged.staging, hfiles, Option.isSome_some]
  obtain ⟨files₂, hfiles₂⟩ := hstaged
  have hmetadata : (after faults args d 4).1.staging staging = some { files₂ with
      metadata := .content (episodeMetadata args tables (nextMonotonicIndex d.episodes)) } := by
    rw [hcall, writeStaging_self, hfiles₂, Option.map_some]
  have hunchanged₄ : Unchanged d (after faults args d 4).1 := by
    rw [hcall]
    exact hunchanged.writeStaging staging _
  have hfive := rename_outcome faults args hunchanged₄ hmetadata rfl
  rw [← show after faults args d 5 = rename faults (after faults args d 4).1 staging
      (nextMonotonicIndex d.episodes) by
    rw [after_succ, hcall, advance, hstaging, Option.getD_some]] at hfive
  rcases hfive with ⟨hdestination, hraises⟩ | ⟨hdestination, ⟨hfail, hraises⟩ | ⟨hreplace, hmoved⟩⟩
  · exact Or.inl ⟨fun h => hdestination h.destination, hraises⟩
  · exact Or.inl (not_reachesRename_of_raises (by decide) (by omega) hfail hraises)
  · refine Or.inr ⟨⟨⟨staging, files, hstaging, hfiles, hvalid⟩, ?_, hdestination⟩, hmoved⟩
    intro op hop
    simp only [operationsBefore, List.mem_append] at hop
    rcases hop with (((hop | hop) | hop) | hop) | hop
    · exact hread op hop
    · exact htables op hop
    · exact hlock op hop
    · exact hallocate op hop
    · exact hreplace op hop

end Before

/-! ## After the rename -/

section After

variable [Zero K] [One K] {faults : FileOp → Bool} {args : FinalizeArgs} {d d' : Dataset K}

def committedRows (episodes : List (EpisodeDirectory K)) : List ManifestRow :=
  (sortedEpisodes episodes).filterMap row?

/-- The directories can all be read and nothing raises any more. -/
structure Finishes (faults : FileOp → Bool) (d : Dataset K) : Prop where
  operations : ∀ op ∈ rebuildOperations, faults op = false
  metadata : ∀ episode ∈ d.episodes, isListed episode.name = true → Readable faults episode

omit [Zero K] [One K] in
private theorem exists_error_of_not_readable {readFails : Text → Bool}
    {episodes : List (EpisodeDirectory K)} (h : ¬∀ episode ∈ episodes,
      readFails episode.name = false ∧ episode.files.metadata ≠ .unreadable) :
    ∃ name, manifestRows readFails episodes = .error name := by
  cases hrows : manifestRows readFails episodes with
  | error name => exact ⟨name, rfl⟩
  | ok rows => exact absurd (manifestRows_eq_ok_iff.mp hrows).1 h

/-- The listed directories have no unreadable metadata. -/
def ManifestReadable (faults : FileOp → Bool) (d : Dataset K) : Prop :=
  ∀ episode ∈ sortedEpisodes d.episodes, faults (.readMetadata episode.name) = false ∧
    episode.files.metadata ≠ .unreadable

omit [Zero K] [One K] in
private theorem rebuildManifest_outcome (faults : FileOp → Bool) (Q : Dataset K → Prop) (index : ℕ)
    (hQ : ∀ manifest manifestTmp, Q { d with manifest, manifestTmp }) :
    (¬ManifestReadable faults d ∧ Raises Q (rebuildManifest faults d index)) ∨
      (ManifestReadable faults d ∧
        Outcome faults Q [.listEpisodes, .writeManifest, .replaceManifest]
          (· = ({ d with manifest := some (committedRows d.episodes), manifestTmp := none },
            .indexed index (committedRows d.episodes))) (rebuildManifest faults d index)) := by
  have hd : Q d := hQ d.manifest d.manifestTmp
  rw [rebuildManifest]
  by_cases hreadable : ManifestReadable faults d
  · have hrows : manifestRows (fun name => faults (.readMetadata name))
        (sortedEpisodes d.episodes) = .ok (committedRows d.episodes) :=
      manifestRows_eq_ok_iff.mpr ⟨hreadable, rfl⟩
    rw [hrows]
    exact Or.inr ⟨hreadable, .attempt hd (.attempt hd (.attempt (hQ _ _) (.done rfl)))⟩
  · obtain ⟨name, hname⟩ : ∃ name, manifestRows (fun name => faults (.readMetadata name))
        (sortedEpisodes d.episodes) = .error name := exists_error_of_not_readable hreadable
    rw [hname]
    exact Or.inl ⟨hreadable, attempt_raises hd ⟨⟨_, rfl⟩, hd⟩⟩

omit [Zero K] [One K] in
private theorem rebuildSummary_outcome (faults : FileOp → Bool) (Q : Dataset K → Prop)
    (args : FinalizeArgs) (index : ℕ) (rows : List ManifestRow)
    (hQ : ∀ summary summaryTmp, Q { d with summary, summaryTmp }) :
    ((totalTransitions rows).isSome = false ∧ Raises Q (rebuildSummary faults args d index rows)) ∨
      ((totalTransitions rows).isSome = true ∧ Outcome faults Q [.writeSummary, .replaceSummary]
        (fun call => ∃ summary, call = ({ d with summary := some summary, summaryTmp := none },
          .summarized index)) (rebuildSummary faults args d index rows)) := by
  have hd : Q d := hQ d.summary d.summaryTmp
  rw [rebuildSummary]
  cases htotal : totalTransitions rows with
  | none => exact Or.inl ⟨rfl, ⟨_, rfl⟩, hd⟩
  | some transitions =>
    exact Or.inr ⟨rfl, .attempt hd (.attempt (hQ _ _) (.done ⟨_, rfl⟩))⟩

omit [Zero K] [One K] in
private theorem finishes_iff : Finishes faults d ↔ (∀ op ∈ rebuildOperations, faults op = false) ∧
    ManifestReadable faults d ∧ (totalTransitions (committedRows d.episodes)).isSome = true := by
  rw [totalTransitions_isSome_iff]
  constructor
  · intro h
    refine ⟨h.operations, fun episode hepisode => ?_, fun row hrow => ?_⟩
    · obtain ⟨hmem, hlisted⟩ := mem_sortedEpisodes.mp hepisode
      exact ⟨(h.metadata episode hmem hlisted).read, (h.metadata episode hmem hlisted).parsed⟩
    · obtain ⟨episode, hepisode, hrow⟩ := List.mem_filterMap.mp hrow
      obtain ⟨hmem, hlisted⟩ := mem_sortedEpisodes.mp hepisode
      obtain ⟨metadata, hmetadata, rfl⟩ := row?_eq_some_iff.mp hrow
      exact (h.metadata episode hmem hlisted).counted metadata hmetadata
  · rintro ⟨hoperations, hreadable, hcounted⟩
    refine ⟨hoperations, fun episode hmem hlisted => ?_⟩
    have hepisode := mem_sortedEpisodes.mpr ⟨hmem, hlisted⟩
    obtain ⟨hread, hparsed⟩ := hreadable episode hepisode
    refine ⟨hread, hparsed, fun metadata hmetadata => hcounted metadata.row ?_⟩
    exact List.mem_filterMap.mpr
      ⟨episode, hepisode, row?_eq_some_iff.mpr ⟨metadata, hmetadata, rfl⟩⟩

private theorem not_finishes_of_raises {Q : Dataset K → Prop} {ops : List FileOp} {n : ℕ}
    (hsub : ops ⊆ rebuildOperations) (hn : n ≤ 8) (hops : ¬∀ op ∈ ops, faults op = false)
    (h : Raises Q (after faults args d n)) :
    ¬Finishes faults d' ∧ Raises Q (after faults args d 8) :=
  ⟨fun hfinishes => hops fun op hop => hfinishes.operations op (hsub hop), after_of_raises hn h⟩

/-- After the rename the call returns with the rebuilt manifest, or it raises without the
staged directory. -/
theorem after_rename {staging : Text} {index : ℕ}
    (hcall : after faults args d 5 = (d', .renamed index)) (hstaging : d'.staging staging = none) :
    (¬Finishes faults d' ∧
        Raises (fun d'' => d''.staging staging = none) (after faults args d 8)) ∨
      (Finishes faults d' ∧ ∃ d'', after faults args d 8 =
          (d'', .returned (some (episodeName index))) ∧ d''.episodes = d'.episodes ∧
        d''.manifest = some (committedRows d'.episodes)) := by
  have hsix := rebuildManifest_outcome faults (fun d'' => d''.staging staging = none) (d := d')
    index fun _ _ => hstaging
  rw [← show after faults args d 6 = rebuildManifest faults d' index by
    rw [after_succ, hcall, advance]] at hsix
  rcases hsix with ⟨hfail, hraises⟩ | ⟨hreadable, ⟨hfail, hraises⟩ | ⟨hmanifest, hsix⟩⟩
  · exact Or.inl ⟨fun h => hfail (finishes_iff.mp h).2.1, after_of_raises (by omega) hraises⟩
  · exact Or.inl (not_finishes_of_raises (by decide) (by omega) hfail hraises)
  generalize hd₆ : ({ d' with manifest := some (committedRows d'.episodes), manifestTmp := none } :
    Dataset K) = d₆ at hsix
  have hepisodes : d₆.episodes = d'.episodes := by rw [← hd₆]
  have hrows : d₆.manifest = some (committedRows d'.episodes) := by rw [← hd₆]
  have hstaging₆ : d₆.staging staging = none := by rw [← hd₆, hstaging]
  have hseven := rebuildSummary_outcome faults (fun d'' => d''.staging staging = none) (d := d₆)
    args index (committedRows d'.episodes) fun _ _ => hstaging₆
  rw [← show after faults args d 7 =
      rebuildSummary faults args d₆ index (committedRows d'.episodes) by
    rw [after_succ, hsix, advance]] at hseven
  rcases hseven with ⟨hfail, hraises⟩ | ⟨hcounted, ⟨hfail, hraises⟩ | ⟨hsummary, summary, hseven⟩⟩
  · refine Or.inl ⟨fun h => ?_, after_of_raises (by omega) hraises⟩
    exact absurd ((finishes_iff.mp h).2.2) (Bool.eq_false_iff.mp hfail)
  · exact Or.inl (not_finishes_of_raises (by decide) (by omega) hfail hraises)
  have height : Outcome faults (fun d'' => d''.staging staging = none) [.unlock]
      (· = ({ d₆ with summary := some summary, summaryTmp := none },
        .returned (some (episodeName index)))) (after faults args d 8) := by
    rw [after_succ, hseven]
    exact .attempt hstaging₆ (.done rfl)
  rcases height with ⟨hfail, hraises⟩ | ⟨hunlock, height⟩
  · exact Or.inl (not_finishes_of_raises (by decide) (by omega) hfail hraises)
  · refine Or.inr ⟨finishes_iff.mpr ⟨?_, hreadable, hcounted⟩, _, height, hepisodes, hrows⟩
    intro op hop
    simp only [rebuildOperations, List.mem_append] at hop
    rcases hop with (hop | hop) | hop
    · exact hmanifest op hop
    · exact hsummary op hop
    · exact hunlock op hop

/-! ## The whole call -/

omit [Zero K] [One K] in
/-- When no directory has the next name, reading on after the rename needs just what reading
before it would have needed, and the new metadata. -/
theorem completes_iff_finishes (hmoved : Moved args d d')
    (hfresh : ∀ episode ∈ d.episodes, episode.name ≠ nextName d) :
    Completes faults d ↔ Finishes faults d' := by
  obtain ⟨files, tables, hmetadata, hepisodes⟩ := hmoved.episodes
  have hepisodes := hepisodes hfresh
  constructor
  · intro h
    refine ⟨h.operations, fun episode hepisode hlisted => ?_⟩
    rw [hepisodes] at hepisode
    rcases List.mem_append.mp hepisode with hold | hnew
    · exact h.metadata episode hold hlisted
    · obtain rfl := List.mem_singleton.mp hnew
      refine ⟨h.newMetadata, by simp [hmetadata], fun metadata hcontent => ?_⟩
      obtain rfl := JsonFile.content.inj (hmetadata.symm.trans hcontent)
      rfl
  · intro h
    have hnew : (⟨nextName d, files⟩ : EpisodeDirectory K) ∈ d'.episodes := by simp [hepisodes]
    exact ⟨hfresh, h.operations, (h.metadata _ hnew (isListed_episodeName _)).read,
      fun episode hepisode => h.metadata episode (by simp [hepisodes, hepisode])⟩

omit [Zero K] [One K] in
private theorem commits_of_moved {d'' : Dataset K} (hmoved : Moved args d d')
    (hfresh : ∀ episode ∈ d.episodes, episode.name ≠ nextName d)
    (hepisodes : d''.episodes = d'.episodes)
    (hmanifest : d''.manifest = some (committedRows d'.episodes)) :
    Commits d d'' (nextName d) := by
  obtain ⟨files, tables, hmetadata, hnew⟩ := hmoved.episodes
  have hnew := hnew hfresh
  refine ⟨hfresh, files, _, _, hepisodes.trans hnew, hmetadata, hmanifest, ?_⟩
  refine List.mem_filterMap.mpr ⟨⟨nextName d, files⟩, ?_, row?_eq_some_iff.mpr ⟨_, hmetadata, rfl⟩⟩
  exact mem_sortedEpisodes.mpr ⟨by simp [hnew], isListed_episodeName _⟩

private theorem atomic_of_completes (houtcome : args.outcome ≠ .discard)
    (h : ReachesRename faults args d → Completes faults d) :
    Atomic d (finalize faults args d) := by
  change Atomic d (after faults args d 8)
  rcases before_rename faults d houtcome with ⟨-, hraises⟩ | ⟨hreach, d', hcall, hmoved⟩
  · have hlast := after_of_raises (n := 8) (by omega) hraises
    obtain ⟨error, herror⟩ := hlast.raised
    rw [Atomic, herror]
    exact hlast.state
  · have hcompletes := h hreach
    obtain ⟨staging, -, hgone⟩ := hmoved.staging
    have hfinishes := (completes_iff_finishes hmoved hcompletes.fresh).mp hcompletes
    obtain ⟨hfail, -⟩ | ⟨-, d'', hlast, hepisodes, hrows⟩ := after_rename hcall hgone
    · exact absurd hfinishes hfail
    · rw [Atomic, hlast]
      exact commits_of_moved hmoved hcompletes.fresh hepisodes hrows

/-- After the rename an exception comes too late, and so does a name that was taken. -/
theorem not_atomic_of_not_completes (houtcome : args.outcome ≠ .discard)
    (hreach : ReachesRename faults args d) (h : ¬Completes faults d) :
    ¬Atomic d (finalize faults args d) := by
  change ¬Atomic d (after faults args d 8)
  obtain ⟨hfail, -⟩ | ⟨-, d', hcall, hmoved⟩ := before_rename faults d houtcome
  · exact absurd hreach hfail
  · obtain ⟨staging, hstaged, hgone⟩ := hmoved.staging
    rcases after_rename hcall hgone with ⟨-, hraises⟩ | ⟨hfinishes, d'', hlast, -, -⟩
    · obtain ⟨error, herror⟩ := hraises.raised
      rw [Atomic, herror]
      intro hunchanged
      have hsame := hunchanged.staging staging
      rw [hraises.state, hstaged] at hsame
      exact absurd hsame Bool.false_ne_true
    · rw [Atomic, hlast]
      exact fun hcommits => h ((completes_iff_finishes hmoved hcommits.fresh).mpr hfinishes)

/-- A call with the outcome success or failure is atomic exactly when, if it gets through the
rename, nothing can go wrong any more and no directory had the new name before. -/
theorem finalize_atomic_iff (houtcome : args.outcome ≠ .discard) :
    Atomic d (finalize faults args d) ↔ (ReachesRename faults args d → Completes faults d) := by
  refine ⟨fun hatomic hreach => ?_, atomic_of_completes houtcome⟩
  by_contra hcompletes
  exact not_atomic_of_not_completes houtcome hreach hcompletes hatomic

end After

/-! ## Concrete datasets -/

/-- A sample that refers to the first frame of both cameras. -/
def firstSample : SampleRow ℚ where
  sampleIndex := 0
  timestampNs := 1
  state := []
  stateTimestampNs := 0
  actionPolicy := []
  policyActionTimestep := 0
  actionPolicyTimestampNs := 0
  actionGuarded := []
  actionGuardedTimestampNs := 0
  actionExecuted := []
  actionExecutedTimestampNs := 0
  gripperContact := false
  frames := ⟨0, 1, 0, 1⟩

def capturedEpisode : CaptureFiles ℚ where
  samples := .content [firstSample, firstSample]
  chunks := .content [⟨0, 0, 1, [[]]⟩]
  policyObservations := .content [⟨0, 1, [], ⟨0, 1, 0, 1⟩⟩]
  summary := .content ⟨2, 1, 1, fun _ => 0, true, ⟨1, 1, 0, 1, 1⟩, ⟨1, 1, 0, 1, 1⟩, none, none⟩
  videos := fun _ => true

def stagedEpisode (metadata : JsonFile EpisodeMetadata) : EpisodeFiles ℚ where
  capture := capturedEpisode
  transitions := none
  normalizedPolicyChunks := none
  policyObservations := none
  metadata
  other := false

def datasetWith (episodes : List (EpisodeDirectory ℚ)) : Dataset ℚ where
  episodes
  manifest := none
  summary := none
  manifestTmp := none
  summaryTmp := none
  staging := fun name => if name = [] then some (stagedEpisode .missing) else none

def successArgs : FinalizeArgs := ⟨some [], .success, "", "", "unknown", "", ""⟩

def noFaults : FileOp → Bool := fun _ => false

/-- The first commit of a dataset is atomic. -/
theorem first_commit_atomic :
    Atomic (datasetWith []) (finalize noFaults successArgs (datasetWith [])) :=
  (finalize_atomic_iff (by decide)).mpr fun _ =>
    ⟨fun _ hepisode => absurd hepisode List.not_mem_nil, fun _ _ => rfl, rfl,
      fun _ hepisode => absurd hepisode List.not_mem_nil⟩

/-- An episode whose metadata cannot be read: the next call raises after its rename. -/
theorem unreadable_metadata_not_atomic :
    ∃ d : Dataset ℚ, ∃ args : FinalizeArgs, args.outcome = .success ∧
      ¬Atomic d (finalize noFaults args d) := by
  refine ⟨datasetWith [⟨episodeName 0, stagedEpisode .unreadable⟩], successArgs, rfl,
    not_atomic_of_not_completes (by decide)
      ⟨⟨[], stagedEpisode .missing, rfl, rfl, by decide +kernel⟩,
      fun _ _ => rfl, ?_⟩ fun hcompletes => ?_⟩
  · intro episode hepisode hname
    obtain rfl := List.mem_singleton.mp hepisode
    exact absurd hname (by decide +kernel)
  · have hreadable := hcompletes.metadata _ (List.mem_singleton_self _) (isListed_episodeName 0)
    exact hreadable.parsed rfl

end SmolVlaQgf.EpisodeCommit
