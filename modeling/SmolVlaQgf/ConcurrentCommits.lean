import SmolVlaQgf.CommittedEpisodes
import SmolVlaQgf.ConcurrentFinalizers

/-!
# What concurrent finalizers leave behind

The directories, the manifest and the summary are the resource of the lock. While it is free
every committed directory belongs to one call, and the index is rebuilt if any call has
committed. A call that works on its staged directory does not disturb this.
-/

namespace SmolVlaQgf.ConcurrentCommits
open TransitionRuns ResourceInvariants FieldText EpisodeRecorder CaptureValidation TransitionTable
  EpisodeDataset EpisodeFinalizer EpisodeCommit CommittedEpisodes ConcurrentFinalizers

variable {ι K : Type}

/-! ## The resource of the lock -/

structure Ledger (ι K : Type) where
  episodes : List (EpisodeDirectory K)
  manifest : Option (List ManifestRow)
  summary : Option DatasetSummary
  allocations : List (Allocation ι)
  commits : List (Commit ι)

def ledger (s : Shared ι K) : Ledger ι K :=
  ⟨s.dataset.episodes, s.dataset.manifest, s.dataset.summary, s.allocations, s.commits⟩

section Resource

variable (args : ι → FinalizeArgs) (d₀ : Dataset K)

/-- The directory a call has committed: the staged capture, with the metadata of its index. -/
structure CommittedBy (commit : Commit ι) (episode : EpisodeDirectory K) : Prop where
  outcome : (args commit.caller).outcome ≠ .discard
  name : episode.name = episodeName commit.index
  metadata : ∃ tables, episode.files.metadata =
    .content (episodeMetadata (args commit.caller) tables commit.index)
  capture : ∃ staging files, (args commit.caller).staging = some staging ∧
    d₀.staging staging = some files ∧ episode.files.capture = files.capture

/-- The directories are the first ones and one for each commit; the indices increase, are
above all the first ones and below a million; no call has committed twice. -/
structure Directories (l : Ledger ι K) : Prop where
  episodes : ∃ new, l.episodes = d₀.episodes ++ new ∧
    List.Forall₂ (CommittedBy args d₀) l.commits new
  bounded : ∀ commit ∈ l.commits, commit.index < 10 ^ 6
  above : ∀ commit ∈ l.commits, ∀ index ∈ existingIndices d₀.episodes, index < commit.index
  increasing : l.commits.Pairwise (·.index < ·.index)
  callers : (l.commits.map (·.caller)).Nodup
  larger : ∀ allocation ∈ l.allocations, ∀ index ∈ allocation.present, index < allocation.index

def Allocated (pending : List (Commit ι)) (l : Ledger ι K) : Prop :=
  l.allocations.map (·.commit) = l.commits ++ pending

/-- The manifest and the summary are those of the directories. -/
structure Rebuilt (l : Ledger ι K) : Prop where
  manifest : l.manifest = some (committedRows l.episodes)
  summary : ∃ transitions now, totalTransitions (committedRows l.episodes) = some transitions ∧
    l.summary = some (datasetSummary (committedRows l.episodes) transitions now)

/-- Nothing is committed and the index is the first one, or the index is rebuilt. -/
def UpToDate (l : Ledger ι K) : Prop :=
  (l.commits = [] ∧ l.manifest = d₀.manifest ∧ l.summary = d₀.summary) ∨ Rebuilt l

structure Quiet (l : Ledger ι K) : Prop where
  directories : Directories args d₀ l
  allocated : Allocated [] l
  upToDate : UpToDate d₀ l

/-! ## The calls -/

def Uncommitted (i : ι) (s : Shared ι K) : Prop := ∀ commit ∈ s.commits, commit.caller ≠ i

/-- The staged directory of the call is there, with the capture it had at the start. -/
def Staged (i : ι) (s : Shared ι K) (Q : EpisodeFiles K → Prop) : Prop :=
  (args i).outcome ≠ .discard ∧ ∃ staging original files, (args i).staging = some staging ∧
    d₀.staging staging = some original ∧ s.dataset.staging staging = some files ∧
      files.capture = original.capture ∧ Q files

def OwnFiles (i : ι) (stage : Stage K) (s : Shared ι K) : Prop :=
  match stage with
  | .started => Uncommitted i s ∧ ∀ staging, (args i).staging = some staging →
      s.dataset.staging staging = d₀.staging staging
  | .validated _ _ => Uncommitted i s ∧ Staged args d₀ i s fun _ => True
  | .waiting _ => Uncommitted i s ∧ Staged args d₀ i s fun _ => True
  | .locked _ => Uncommitted i s ∧ Staged args d₀ i s fun _ => True
  | .allocated index => Uncommitted i s ∧ Staged args d₀ i s fun files =>
      ∃ tables, files.metadata = .content (episodeMetadata (args i) tables index)
  | .renamed index => ⟨i, index⟩ ∈ s.commits
  | .indexed index _ => ⟨i, index⟩ ∈ s.commits
  | .summarized index => ⟨i, index⟩ ∈ s.commits
  | .returned none => Uncommitted i s ∧ (args i).outcome = .discard
  | .returned (some destination) => ∃ index, ⟨i, index⟩ ∈ s.commits ∧
      destination = episodeName index
  | .raised _ => True

/-- What a call knows about the resource while it holds the lock. -/
def InLock (i : ι) (stage : Stage K) (l : Ledger ι K) : Prop :=
  match stage with
  | .locked _ => Quiet args d₀ l
  | .allocated index => index = nextMonotonicIndex l.episodes ∧ index < 10 ^ 6 ∧
      Directories args d₀ l ∧ Allocated [⟨i, index⟩] l ∧ UpToDate d₀ l
  | .renamed _ => Directories args d₀ l ∧ Allocated [] l
  | .indexed _ rows => Directories args d₀ l ∧ Allocated [] l ∧
      l.manifest = some (committedRows l.episodes) ∧ rows = committedRows l.episodes
  | .summarized _ => Quiet args d₀ l
  | _ => True

structure CallInvariant (i : ι) (stage : Stage K) (s : Shared ι K) : Prop where
  files : OwnFiles args d₀ i stage s
  resource : InLock args d₀ i stage (ledger s)

end Resource

variable {args : ι → FinalizeArgs} {d₀ : Dataset K} {i j : ι} {s s' : Shared ι K}
  {stage stage' : Stage K} {l : Ledger ι K}

private theorem inLock_of_outside (h : holdsLock stage = false) : InLock args d₀ i stage l := by
  cases stage with
  | started | validated | waiting | returned | raised => trivial
  | locked | allocated | renamed | indexed | summarized => cases h

/-! ## What a move changes -/

theorem ledger_eq_of_outside (h : Move args i s stage s' stage')
    (houtside : holdsLock stage = false) (houtside' : holdsLock stage' = false) :
    ledger s' = ledger s := by
  obtain ⟨d', hprogress, rfl⟩ := h.progress
  cases hprogress with
  | discarded | validated | tabulated => rfl
  | locked => cases houtside'
  | allocated | renamed | indexed | summarized | returned => cases houtside

theorem eq_of_replaceStaging {staging destination : Text} {d d' : Dataset K}
    (h : replaceStaging staging destination d = some d') :
    (∃ files, d.staging staging = some files ∧
      ((∀ episode ∈ d.episodes, episode.name ≠ destination) →
        d'.episodes = d.episodes ++ [⟨destination, files⟩])) ∧
      d'.staging = Function.update d.staging staging none ∧ d'.manifest = d.manifest ∧
      d'.summary = d.summary := by
  obtain ⟨files, hfiles, ⟨-, rfl⟩ | ⟨⟨episode, hmem, hname⟩, -, rfl⟩⟩ := replaceStaging_cases h
  · exact ⟨⟨files, hfiles, fun _ => rfl⟩, rfl, rfl, rfl⟩
  · exact ⟨⟨files, hfiles, fun hfresh => absurd hname (hfresh episode hmem)⟩, rfl, rfl, rfl⟩

/-- A call whose stage needs its staged directory has one. -/
theorem Staged.getD_eq {Q : EpisodeFiles K → Prop} (h : Staged args d₀ i s Q) :
    ∃ staging, (args i).staging = some staging ∧ (args i).staging.getD [] = staging := by
  obtain ⟨-, staging, -, -, hstaging, -⟩ := h
  exact ⟨staging, hstaging, by rw [hstaging, Option.getD_some]⟩

private theorem writeStaging_of_ne {staging name : Text} (hne : staging ≠ name)
    (f : EpisodeFiles K → EpisodeFiles K) (d : Dataset K) :
    (writeStaging staging f d).staging name = d.staging name :=
  Function.update_of_ne (Ne.symm hne) _ _

/-- A call leaves the staged directories of the others alone. -/
theorem staging_of_move (h : Move args i s stage s' stage') (hown : OwnFiles args d₀ i stage s)
    {name : Text} (hname : (args i).staging ≠ some name) :
    s'.dataset.staging name = s.dataset.staging name := by
  obtain ⟨d', hprogress, rfl⟩ := h.progress
  change d'.staging name = s.dataset.staging name
  have hne : ∀ {staging}, (args i).staging = some staging → staging ≠ name := by
    rintro staging hstaging rfl
    exact hname hstaging
  cases hprogress with
  | discarded hstaging => exact Function.update_of_ne (Ne.symm (hne hstaging)) _ _
  | validated | locked | indexed | summarized | returned => rfl
  | tabulated | allocated =>
    obtain ⟨staging, hstaging, hgetD⟩ := hown.2.getD_eq
    rw [hgetD]
    exact writeStaging_of_ne (hne hstaging) _ _
  | renamed hreplace =>
    obtain ⟨staging, hstaging, hgetD⟩ := hown.2.getD_eq
    rw [hgetD] at hreplace
    rw [(eq_of_replaceStaging hreplace).2.1, Function.update_of_ne (Ne.symm (hne hstaging))]

/-! ## Committing one more directory -/

theorem Directories.congr {l' : Ledger ι K} (h : Directories args d₀ l)
    (hepisodes : l'.episodes = l.episodes) (hcommits : l'.commits = l.commits)
    (hlarger : ∀ allocation ∈ l'.allocations, ∀ index ∈ allocation.present,
      index < allocation.index) : Directories args d₀ l' where
  episodes := by rw [hepisodes, hcommits]; exact h.episodes
  bounded := by rw [hcommits]; exact h.bounded
  above := by rw [hcommits]; exact h.above
  increasing := by rw [hcommits]; exact h.increasing
  callers := by rw [hcommits]; exact h.callers
  larger := hlarger

theorem UpToDate.congr {l' : Ledger ι K} (h : UpToDate d₀ l) (hepisodes : l'.episodes = l.episodes)
    (hmanifest : l'.manifest = l.manifest) (hsummary : l'.summary = l.summary)
    (hcommits : l'.commits = l.commits) : UpToDate d₀ l' := by
  rcases h with ⟨hnone, hfirst⟩ | hrebuilt
  · exact Or.inl ⟨hcommits.trans hnone, hmanifest.trans hfirst.1, hsummary.trans hfirst.2⟩
  · refine Or.inr ⟨?_, ?_⟩
    · rw [hmanifest, hepisodes]
      exact hrebuilt.manifest
    · rw [hsummary, hepisodes]
      exact hrebuilt.summary

private theorem exists_of_forall₂ {α β : Type*} {R : α → β → Prop} {as : List α} {bs : List β}
    (h : List.Forall₂ R as bs) {a : α} (ha : a ∈ as) : ∃ b ∈ bs, R a b := by
  induction h with
  | nil => cases ha
  | cons hab hrest ih =>
    rcases List.mem_cons.mp ha with rfl | ha
    · exact ⟨_, List.mem_cons_self, hab⟩
    · obtain ⟨b, hb, hab⟩ := ih ha
      exact ⟨b, List.mem_cons_of_mem _ hb, hab⟩

private theorem mem_existingIndices {episodes : List (EpisodeDirectory K)}
    {episode : EpisodeDirectory K}
    {index : ℕ} (hmem : episode ∈ episodes) (hbound : index < 10 ^ 6)
    (hname : episode.name = episodeName index) : index ∈ existingIndices episodes :=
  mem_existingIndices_iff.mpr ⟨hbound, episode, hmem, hname⟩

theorem name_ne_of_next {episodes : List (EpisodeDirectory K)}
    (hbound : nextMonotonicIndex episodes < 10 ^ 6) :
    ∀ episode ∈ episodes, episode.name ≠ episodeName (nextMonotonicIndex episodes) :=
  fun _ hmem hname =>
    absurd (lt_nextMonotonicIndex (mem_existingIndices hmem hbound hname)) (lt_irrefl _)

theorem Directories.mem_existingIndices (h : Directories args d₀ l) {commit : Commit ι}
    (hmem : commit ∈ l.commits) : commit.index ∈ existingIndices l.episodes := by
  obtain ⟨new, hepisodes, hnew⟩ := h.episodes
  obtain ⟨episode, hepisode, hcommitted⟩ := exists_of_forall₂ hnew hmem
  rw [hepisodes]
  exact ConcurrentCommits.mem_existingIndices (List.mem_append_right _ hepisode)
    (h.bounded commit hmem) hcommitted.name

theorem Directories.commit (h : Directories args d₀ l) {episode : EpisodeDirectory K}
    (hbound : nextMonotonicIndex l.episodes < 10 ^ 6)
    (hfresh : ∀ commit ∈ l.commits, commit.caller ≠ i)
    (hcommitted : CommittedBy args d₀ ⟨i, nextMonotonicIndex l.episodes⟩ episode) :
    Directories args d₀ { l with
      episodes := l.episodes ++ [episode]
      commits := l.commits ++ [⟨i, nextMonotonicIndex l.episodes⟩] } := by
  obtain ⟨new, hepisodes, hnew⟩ := h.episodes
  refine ⟨⟨new ++ [episode], ?_, ?_⟩, ?_, ?_, ?_, ?_, h.larger⟩
  · dsimp only
    rw [hepisodes, List.append_assoc]
  · exact List.rel_append hnew (.cons hcommitted .nil)
  · intro commit hmem
    rcases List.mem_append.mp hmem with hold | hlast
    · exact h.bounded commit hold
    · obtain rfl := List.mem_singleton.mp hlast
      exact hbound
  · intro commit hmem index hindex
    rcases List.mem_append.mp hmem with hold | hlast
    · exact h.above commit hold index hindex
    · obtain rfl := List.mem_singleton.mp hlast
      apply lt_nextMonotonicIndex
      rw [hepisodes, existingIndices, List.filterMap_append]
      exact List.mem_append_left _ hindex
  · rw [List.pairwise_append]
    refine ⟨h.increasing, List.pairwise_singleton _ _, fun commit hold last hlast => ?_⟩
    obtain rfl := List.mem_singleton.mp hlast
    exact lt_nextMonotonicIndex (h.mem_existingIndices hold)
  · dsimp only
    rw [List.map_append, List.map_singleton, List.nodup_append]
    refine ⟨h.callers, List.nodup_singleton _, fun caller hold last hlast => ?_⟩
    obtain ⟨commit, hmem, rfl⟩ := List.mem_map.mp hold
    obtain rfl := List.mem_singleton.mp hlast
    exact hfresh commit hmem

/-! ## The calls keep the invariants -/

theorem Staged.mono {Q Q' : EpisodeFiles K → Prop} (h : Staged args d₀ i s Q)
    {f : EpisodeFiles K → EpisodeFiles K} (hf : ∀ files, (f files).capture = files.capture)
    (hQ : ∀ files, Q files → Q' (f files))
    (hdataset : s'.dataset = writeStaging ((args i).staging.getD []) f s.dataset) :
    Staged args d₀ i s' Q' := by
  obtain ⟨houtcome, staging, original, files, hstaging, horiginal, hfiles, hcapture, hfilesQ⟩ := h
  refine ⟨houtcome, staging, original, f files, hstaging, horiginal, ?_, ?_, hQ files hfilesQ⟩
  · rw [hdataset, hstaging, Option.getD_some, writeStaging_self, hfiles, Option.map_some]
  · rw [hf, hcapture]

private theorem callInvariant_renamed {index : ℕ} {d' : Dataset K}
    (h : CallInvariant args d₀ i (.allocated index) s)
    (hreplace : replaceStaging ((args i).staging.getD []) (episodeName index) s.dataset = some d') :
    CallInvariant args d₀ i (.renamed index) (record i (.renamed index) d' s) := by
  obtain ⟨⟨hfresh, hstaged⟩, rfl, hbound, hdirectories, hallocated, -⟩ := h
  obtain ⟨houtcome, staging, original, files, hstaging, horiginal, hfiles, hcapture, hmetadata⟩ :=
    hstaged
  rw [hstaging, Option.getD_some] at hreplace
  obtain ⟨⟨files', hfiles', hepisodes⟩, -⟩ := eq_of_replaceStaging hreplace
  obtain rfl := Option.some.inj (hfiles.symm.trans hfiles')
  have hepisodes := hepisodes (name_ne_of_next hbound)
  have hcommitted : CommittedBy args d₀ ⟨i, nextMonotonicIndex s.dataset.episodes⟩
      ⟨episodeName (nextMonotonicIndex s.dataset.episodes), files⟩ :=
    ⟨houtcome, rfl, hmetadata, staging, original, hstaging, horiginal, hcapture⟩
  refine ⟨List.mem_append_right _ (List.mem_singleton_self _), ?_, ?_⟩
  · have hnew := hdirectories.commit hbound hfresh hcommitted
    exact hnew.congr hepisodes rfl hnew.larger
  · exact hallocated.trans (List.append_nil _).symm

/-- A call keeps its own invariant; the one that enters finds the resource invariant. -/
theorem callInvariant_of_move (hmove : Move args i s stage s' stage')
    (h : CallInvariant args d₀ i stage s)
    (hquiet : holdsLock stage = false → holdsLock stage' = true → Quiet args d₀ (ledger s)) :
    CallInvariant args d₀ i stage' s' := by
  have hbounded := hmove.bounded
  obtain ⟨d', hprogress, rfl⟩ := hmove.progress
  cases hprogress with
  | discarded hstaging houtcome => exact ⟨⟨h.files.1, houtcome⟩, trivial⟩
  | validated hstaging houtcome hstaged =>
    have horiginal := (h.files.2 _ hstaging).symm.trans hstaged
    exact ⟨⟨h.files.1, houtcome, _, _, _, hstaging, horiginal, hstaged, rfl, trivial⟩, trivial⟩
  | tabulated hf =>
    exact ⟨⟨h.files.1, h.files.2.mono hf (fun _ _ => trivial) rfl⟩, trivial⟩
  | locked => exact ⟨h.files, hquiet rfl rfl⟩
  | allocated =>
    have hindex := hbounded _ (List.mem_append_right _ (List.mem_singleton_self _))
    refine ⟨⟨h.files.1, Staged.mono h.files.2 ?_ ?_ rfl⟩, rfl, hindex, ?_, ?_,
      h.resource.upToDate.congr rfl rfl rfl rfl⟩
    · exact fun _ => rfl
    · exact fun _ _ => ⟨_, rfl⟩
    · have hdirectories := h.resource.directories
      refine hdirectories.congr rfl rfl fun allocation hmem => ?_
      rcases List.mem_append.mp hmem with hold | hlast
      · exact hdirectories.larger allocation hold
      · obtain rfl := List.mem_singleton.mp hlast
        exact fun index hpresent => lt_nextMonotonicIndex hpresent
    · have hallocated : s.allocations.map (·.commit) = s.commits ++ [] := h.resource.allocated
      change (s.allocations ++ [_]).map _ = _
      rw [List.map_append, hallocated, List.append_nil]
      rfl
  | renamed hreplace => exact callInvariant_renamed h hreplace
  | indexed =>
    obtain ⟨hdirectories, hallocated⟩ := h.resource
    exact ⟨h.files, hdirectories.congr rfl rfl hdirectories.larger, hallocated, rfl, rfl⟩
  | summarized htotal =>
    obtain ⟨hdirectories, hallocated, hmanifest, rfl⟩ := h.resource
    exact ⟨h.files, hdirectories.congr rfl rfl hdirectories.larger, hallocated,
      Or.inr ⟨hmanifest, _, _, htotal, rfl⟩⟩
  | returned => exact ⟨⟨_, h.files, rfl⟩, trivial⟩

/-- Only a rename commits, and only for the call that does it. -/
theorem mem_commits_of_move (hmove : Move args i s stage s' stage') {commit : Commit ι}
    (hcaller : commit.caller ≠ i) : commit ∈ s'.commits ↔ commit ∈ s.commits := by
  obtain ⟨d', hprogress, rfl⟩ := hmove.progress
  cases hprogress with
  | renamed hreplace =>
    change commit ∈ s.commits ++ [_] ↔ _
    rw [List.mem_append, List.mem_singleton, or_iff_left]
    rintro rfl
    exact hcaller rfl
  | _ => exact Iff.rfl

/-- A call does not disturb what another one knows about its own directory. -/
theorem ownFiles_of_move (hdistinct : ∀ i j staging, (args i).staging = some staging →
      (args j).staging = some staging → i = j)
    (hmove : Move args i s stage s' stage') (hij : i ≠ j) (hown : OwnFiles args d₀ i stage s)
    {other : Stage K} (h : OwnFiles args d₀ j other s) : OwnFiles args d₀ j other s' := by
  have hcommits : ∀ commit : Commit ι, commit.caller = j →
      (commit ∈ s'.commits ↔ commit ∈ s.commits) := by
    rintro commit rfl
    exact mem_commits_of_move hmove (Ne.symm hij)
  have huncommitted : Uncommitted j s → Uncommitted j s' := fun hs commit hmem hcaller =>
    hs commit ((hcommits commit hcaller).mp hmem) hcaller
  have hstaging : ∀ staging, (args j).staging = some staging →
      s'.dataset.staging staging = s.dataset.staging staging := fun staging hj =>
    staging_of_move hmove hown fun hi => hij (hdistinct i j staging hi hj)
  have hstaged : ∀ {Q : EpisodeFiles K → Prop}, Staged args d₀ j s Q → Staged args d₀ j s' Q := by
    rintro Q ⟨houtcome, staging, original, files, hj, horiginal, hfiles, hrest⟩
    exact ⟨houtcome, staging, original, files, hj, horiginal, (hstaging staging hj).trans hfiles,
      hrest⟩
  cases other with
  | started =>
    exact ⟨huncommitted h.1, fun staging hj => (hstaging staging hj).trans (h.2 staging hj)⟩
  | validated | waiting | locked | allocated => exact ⟨huncommitted h.1, hstaged h.2⟩
  | renamed | indexed | summarized => exact (hcommits _ rfl).mpr h
  | returned destination =>
    cases destination with
    | none => exact ⟨huncommitted h.1, h.2⟩
    | some destination =>
      obtain ⟨index, hmem, hname⟩ := h
      exact ⟨index, (hcommits _ rfl).mpr hmem, hname⟩
  | raised => trivial

/-- The finalizers observe the discipline of the lock. -/
theorem preserves_quiet (hdistinct : ∀ i j staging, (args i).staging = some staging →
      (args j).staging = some staging → i = j) :
    Preserves holdsLock (Move args) (fun s => Quiet args d₀ (ledger s))
      (CallInvariant args d₀) where
  own := fun hmove h hquiet => callInvariant_of_move hmove h hquiet
  other := by
    intro i j s stage s' stage' other hmove hij hown houtside h
    refine ⟨ownFiles_of_move hdistinct hmove hij hown.files h.files, ?_⟩
    by_cases hinside : holdsLock stage = true ∨ holdsLock stage' = true
    · exact inLock_of_outside (houtside hinside)
    · rw [not_or, Bool.not_eq_true, Bool.not_eq_true] at hinside
      rw [ledger_eq_of_outside hmove hinside.1 hinside.2]
      exact h.resource
  resource := by
    intro i s stage s' stage' hmove h hquiet houtside
    cases hstage : holdsLock stage with
    | false =>
      rw [ledger_eq_of_outside hmove hstage houtside]
      exact hquiet hstage
    | true =>
      obtain ⟨d', hprogress, rfl⟩ := hmove.progress
      cases hprogress with
      | returned => exact h.resource
      | discarded | validated | tabulated => cases hstage
      | locked | allocated | renamed | indexed | summarized => cases houtside

/-! ## When all calls have returned -/

section Runs

variable [DecidableEq ι]

structure NothingLost (args : ι → FinalizeArgs) (d₀ : Dataset K) (s : System ι K) : Prop where
  once : ∀ i, (args i).outcome ≠ .discard → (s.shared.commits.map (·.caller)).count i = 1
  destination : ∀ commit ∈ s.shared.commits,
    s.stage commit.caller = .returned (some (episodeName commit.index))
  directories : ∃ new, s.shared.dataset.episodes = d₀.episodes ++ new ∧
    List.Forall₂ (CommittedBy args d₀) s.shared.commits new
  distinct : (s.shared.commits.map (·.index)).Nodup
  allocated : s.shared.allocations.map (·.commit) = s.shared.commits
  larger : ∀ allocation ∈ s.shared.allocations, ∀ index ∈ allocation.present,
    index < allocation.index
  indexed : ((∃ i, (args i).outcome ≠ .discard) ∨ Indexed d₀) → Indexed s.shared.dataset

omit [DecidableEq ι] in
private theorem names_of_commits {commits : List (Commit ι)} {new : List (EpisodeDirectory K)}
    (h : List.Forall₂ (CommittedBy args d₀) commits new) :
    new.map (·.name) = commits.map fun commit => episodeName commit.index := by
  induction h with
  | nil => rfl
  | cons hcommitted hrest ih => rw [List.map_cons, List.map_cons, hcommitted.name, ih]

omit [DecidableEq ι] in
theorem Directories.wellFormed (h : Directories args d₀ l) (hfirst : WellFormed d₀.episodes) :
    WellFormed l.episodes := by
  obtain ⟨new, hepisodes, hnew⟩ := h.episodes
  have hcommit : ∀ episode ∈ new, ∃ commit ∈ l.commits, CommittedBy args d₀ commit episode :=
    fun episode hmem => exists_of_forall₂ hnew.flip hmem
  rw [hepisodes]
  constructor
  · have hnames := names_of_commits hnew
    rw [List.map_append, List.nodup_append]
    refine ⟨hfirst.nodup, ?_, ?_⟩
    · rw [hnames, List.Nodup, List.pairwise_map]
      refine h.increasing.imp_of_mem fun ha hb hlt hname => ?_
      exact absurd (episodeName_injOn (h.bounded _ ha) (h.bounded _ hb) hname) (Nat.ne_of_lt hlt)
    · intro name hold name' hlast
      obtain ⟨episode, hmem, rfl⟩ := List.mem_map.mp hold
      obtain ⟨episode', hmem', rfl⟩ := List.mem_map.mp hlast
      obtain ⟨commit, hcommits, hcommitted⟩ := hcommit episode' hmem'
      intro hname
      have hindex := ConcurrentCommits.mem_existingIndices hmem (h.bounded commit hcommits)
        (hname.trans hcommitted.name)
      exact absurd (h.above commit hcommits _ hindex) (lt_irrefl _)
  · intro episode hmem
    rw [committedEpisodes, List.filter_append, List.mem_append] at hmem
    rcases hmem with hold | hlast
    · exact hfirst.committed episode hold
    · obtain ⟨commit, hcommits, hcommitted⟩ := hcommit episode (List.mem_filter.mp hlast).1
      obtain ⟨tables, hmetadata⟩ := hcommitted.metadata
      exact ⟨commit.index, h.bounded commit hcommits, hcommitted.name, _, hmetadata, rfl, rfl⟩

omit [DecidableEq ι] in
/-- An index that is up to date after a commit, or was right before the first one, is right. -/
theorem Quiet.indexed {d : Dataset K} {allocations : List (Allocation ι)}
    {commits : List (Commit ι)} (h : Quiet args d₀ (ledger ⟨d, allocations, commits⟩))
    (hfirst : WellFormed d₀.episodes) (hcommits : commits ≠ [] ∨ Indexed d₀) : Indexed d := by
  rcases h.upToDate with ⟨hnone, hmanifest, hsummary⟩ | hrebuilt
  · obtain ⟨rows, summary, hrows, hsum, hperm, hpairwise, hcounts⟩ :=
      (hcommits.resolve_left fun hsome => hsome hnone).indexed
    obtain ⟨new, hepisodes, hnew⟩ := h.directories.episodes
    rw [hnone] at hnew
    cases hnew
    rw [List.append_nil] at hepisodes
    refine ⟨rows, summary, hmanifest.trans hrows, hsummary.trans hsum, ?_, hpairwise, hcounts⟩
    rwa [show d.episodes = d₀.episodes from hepisodes]
  · obtain ⟨transitions, now, htotal, hsummary⟩ := hrebuilt.summary
    exact indexed_of_rebuilt (h.directories.wellFormed hfirst) hrebuilt.manifest htotal hsummary

omit [DecidableEq ι] in
private theorem nothingLost_of_returned [DecidableEq ι] {t : System ι K}
    (h : Invariant holdsLock (fun s => Quiet args d₀ (ledger s)) (CallInvariant args d₀) t)
    (hfirst : WellFormed d₀.episodes)
    (hreturned : ∀ i, ∃ destination, t.stage i = .returned destination) :
    NothingLost args d₀ t := by
  have hquiet : Quiet args d₀ (ledger t.shared) := h.resource (h.free_of_outside fun i => by
    obtain ⟨destination, hi⟩ := hreturned i
    rw [hi]
    rfl)
  have hdirectories := hquiet.directories
  have hcommitted : ∀ i, (args i).outcome ≠ .discard →
      ∃ commit ∈ t.shared.commits, commit.caller = i := by
    intro i houtcome
    have hown := (h.own i).files
    obtain ⟨destination, hi⟩ := hreturned i
    rw [hi] at hown
    cases destination with
    | none => exact absurd hown.2 houtcome
    | some destination =>
      obtain ⟨index, hmem, -⟩ := hown
      exact ⟨_, hmem, rfl⟩
  refine ⟨fun i houtcome => ?_, fun commit hmem => ?_, hdirectories.episodes, ?_, ?_,
    hdirectories.larger, fun hindexed => hquiet.indexed hfirst ?_⟩
  · obtain ⟨commit, hmem, rfl⟩ := hcommitted i houtcome
    exact List.count_eq_one_of_mem hdirectories.callers (List.mem_map_of_mem hmem)
  · have hown := (h.own commit.caller).files
    obtain ⟨destination, hi⟩ := hreturned commit.caller
    rw [hi] at hown ⊢
    cases destination with
    | none => exact absurd rfl (hown.1 commit hmem)
    | some destination =>
      obtain ⟨index, hmem', rfl⟩ := hown
      have hsame := List.inj_on_of_nodup_map hdirectories.callers hmem hmem' rfl
      rw [hsame]
  · rw [List.Nodup, List.pairwise_map]
    exact hdirectories.increasing.imp Nat.ne_of_lt
  · exact hquiet.allocated.trans (List.append_nil _)
  · refine hindexed.imp_left fun ⟨i, houtcome⟩ hnone => ?_
    obtain ⟨commit, hmem, -⟩ := hcommitted i houtcome
    rw [hnone] at hmem
    cases hmem

omit [DecidableEq ι] in
theorem invariant_initial (args : ι → FinalizeArgs) (d₀ : Dataset K) :
    Invariant holdsLock (fun s => Quiet args d₀ (ledger s)) (CallInvariant args d₀)
      (initial d₀ : System ι K) where
  owner := fun i => by simp [initial, holdsLock]
  resource := fun _ => by
    refine ⟨⟨⟨[], (List.append_nil _).symm, .nil⟩, ?_, ?_, .nil, .nil, ?_⟩, rfl,
      Or.inl ⟨rfl, rfl, rfl⟩⟩
    · exact fun commit hmem => absurd hmem List.not_mem_nil
    · exact fun commit hmem => absurd hmem List.not_mem_nil
    · exact fun allocation hmem => absurd hmem List.not_mem_nil
  own := fun i => ⟨⟨fun commit hmem => absurd hmem List.not_mem_nil, fun _ _ => rfl⟩, trivial⟩

/-- Whatever the interleaving, once all calls have returned every success and failure call has
committed one directory under an index of its own, above all indices it found, and the
manifest and the summary are those of the committed episodes. -/
theorem concurrent_finalizers_lose_nothing [Zero K] [One K]
    (hdistinct : ∀ i j staging, (args i).staging = some staging →
      (args j).staging = some staging → i = j)
    (hfirst : WellFormed d₀.episodes) {ls : List (ι × (FileOp → Bool))} {t : System ι K}
    (hrun : Run (Steps (next args)) (initial d₀) ls t)
    (hreturned : ∀ i, ∃ destination, t.stage i = .returned destination)
    (hbounded : ∀ allocation ∈ t.shared.allocations, allocation.index < 10 ^ 6) :
    NothingLost args d₀ t := by
  have hregular : Regular t := by
    refine ⟨fun i error hraised => ?_, hbounded⟩
    obtain ⟨destination, hi⟩ := hreturned i
    rw [hi] at hraised
    cases hraised
  refine nothingLost_of_returned ?_ hfirst hreturned
  refine invariant_of_run (preserves_quiet hdistinct) ?_ (moves_of_run hrun hregular)
    (invariant_initial args d₀)
  rintro s label t ⟨hnext, ht⟩
  exact ⟨label.1, lockStep_of_next hnext ht⟩

end Runs

/-! ## A concrete interleaving -/

def hasReturned : Stage K → Bool
  | .returned _ => true
  | _ => false

private theorem exists_of_hasReturned (h : hasReturned stage = true) :
    ∃ destination, stage = .returned destination := by
  cases stage with
  | returned destination => exact ⟨destination, rfl⟩
  | _ => cases h

def twoStaged : Dataset ℚ where
  episodes := []
  manifest := none
  summary := none
  manifestTmp := none
  summaryTmp := none
  staging := fun name => if name.length < 2 then some (stagedEpisode .missing) else none

def twoCalls (first : Bool) : FinalizeArgs where
  staging := some (if first then [] else ['x'])
  outcome := if first then .success else .failure
  task := ""
  notes := ""
  terminationSource := "unknown"
  finalizedAtUtc := ""
  updatedAtUtc := ""

/-- The second call validates while the first one holds the lock, and commits after it. -/
def interleaving : List (Bool × (FileOp → Bool)) :=
  [true, true, true, true, false, false, true, true, true, true, false, false, false, false, false,
    false].map fun first => (first, noFaults)

/-- Both calls have committed and returned, and the indices are in range. -/
def completed (t : System Bool ℚ) : Bool :=
  hasReturned (t.stage true) && hasReturned (t.stage false) &&
    (t.shared.allocations.all fun allocation => decide (allocation.index < 10 ^ 6)) &&
    decide (t.shared.commits.map (fun commit => (commit.caller, commit.index)) =
      [(true, 0), (false, 1)])

/-- The listed directories, which are sorted only if they are not in order already. -/
def orderedEpisodes (episodes : List (EpisodeDirectory K)) : List (EpisodeDirectory K) :=
  let listed := episodes.filter fun episode => isListed episode.name
  if listed.Pairwise (fun a b => a.name ≤ b.name) then listed else sortedEpisodes episodes

private theorem sortedEpisodes_eq (episodes : List (EpisodeDirectory K)) :
    sortedEpisodes episodes = orderedEpisodes episodes := by
  rw [orderedEpisodes]
  split
  · rename_i hordered
    exact List.mergeSort_of_pairwise (hordered.imp fun h => decide_eq_true h)
  · rfl

private theorem completed_interleaving :
    (execute (next twoCalls) (initial twoStaged) interleaving).any completed = true := by
  -- A merge sort does not reduce in the kernel.
  unfold next advance rebuildManifest
  simp only [sortedEpisodes_eq]
  decide +kernel

theorem interleaved_calls_lose_nothing : ∃ t,
    Run (Steps (next twoCalls)) (initial twoStaged) interleaving t ∧
      NothingLost twoCalls twoStaged t ∧
      t.shared.commits.map (fun commit => (commit.caller, commit.index)) =
        [(true, 0), (false, 1)] := by
  obtain ⟨t, hrun, hcompleted⟩ := exists_run_of_execute (next twoCalls) (initial twoStaged)
    interleaving completed completed_interleaving
  simp only [completed, Bool.and_eq_true, List.all_eq_true, decide_eq_true_eq] at hcompleted
  obtain ⟨⟨⟨htrue, hfalse⟩, hbounded⟩, hcommits⟩ := hcompleted
  have hfirst : WellFormed twoStaged.episodes :=
    ⟨List.nodup_nil, fun episode hmem => absurd hmem List.not_mem_nil⟩
  refine ⟨t, hrun, concurrent_finalizers_lose_nothing ?_ hfirst hrun ?_ hbounded, hcommits⟩
  · intro i j staging hi hj
    cases i <;> cases j <;> simp_all [twoCalls]
  · intro i
    cases i with
    | true => exact exists_of_hasReturned htrue
    | false => exact exists_of_hasReturned hfalse

end SmolVlaQgf.ConcurrentCommits
