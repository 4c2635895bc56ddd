import SmolVlaQgf.CommittedDiscovery

/-!
# Are episode numbers reused?

The next index follows the largest one in use. A directory that has been deleted is in use
no longer, so the number of the newest episode is free again until the next commit; smaller
numbers stay gaps. Names of seven digits are not read as indices.
-/

namespace SmolVlaQgf.EpisodeNumbers
open TransitionRuns FieldText EpisodeDataset EpisodeFinalizer EpisodeCommit FinalizerEffects
  CommittedDiscovery

variable {K : Type}

/-! ## The index of a commit -/

section Calls

variable [Zero K] [One K] {faults : FileOp → Bool} {args : FinalizeArgs} {d : Dataset K}

/-- The call is not a discard and gets through its rename. -/
def CommitsEpisode (faults : FileOp → Bool) (args : FinalizeArgs) (d : Dataset K) : Prop :=
  args.outcome ≠ .discard ∧ ReachesRename faults args d

def committedIndex? (faults : FileOp → Bool) (args : FinalizeArgs) (d : Dataset K) : Option ℕ :=
  match (after faults args d 5).2 with
  | .renamed index => some index
  | _ => none

private theorem committedIndex?_of_discard (houtcome : args.outcome = .discard) :
    committedIndex? faults args d = none := by
  rw [committedIndex?]
  cases hstaging : args.staging with
  | none =>
    have hraises : Raises (· = d) (after faults args d 5) :=
      after_of_not_staged hstaging (by omega)
    obtain ⟨error, herror⟩ := hraises.raised
    rw [herror]
  | some staging => rw [after_discard houtcome hstaging (by omega)]

theorem committedIndex?_eq (faults : FileOp → Bool) (args : FinalizeArgs) (d : Dataset K) :
    (CommitsEpisode faults args d ∧
      committedIndex? faults args d = some (nextMonotonicIndex d.episodes)) ∨
    (¬CommitsEpisode faults args d ∧ committedIndex? faults args d = none) := by
  by_cases houtcome : args.outcome = .discard
  · exact Or.inr ⟨fun h => h.1 houtcome, committedIndex?_of_discard houtcome⟩
  · rcases before_rename faults d houtcome with ⟨hfail, hraises⟩ | ⟨hreach, d', hcall, -⟩
    · obtain ⟨error, herror⟩ := hraises.raised
      exact Or.inr ⟨fun h => hfail h.2, by rw [committedIndex?, herror]⟩
    · exact Or.inl ⟨⟨houtcome, hreach⟩, by rw [committedIndex?, hcall]⟩

end Calls

/-! ## The directories after a call -/

/-- What a stage has done to the committed directories: nothing before the rename, and no more
than one new name behind it. -/
def Places (d : Dataset K) (call : Dataset K × Stage K) : Prop :=
  match call.2 with
  | .started | .validated _ _ | .waiting _ | .locked _ => call.1.episodes = d.episodes
  | .allocated index => call.1.episodes = d.episodes ∧ index = nextMonotonicIndex d.episodes
  | _ => ∀ episode ∈ call.1.episodes, episode ∈ d.episodes ∨ episode.name = nextName d

private theorem places_raised {d d' : Dataset K} (h : ∀ episode ∈ d'.episodes,
    episode ∈ d.episodes ∨ episode.name = nextName d) (error : FinalizeError) :
    Places d (d', .raised error) := h

theorem mem_of_replaceStaging {staging destination : Text} {d d' : Dataset K}
    (h : replaceStaging staging destination d = some d') {episode : EpisodeDirectory K}
    (hepisode : episode ∈ d'.episodes) : episode ∈ d.episodes ∨ episode.name = destination := by
  obtain ⟨files, -, ⟨-, rfl⟩ | ⟨-, -, rfl⟩⟩ := replaceStaging_cases h
  · rcases List.mem_append.mp hepisode with hold | hnew
    · exact Or.inl hold
    · exact Or.inr (by rw [List.mem_singleton.mp hnew])
  · obtain ⟨old, hold, rfl⟩ := List.mem_map.mp hepisode
    split
    · exact Or.inr rfl
    · exact Or.inl hold

section Stages

variable {faults : FileOp → Bool} {args : FinalizeArgs} {d d' : Dataset K}

theorem Places.attempt {op : FileOp} {call : Dataset K × Stage K}
    (hd : ∀ episode ∈ d'.episodes, episode ∈ d.episodes ∨ episode.name = nextName d)
    (h : Places d call) : Places d (attempt faults op d' call) :=
  attempt_rule (places_raised hd _) h

private theorem mem_of_episodes_eq (h : d'.episodes = d.episodes) :
    ∀ episode ∈ d'.episodes, episode ∈ d.episodes ∨ episode.name = nextName d :=
  fun _ hepisode => Or.inl (h ▸ hepisode)

private theorem places_validate (hd : d'.episodes = d.episodes) :
    Places d (validate faults args d') := by
  have hold := mem_of_episodes_eq hd
  rw [validate]
  cases args.staging with
  | none => exact hold
  | some staging =>
    dsimp only
    split
    · split <;> exact hold
    · refine .attempt hold ?_
      split
      · exact hold
      · split
        · exact hold
        · exact hd

private theorem places_tabulate [Zero K] [One K] (hd : d'.episodes = d.episodes) (staging : Text)
    (samples : List (EpisodeRecorder.SampleRow K)) (capture : CaptureValidation.CaptureSummary) :
    Places d (tabulate faults args d' staging samples capture) := by
  have hold := mem_of_episodes_eq hd
  rw [tabulate]
  split
  · exact hold
  · exact .attempt hold (.attempt hold (.attempt hold (.attempt hold (.attempt hold
      (.attempt hold (.attempt hold hd))))))

theorem Places.advance [Zero K] [One K] {stage : Stage K} (h : Places d (d', stage)) :
    Places d (advance faults args d' stage) := by
  cases stage with
  | started => exact places_validate h
  | validated samples capture => exact places_tabulate h _ samples capture
  | waiting tables => exact .attempt (mem_of_episodes_eq h) h
  | locked tables =>
    have hold := mem_of_episodes_eq h
    have hepisodes : d'.episodes = d.episodes := h
    exact .attempt hold (.attempt hold ⟨hepisodes, by rw [hepisodes]⟩)
  | allocated index =>
    obtain ⟨hepisodes, rfl⟩ := h
    have hold := mem_of_episodes_eq hepisodes
    refine .attempt hold ?_
    split
    · exact hold
    · rename_i d'' hreplaced
      intro episode hepisode
      exact hepisodes ▸ mem_of_replaceStaging hreplaced hepisode
  | renamed index =>
    refine .attempt h ?_
    split
    · exact h
    · exact .attempt h (.attempt h h)
  | indexed index rows =>
    rw [EpisodeFinalizer.advance, rebuildSummary]
    split
    · exact h
    · exact .attempt h (.attempt h h)
  | summarized index => exact .attempt h h
  | returned destination => exact h
  | raised error => exact h

variable [Zero K] [One K]

/-- After a call there are the old directories and at most the one of its episode. -/
theorem mem_of_finalize {episode : EpisodeDirectory K}
    (h : episode ∈ (finalize faults args d).1.episodes) :
    episode ∈ d.episodes ∨ episode.name = nextName d := by
  have hplaces : ∀ n, Places d (after faults args d n) := by
    intro n
    induction n with
    | zero => exact (rfl : d.episodes = d.episodes)
    | succ n ih =>
      rw [after_succ]
      exact ih.advance
  have hlast : Places d (finalize faults args d) := hplaces 8
  rw [Places] at hlast
  split at hlast
  · exact mem_of_episodes_eq hlast episode h
  · exact mem_of_episodes_eq hlast episode h
  · exact mem_of_episodes_eq hlast episode h
  · exact mem_of_episodes_eq hlast episode h
  · exact mem_of_episodes_eq hlast.1 episode h
  · exact hlast episode h

/-- A call that does not commit leaves the directories as they are. -/
theorem episodes_of_not_commits (h : ¬CommitsEpisode faults args d) :
    (finalize faults args d).1.episodes = d.episodes :=
  episodes_of_not_reachesRename fun houtcome hreach => h ⟨houtcome, hreach⟩

end Stages

/-! ## Histories -/

/-- What happens to a dataset root in the course of time: the recorder writes a staged
directory, a finalizer is called, somebody deletes a committed directory. -/
inductive HistoryLabel (K : Type) where
  | record (name : Text) (files : EpisodeFiles K)
  | finalize (faults : FileOp → Bool) (args : FinalizeArgs)
  | delete (name : Text)

/-- The dataset, and the indices given to all commits so far in the order of the commits. -/
structure History (K : Type) where
  dataset : Dataset K
  given : List ℕ

/-- Remove a committed directory with its files. -/
def deleteEpisode (name : Text) (d : Dataset K) : Dataset K :=
  { d with episodes := d.episodes.filter fun episode => decide (episode.name ≠ name) }

def historyStep [Zero K] [One K] (s : History K) : HistoryLabel K → History K
  | .record name files => { s with dataset := recordFiles name files s.dataset }
  | .finalize faults args =>
      { dataset := (EpisodeFinalizer.finalize faults args s.dataset).1
        given := s.given ++ (committedIndex? faults args s.dataset).toList }
  | .delete name => { s with dataset := deleteEpisode name s.dataset }

def HistorySteps [Zero K] [One K] (s : History K) (label : HistoryLabel K) (t : History K) : Prop :=
  historyStep s label = t

def historyOf (d : Dataset K) : History K := ⟨d, []⟩

/-- When an episode is committed, the directory of the commit before it is still there, under a
name of six digits. -/
def KeepsNewest [Zero K] [One K] (s : History K) : HistoryLabel K → Prop
  | .finalize faults args => CommitsEpisode faults args s.dataset →
      ∀ newest, s.given.getLast? = some newest →
        newest < 10 ^ 6 ∧ ∃ episode ∈ s.dataset.episodes, episode.name = episodeName newest
  | _ => True

section Histories

variable [Zero K] [One K] {s t : History K} {label : HistoryLabel K}

/-- No index in use is beyond the last one given. -/
def LastIsLargest (s : History K) : Prop :=
  ∀ newest, s.given.getLast? = some newest → ∀ index ∈ existingIndices s.dataset.episodes,
    index ≤ newest

/-- Every index in use has been given, and so has every one below a given one; without a
repetition the indices have been given in order. -/
structure AllGiven (s : History K) : Prop where
  existing : ∀ index ∈ existingIndices s.dataset.episodes, index ∈ s.given
  below : ∀ index ∈ s.given, ∀ smaller < index, smaller ∈ s.given
  increasing : s.given.Nodup → s.given.Pairwise (· < ·)

omit [Zero K] [One K] in
private theorem existingIndices_subset {old new : List (EpisodeDirectory K)} (h : ∀ episode ∈ new,
    episode ∈ old) : existingIndices new ⊆ existingIndices old := by
  intro index hindex
  obtain ⟨hlt, episode, hepisode, hname⟩ := mem_existingIndices_iff.mp hindex
  exact mem_existingIndices_iff.mpr ⟨hlt, episode, h episode hepisode, hname⟩

/-- The indices in use after a call. -/
theorem mem_existingIndices_finalize {faults : FileOp → Bool} {args : FinalizeArgs}
    {d : Dataset K} {index : ℕ}
    (h : index ∈ existingIndices (finalize faults args d).1.episodes) :
    index ∈ existingIndices d.episodes ∨ index = nextMonotonicIndex d.episodes := by
  obtain ⟨episode, hepisode, hindex⟩ := List.mem_filterMap.mp h
  rcases mem_of_finalize hepisode with hold | hname
  · exact Or.inl (List.mem_filterMap.mpr ⟨episode, hold, hindex⟩)
  · rw [hname] at hindex
    exact Or.inr (eq_of_indexOf?_episodeName hindex)

/-- Either a step gives no index and no new one is in use, or it commits an episode under the
next index. -/
theorem step_cases (h : HistorySteps s label t) :
    (t.given = s.given ∧ KeepsNewest s label ∧
      existingIndices t.dataset.episodes ⊆ existingIndices s.dataset.episodes) ∨
    (t.given = s.given ++ [nextMonotonicIndex s.dataset.episodes] ∧
      (KeepsNewest s label ↔ ∀ newest, s.given.getLast? = some newest →
        newest ∈ existingIndices s.dataset.episodes) ∧
      ∀ index ∈ existingIndices t.dataset.episodes,
        index ∈ existingIndices s.dataset.episodes ∨
          index = nextMonotonicIndex s.dataset.episodes) := by
  subst h
  cases label with
  | record name files => exact Or.inl ⟨rfl, trivial, fun _ hindex => hindex⟩
  | delete name =>
    refine Or.inl ⟨rfl, trivial, existingIndices_subset fun episode hepisode => ?_⟩
    exact (List.mem_filter.mp hepisode).1
  | finalize faults args =>
    rcases committedIndex?_eq faults args s.dataset with
      ⟨hcommits, hgiven⟩ | ⟨hnot, hgiven⟩
    · refine Or.inr ⟨by rw [historyStep, hgiven, Option.toList_some], ?_,
        fun index hindex => mem_existingIndices_finalize hindex⟩
      simp only [KeepsNewest, hcommits, forall_const, mem_existingIndices_iff]
    · refine Or.inl ⟨by rw [historyStep, hgiven, Option.toList_none, List.append_nil],
        fun hcommits => absurd hcommits hnot, existingIndices_subset fun episode hepisode => ?_⟩
      exact episodes_of_not_commits hnot ▸ hepisode

theorem LastIsLargest.step (h : LastIsLargest s) (hstep : HistorySteps s label t) :
    LastIsLargest t := by
  rcases step_cases hstep with ⟨hgiven, -, hsubset⟩ | ⟨hgiven, -, hexisting⟩
  · intro newest hnewest index hindex
    exact h newest (hgiven ▸ hnewest) index (hsubset hindex)
  · intro newest hnewest index hindex
    rw [hgiven, List.getLast?_concat] at hnewest
    obtain rfl := Option.some.inj hnewest
    rcases hexisting index hindex with hold | rfl
    · exact Nat.le_of_lt (lt_nextMonotonicIndex hold)
    · exact Nat.le_refl _

omit [Zero K] [One K] in
/-- The next index is beyond the last one given exactly if that one is still in use. -/
theorem LastIsLargest.lt_next_iff (h : LastIsLargest s) {newest : ℕ}
    (hnewest : s.given.getLast? = some newest) :
    newest < nextMonotonicIndex s.dataset.episodes ↔
      newest ∈ existingIndices s.dataset.episodes := by
  refine ⟨fun hlt => ?_, lt_nextMonotonicIndex⟩
  rcases nextMonotonicIndex_cases s.dataset.episodes with hzero | ⟨index, hindex, hnext⟩
  · omega
  · have hle := h newest hnewest index hindex
    have hsame : newest = index := by omega
    exact hsame ▸ hindex

/-- An increasing list stays so with a number beyond its last one. -/
theorem pairwise_concat_iff {given : List ℕ} {next : ℕ} :
    (given ++ [next]).Pairwise (· < ·) ↔
      given.Pairwise (· < ·) ∧ ∀ newest, given.getLast? = some newest → newest < next := by
  rcases List.eq_nil_or_concat given with rfl | ⟨earlier, newest, rfl⟩
  · simp
  · rw [List.concat_eq_append, List.pairwise_append]
    refine and_congr_right fun hincreasing => ?_
    simp only [List.pairwise_singleton, true_and, List.mem_singleton, forall_eq,
      List.getLast?_concat, Option.some.injEq, forall_eq']
    refine ⟨fun hall => hall newest (by simp), fun hlt index hindex => ?_⟩
    rcases List.mem_append.mp hindex with hearlier | hnewest
    · exact ((List.pairwise_append.mp hincreasing).2.2 index hearlier newest (by simp)).trans hlt
    · exact List.mem_singleton.mp hnewest ▸ hlt

private theorem increasing_step (h : LastIsLargest s) (hstep : HistorySteps s label t) :
    t.given.Pairwise (· < ·) ↔ s.given.Pairwise (· < ·) ∧ KeepsNewest s label := by
  rcases step_cases hstep with ⟨hgiven, hkeeps, -⟩ | ⟨hgiven, hkeeps, -⟩
  · rw [hgiven, and_iff_left hkeeps]
  · rw [hgiven, pairwise_concat_iff, hkeeps]
    exact and_congr_right fun _ => forall₂_congr fun newest hnewest => h.lt_next_iff hnewest

omit [Zero K] [One K] in
theorem AllGiven.below_next (h : AllGiven s) {index : ℕ}
    (hindex : index < nextMonotonicIndex s.dataset.episodes) : index ∈ s.given := by
  rcases nextMonotonicIndex_cases s.dataset.episodes with hzero | ⟨largest, hlargest, hnext⟩
  · omega
  · have hgiven := h.existing largest hlargest
    rcases Nat.lt_or_eq_of_le (show index ≤ largest by omega) with hlt | rfl
    · exact h.below largest hgiven index hlt
    · exact hgiven

theorem AllGiven.step (h : AllGiven s) (hstep : HistorySteps s label t) : AllGiven t := by
  rcases step_cases hstep with ⟨hgiven, -, hsubset⟩ | ⟨hgiven, -, hexisting⟩
  · refine ⟨fun index hindex => ?_, ?_, ?_⟩
    · exact hgiven ▸ h.existing index (hsubset hindex)
    · exact hgiven ▸ h.below
    · exact hgiven ▸ h.increasing
  · refine ⟨fun index hindex => ?_, fun index hindex smaller hsmaller => ?_, fun hnodup => ?_⟩
    · rw [hgiven, List.mem_append, List.mem_singleton]
      exact (hexisting index hindex).imp_left (h.existing index)
    · rw [hgiven, List.mem_append, List.mem_singleton] at hindex
      rw [hgiven]
      rcases hindex with hindex | rfl
      · exact List.mem_append_left _ (h.below index hindex smaller hsmaller)
      · exact List.mem_append_left _ (h.below_next hsmaller)
    · rw [hgiven] at hnodup
      obtain ⟨hnodup, -, hdisjoint⟩ := List.nodup_append.mp hnodup
      rw [hgiven, pairwise_concat_iff]
      refine ⟨h.increasing hnodup, fun newest hnewest => ?_⟩
      have hmem := List.mem_of_getLast? hnewest
      have hne := hdisjoint newest hmem _ (List.mem_singleton_self _)
      by_contra hnot
      have hnext : nextMonotonicIndex s.dataset.episodes ∈ s.given :=
        h.below newest hmem _ (by omega)
      exact hdisjoint _ hnext _ (List.mem_singleton_self _) rfl

theorem run_foldl (labels : List (HistoryLabel K)) (s : History K) :
    Run HistorySteps s labels (labels.foldl historyStep s) := by
  induction labels generalizing s with
  | nil => exact .nil
  | cons label labels ih => exact .cons rfl (ih (historyStep s label))

/-- In every history of a dataset, the indices are given in increasing order exactly if each
commit finds the directory of the commit before it, under a name of six digits; and if no
episode was there at first, an index is given again exactly if one commit does not. -/
theorem episode_numbers_increasing_iff {d : Dataset K} {labels : List (HistoryLabel K)}
    (hrun : Run HistorySteps (historyOf d) labels s) :
    (s.given.Pairwise (· < ·) ↔ Run (Restricted KeepsNewest HistorySteps) (historyOf d) labels s) ∧
      (existingIndices d.episodes = [] →
        (s.given.Nodup ↔ Run (Restricted KeepsNewest HistorySteps) (historyOf d) labels s)) := by
  have hlast : LastIsLargest (historyOf d) := fun _ h => by cases h
  have hincreasing : s.given.Pairwise (· < ·) ↔
      Run (Restricted KeepsNewest HistorySteps) (historyOf d) labels s :=
    hrun.restricted_iff (P := fun s => s.given.Pairwise (· < ·))
      (fun _ _ _ hstep hs => ⟨hs.step hstep, increasing_step hs hstep⟩) hlast .nil
  refine ⟨hincreasing, fun hempty => ?_⟩
  have hfirst : AllGiven (historyOf d) := by
    refine ⟨fun index hindex => ?_, fun _ h => absurd h List.not_mem_nil, fun _ => .nil⟩
    rw [historyOf, hempty] at hindex
    exact hindex
  have hall := hrun.invariant (fun _ _ _ hstep hs => AllGiven.step hs hstep) hfirst
  rw [← hincreasing]
  exact ⟨hall.increasing, fun hpairwise => hpairwise.imp Nat.ne_of_lt⟩

end Histories

/-! ## When nothing is reused -/

section Deletions

variable [Zero K] [One K] {s t : History K} {label : HistoryLabel K}

/-- The newest episode is not deleted, and the numbers have six digits. -/
def SparesNewest (s : History K) : HistoryLabel K → Prop
  | .record _ _ => True
  | .finalize _ _ => ∀ newest, s.given.getLast? = some newest → newest < 10 ^ 6
  | .delete name => ∀ newest, s.given.getLast? = some newest → name ≠ episodeName newest

/-- The directory of the last commit is there with its files. -/
def NewestPresent (s : History K) : Prop :=
  ∀ newest, s.given.getLast? = some newest → newest < 10 ^ 6 →
    ∃ episode ∈ s.dataset.episodes, episode.name = episodeName newest ∧
      episode.files.isEmpty = false

/-- A call that commits leaves a directory of that name. -/
theorem present_of_commits {faults : FileOp → Bool} {args : FinalizeArgs} {d : Dataset K}
    (h : CommitsEpisode faults args d) (hnext : nextMonotonicIndex d.episodes < 10 ^ 6) :
    ∃ episode ∈ (finalize faults args d).1.episodes,
      episode.name = episodeName (nextMonotonicIndex d.episodes) ∧
        episode.files.isEmpty = false := by
  rcases before_rename faults d h.1 with ⟨hfail, -⟩ | ⟨-, d', hcall, hmoved⟩
  · exact absurd h.2 hfail
  · obtain ⟨files, tables, hmetadata, hadded⟩ := hmoved.episodes
    have hfresh : ∀ episode ∈ d.episodes, episode.name ≠ nextName d := fun episode hepisode hname =>
      absurd (lt_nextMonotonicIndex (mem_existingIndices_iff.mpr ⟨hnext, episode, hepisode, hname⟩))
        (Nat.lt_irrefl _)
    have hfull : files.isEmpty = false := by
      simp [EpisodeFiles.isEmpty, hmetadata, CaptureValidation.JsonFile.isFile]
    have hmem : (⟨nextName d, files⟩ : EpisodeDirectory K) ∈ d'.episodes := by
      rw [hadded hfresh]
      exact List.mem_append_right _ List.mem_cons_self
    have hlast := after_effects faults args d (show 5 ≤ 8 by omega)
    rw [hcall] at hlast
    exact ⟨_, hlast.episodes_subset hmem hfull, rfl, hfull⟩

theorem NewestPresent.step (h : NewestPresent s) (hspares : SparesNewest s label)
    (hstep : HistorySteps s label t) : NewestPresent t := by
  subst hstep
  cases label with
  | record name files => exact h
  | delete name =>
    intro newest hnewest hlt
    obtain ⟨episode, hepisode, hname, hfull⟩ := h newest hnewest hlt
    have hother : episode.name ≠ name := hname ▸ (hspares newest hnewest).symm
    exact ⟨episode, List.mem_filter.mpr ⟨hepisode, decide_eq_true hother⟩, hname, hfull⟩
  | finalize faults args =>
    intro newest hnewest hlt
    rcases committedIndex?_eq faults args s.dataset with
      ⟨hcommits, hgiven⟩ | ⟨hnot, hgiven⟩
    · rw [historyStep, hgiven, Option.toList_some, List.getLast?_concat] at hnewest
      obtain rfl := Option.some.inj hnewest
      exact present_of_commits hcommits hlt
    · rw [historyStep, hgiven, Option.toList_none, List.append_nil] at hnewest
      rw [historyStep, episodes_of_not_commits hnot]
      exact h newest hnewest hlt

/-- Deleting any episode but the newest one is harmless as long as the numbers have six
digits. -/
theorem keepsNewest_of_spares {d : Dataset K} {labels : List (HistoryLabel K)}
    (hrun : Run (Restricted SparesNewest HistorySteps) (historyOf d) labels s) :
    Run (Restricted KeepsNewest HistorySteps) (historyOf d) labels s := by
  have hpresent : ∀ {labels s}, Run (Restricted SparesNewest HistorySteps) (historyOf d) labels s →
      NewestPresent s := fun h => h.invariant
    (fun _ _ _ hstep hs => NewestPresent.step hs hstep.1 hstep.2) fun _ hnone => by cases hnone
  induction hrun with
  | nil => exact .nil
  | @snoc labels label s t run last ih =>
    refine ih.snoc ⟨?_, last.2⟩
    cases label with
    | record name files => trivial
    | delete name => trivial
    | finalize faults args =>
      intro _ newest hnewest
      have hlt := last.1 newest hnewest
      obtain ⟨episode, hepisode, hname, -⟩ := hpresent run newest hnewest hlt
      exact ⟨hlt, episode, hepisode, hname⟩

end Deletions

/-! ## Concrete histories -/

def commitCapture (faults : FileOp → Bool) : List (HistoryLabel ℚ) :=
  [.record captureName (stagedEpisode .missing), .finalize faults captureArgs]

/-- Three commits, the second of a call that raises behind its rename; then the first episode is
deleted, before the last commit. -/
def gapHistory : List (HistoryLabel ℚ) :=
  commitCapture noFaults ++ commitCapture (· == .listEpisodes) ++ [.delete (episodeName 0)] ++
    commitCapture noFaults

theorem gap_not_reused : ∃ s, s.given = [0, 1, 2] ∧
    Run (Restricted KeepsNewest HistorySteps) (historyOf emptyRoot) gapHistory s := by
  have hgiven : (gapHistory.foldl historyStep (historyOf emptyRoot)).given = [0, 1, 2] := by
    decide +kernel
  refine ⟨_, hgiven, (episode_numbers_increasing_iff (run_foldl _ _)).1.mp ?_⟩
  rw [hgiven]
  decide

/-- The newest episode is deleted before the next commit. -/
def replacedHistory : List (HistoryLabel ℚ) :=
  commitCapture noFaults ++ [.delete (episodeName 0)] ++ commitCapture noFaults

theorem newest_number_reused : ∃ s : History ℚ,
    Run HistorySteps (historyOf emptyRoot) replacedHistory s ∧ s.given = [0, 0] ∧
      ¬s.given.Nodup := by
  have hgiven : (replacedHistory.foldl historyStep (historyOf emptyRoot)).given = [0, 0] := by
    decide +kernel
  refine ⟨_, run_foldl _ _, hgiven, ?_⟩
  rw [hgiven]
  decide

end SmolVlaQgf.EpisodeNumbers
