import Mathlib.Logic.Relation
import SmolVlaQgf.EpisodeCommit

/-!
# What a finalizer does to the dataset

Whether it returns or raises, a call only adds files to its staged directory, removes that
directory when it discards, or renames it. Committed episodes and other staged directories
stay, and a capture that is not discarded stays staged or is committed.
-/

namespace SmolVlaQgf.FinalizerEffects
open FieldText CaptureValidation EpisodeDataset EpisodeFinalizer EpisodeCommit

variable {K : Type}

def target (args : FinalizeArgs) : Text := args.staging.getD []

/-- The change of one stage to the committed and the staged directories. -/
inductive Effect (args : FinalizeArgs) (d d' : Dataset K) : Prop where
  | write (f : EpisodeFiles K → EpisodeFiles K)
      (capture : ∀ files, (f files).capture = files.capture)
      (episodes : d'.episodes = d.episodes)
      (staging : d'.staging = (writeStaging (target args) f d).staging)
  | discard (outcome : args.outcome = .discard) (episodes : d'.episodes = d.episodes)
      (staging : d'.staging = Function.update d.staging (target args) none)
  | rename (destination : Text) (replaced : replaceStaging (target args) destination d = some d')

def Effects (args : FinalizeArgs) : Dataset K → Dataset K → Prop :=
  Relation.ReflTransGen (Effect args)

theorem Effects.attempt {faults : FileOp → Bool} {args : FinalizeArgs} {op : FileOp}
    {d₀ d : Dataset K} {call : Dataset K × Stage K} (hd : Effects args d₀ d)
    (hcall : Effects args d₀ call.1) :
    Effects args d₀ (attempt faults op d call).1 :=
  attempt_rule (P := fun result => Effects args d₀ result.1) hd hcall

theorem Effects.write {args : FinalizeArgs} {d₀ d : Dataset K} (h : Effects args d₀ d)
    {f : EpisodeFiles K → EpisodeFiles K} (hf : ∀ files, (f files).capture = files.capture) :
    Effects args d₀ (writeStaging (target args) f d) :=
  h.tail (.write f hf rfl rfl)

theorem Effects.same {args : FinalizeArgs} {d₀ d d' : Dataset K} (h : Effects args d₀ d)
    (hepisodes : d'.episodes = d.episodes) (hstaging : d'.staging = d.staging) :
    Effects args d₀ d' := by
  refine h.tail (.write id (fun _ => rfl) hepisodes ?_)
  simp [writeStaging, hstaging]

section Stages

variable (faults : FileOp → Bool) (args : FinalizeArgs) (d : Dataset K)

private theorem validate_effects : Effects args d (validate faults args d).1 := by
  rw [validate]
  cases hstaging : args.staging with
  | none => exact .refl
  | some staging =>
    have htarget : target args = staging := by rw [target, hstaging, Option.getD_some]
    dsimp only
    split
    · rename_i houtcome
      dsimp only
      split
      · exact .refl
      · exact .single (.discard houtcome rfl (by rw [htarget]))
    · apply Effects.attempt .refl
      split
      · exact .refl
      · split <;> exact .refl

private theorem tabulate_effects [Zero K] [One K] (samples : List (EpisodeRecorder.SampleRow K))
    (capture : CaptureSummary) :
    Effects args d (tabulate faults args d (target args) samples capture).1 := by
  rw [tabulate]
  cases TransitionTable.buildTransitions samples (decide (args.outcome = .success)) args.task with
  | none => exact .refl
  | some transitions =>
    have h₀ : Effects args d d := .refl
    have h₁ := h₀.write (f := fun files => { files with
      transitions := some transitions }) fun _ => rfl
    have h₂ := h₁.write (f := fun files => { files with
      normalizedPolicyChunks := some (rereadRows files.capture.chunks) }) fun _ => rfl
    have h₃ := h₂.write (f := fun files => { files with
      policyObservations := some (rereadRows files.capture.policyObservations) }) fun _ => rfl
    exact h₀.attempt (h₁.attempt (h₁.attempt (h₂.attempt (h₂.attempt (h₃.attempt (h₃.attempt
      h₃))))))

private theorem allocate_effects (tables : Tabulated) :
    Effects args d (allocate faults args d (target args) tables).1 :=
  have h₀ : Effects args d d := .refl
  h₀.attempt (h₀.attempt (h₀.write fun _ => rfl))

private theorem rename_effects (index : ℕ) :
    Effects args d (rename faults d (target args) index).1 := by
  apply Effects.attempt .refl
  split
  · exact .refl
  · rename_i d' hreplaced
    exact .single (.rename _ hreplaced)

private theorem rebuildManifest_effects (index : ℕ) :
    Effects args d (rebuildManifest faults d index).1 := by
  apply Effects.attempt .refl
  split
  · exact .refl
  · have h₀ : Effects args d d := .refl
    refine h₀.attempt (Effects.attempt ?_ ?_)
    · exact h₀.same rfl rfl
    · exact h₀.same rfl rfl

private theorem rebuildSummary_effects (index : ℕ) (rows : List ManifestRow) :
    Effects args d (rebuildSummary faults args d index rows).1 := by
  rw [rebuildSummary]
  split
  · exact .refl
  · have h₀ : Effects args d d := .refl
    refine h₀.attempt (Effects.attempt ?_ ?_)
    · exact h₀.same rfl rfl
    · exact h₀.same rfl rfl

variable [Zero K] [One K]

private theorem advance_effects (stage : Stage K) :
    Effects args d (advance faults args d stage).1 := by
  cases stage with
  | started => exact validate_effects faults args d
  | validated samples capture => exact tabulate_effects faults args d samples capture
  | waiting tables =>
    have h₀ : Effects args d d := .refl
    exact h₀.attempt h₀
  | locked tables => exact allocate_effects faults args d tables
  | allocated index => exact rename_effects faults args d index
  | renamed index => exact rebuildManifest_effects faults args d index
  | indexed index rows => exact rebuildSummary_effects faults args d index rows
  | summarized index =>
    have h₀ : Effects args d d := .refl
    exact h₀.attempt h₀
  | returned destination => exact .refl
  | raised error => exact .refl

theorem after_effects {m n : ℕ} (hmn : m ≤ n) :
    Effects args (after faults args d m).1 (after faults args d n).1 := by
  induction n, hmn using Nat.le_induction with
  | base => exact .refl
  | succ n hmn ih =>
    rw [after_succ]
    exact ih.trans (advance_effects faults args _ _)

theorem finalize_effects : Effects args d (finalize faults args d).1 :=
  after_effects faults args d (Nat.zero_le 8)

end Stages

/-! ## What stays -/

/-- A rename succeeds from a staged directory; it adds that directory under the new name, and
what it replaces was empty. -/
theorem replaceStaging_eq_some {staging destination : Text} {d d' : Dataset K}
    (h : replaceStaging staging destination d = some d') :
    ∃ files, d.staging staging = some files ∧
      d'.staging = Function.update d.staging staging none ∧
      (∀ episode ∈ d.episodes, episode.files.isEmpty = false → episode ∈ d'.episodes) ∧
      ⟨destination, files⟩ ∈ d'.episodes := by
  obtain ⟨files, hfiles, ⟨-, rfl⟩ | ⟨⟨replaced, hreplaced, hname⟩, hempty, rfl⟩⟩ :=
    replaceStaging_cases h
  · refine ⟨files, hfiles, rfl, fun episode hepisode _ => ?_, ?_⟩
    · exact List.mem_append_left _ hepisode
    · exact List.mem_append_right _ (List.mem_singleton_self _)
  · refine ⟨files, hfiles, rfl, fun episode hepisode hfull => ?_, ?_⟩
    · have hother : episode.name ≠ destination := fun hsame => by
        rw [hempty episode hepisode hsame] at hfull
        cases hfull
      exact List.mem_map.mpr ⟨episode, hepisode, if_neg hother⟩
    · exact List.mem_map.mpr ⟨replaced, hreplaced, if_pos hname⟩

def Committed (d : Dataset K) (capture : CaptureFiles K) : Prop :=
  ∃ episode ∈ d.episodes, episode.files.isEmpty = false ∧ episode.files.capture = capture

def Staged (d : Dataset K) (staging : Text) (capture : CaptureFiles K) : Prop :=
  ∃ files, d.staging staging = some files ∧ files.capture = capture

private theorem isEmpty_eq_false {files : EpisodeFiles K}
    (h : files.capture.samples.isFile = true) :
    files.isEmpty = false := by simp [EpisodeFiles.isEmpty, h]

section Effects

variable {args : FinalizeArgs} {d d' : Dataset K}

theorem Effect.episodes_subset (h : Effect args d d') {episode : EpisodeDirectory K}
    (hepisode : episode ∈ d.episodes) (hfull : episode.files.isEmpty = false) :
    episode ∈ d'.episodes := by
  cases h with
  | write f capture episodes staging => rwa [episodes]
  | discard outcome episodes staging => rwa [episodes]
  | rename destination replaced =>
    obtain ⟨files, -, -, hkept, -⟩ := replaceStaging_eq_some replaced
    exact hkept episode hepisode hfull

theorem Effect.staging_of_ne (h : Effect args d d') {name : Text} (hname : name ≠ target args) :
    d'.staging name = d.staging name := by
  cases h with
  | write f capture episodes staging => simp [staging, writeStaging, hname]
  | discard outcome episodes staging => simp [staging, hname]
  | rename destination replaced =>
    obtain ⟨files, -, hstaging, -, -⟩ := replaceStaging_eq_some replaced
    simp [hstaging, hname]

theorem Effect.kept (h : Effect args d d') (houtcome : args.outcome ≠ .discard)
    {capture : CaptureFiles K} (hcapture : capture.samples.isFile = true)
    (hd : Staged d (target args) capture ∨ Committed d capture) :
    Staged d' (target args) capture ∨ Committed d' capture := by
  rcases hd with ⟨files, hfiles, rfl⟩ | ⟨episode, hepisode, hfull, rfl⟩
  · cases h with
    | write f hf episodes staging =>
      refine Or.inl ⟨f files, ?_, hf files⟩
      rw [staging, writeStaging_self, hfiles, Option.map_some]
    | discard outcome episodes staging => exact absurd outcome houtcome
    | rename destination replaced =>
      obtain ⟨moved, hmoved, -, -, hnew⟩ := replaceStaging_eq_some replaced
      obtain rfl := Option.some.inj (hfiles.symm.trans hmoved)
      exact Or.inr ⟨_, hnew, isEmpty_eq_false hcapture, rfl⟩
  · exact Or.inr ⟨episode, h.episodes_subset hepisode hfull, hfull, rfl⟩

theorem Effects.episodes_subset (h : Effects args d d') {episode : EpisodeDirectory K}
    (hepisode : episode ∈ d.episodes) (hfull : episode.files.isEmpty = false) :
    episode ∈ d'.episodes := by
  induction h with
  | refl => exact hepisode
  | tail _ hlast ih => exact hlast.episodes_subset ih hfull

theorem Effects.committed (h : Effects args d d') {capture : CaptureFiles K}
    (hd : Committed d capture) : Committed d' capture := by
  obtain ⟨episode, hepisode, hfull, hcapture⟩ := hd
  exact ⟨episode, h.episodes_subset hepisode hfull, hfull, hcapture⟩

theorem Effects.staging_of_ne (h : Effects args d d') {name : Text} (hname : name ≠ target args) :
    d'.staging name = d.staging name := by
  induction h with
  | refl => rfl
  | tail _ hlast ih => rw [hlast.staging_of_ne hname, ih]

/-- A directory that is gone does not come back. -/
theorem Effects.gone (h : Effects args d d') (hd : d.staging (target args) = none) :
    d'.staging (target args) = none := by
  induction h with
  | refl => exact hd
  | tail _ hlast ih =>
    cases hlast with
    | write f capture episodes staging => rw [staging, writeStaging_self, ih, Option.map_none]
    | discard outcome episodes staging => rw [staging, Function.update_self]
    | rename destination replaced =>
      obtain ⟨files, -, hstaging, -, -⟩ := replaceStaging_eq_some replaced
      rw [hstaging, Function.update_self]

theorem Effects.kept (h : Effects args d d') (houtcome : args.outcome ≠ .discard)
    {capture : CaptureFiles K} (hcapture : capture.samples.isFile = true)
    (hd : Staged d (target args) capture) :
    Staged d' (target args) capture ∨ Committed d' capture := by
  induction h with
  | refl => exact Or.inl hd
  | tail _ hlast ih => exact hlast.kept houtcome hcapture ih

end Effects

/-- Once through the rename, the call has taken its directory away. -/
theorem gone_of_reachesRename [Zero K] [One K] {faults : FileOp → Bool} {args : FinalizeArgs}
    {d : Dataset K} (houtcome : args.outcome ≠ .discard) (h : ReachesRename faults args d) :
    (finalize faults args d).1.staging (target args) = none := by
  rcases before_rename faults d houtcome with ⟨hfail, -⟩ | ⟨-, d', hcall, hmoved⟩
  · exact absurd h hfail
  · obtain ⟨staging, hbefore, hgone⟩ := hmoved.staging
    have hd' : d' = (after faults args d 5).1 := by rw [hcall]
    have htarget : staging = target args := by
      by_contra hne
      have hsame : d'.staging staging = d.staging staging := by
        rw [hd']
        exact (after_effects faults args d (Nat.zero_le 5)).staging_of_ne hne
      rw [hgone] at hsame
      rw [← hsame] at hbefore
      cases hbefore
    have hlast := after_effects faults args d (show 5 ≤ 8 by omega)
    rw [← hd'] at hlast
    exact hlast.gone (htarget ▸ hgone)

/-! ## Calls that commit nothing -/

section Calls

variable [Zero K] [One K] {faults : FileOp → Bool} {args : FinalizeArgs} {d : Dataset K}

/-- Without a staged directory a call raises at once. -/
theorem after_of_not_staged {n : ℕ} (hstaging : args.staging = none) (hn : 1 ≤ n) :
    Raises (· = d) (after faults args d n) := by
  have hone : Raises (· = d) (after faults args d 1) := by
    rw [after_succ]
    simp only [after, Function.iterate_zero, id_eq, advance, validate, hstaging]
    exact ⟨⟨_, rfl⟩, rfl⟩
  exact after_of_raises hn hone

theorem finalize_of_not_staged (hstaging : args.staging = none) :
    (finalize faults args d).1 = d :=
  (after_of_not_staged (n := 8) hstaging (by omega)).state

/-- A discarding call changes the staged directories only. -/
theorem after_discard {staging : Text} {n : ℕ} (houtcome : args.outcome = .discard)
    (hstaging : args.staging = some staging) (hn : 1 ≤ n) :
    after faults args d n = (if faults .removeStaging then d
      else { d with staging := Function.update d.staging staging none }, .returned none) := by
  induction n, hn using Nat.le_induction with
  | base =>
    rw [after_succ]
    simp only [after, Function.iterate_zero, id_eq, advance, validate, hstaging, houtcome,
      if_true]
  | succ n hn ih => rw [after_succ, ih, advance]

theorem finalize_discard {staging : Text} (houtcome : args.outcome = .discard)
    (hstaging : args.staging = some staging) : (finalize faults args d).1 =
      if faults .removeStaging then d
      else { d with staging := Function.update d.staging staging none } :=
  congrArg Prod.fst (after_discard (n := 8) houtcome hstaging (by omega))

/-- A call that does not get through its rename, or discards, leaves the committed episodes. -/
theorem episodes_of_not_reachesRename
    (h : args.outcome ≠ .discard → ¬ReachesRename faults args d) :
    (finalize faults args d).1.episodes = d.episodes := by
  by_cases houtcome : args.outcome = .discard
  · cases hstaging : args.staging with
    | none => rw [finalize_of_not_staged hstaging]
    | some staging =>
      rw [finalize_discard houtcome hstaging]
      split <;> rfl
  · rcases before_rename faults d houtcome with ⟨-, hraises⟩ | ⟨hreach, -⟩
    · have hlast : Unchanged d (finalize faults args d).1 :=
        (after_of_raises (n := 8) (by omega) hraises).state
      exact hlast.episodes
    · exact absurd hreach (h houtcome)

end Calls

end SmolVlaQgf.FinalizerEffects
