import Mathlib.Data.Char
import Mathlib.Data.List.Sort
import SmolVlaQgf.CaptureValidation
import SmolVlaQgf.DecimalText
import SmolVlaQgf.TransitionTable

/-!
# The episode dataset

The directories of committed and of staged episodes, the manifest and the summary that
are rebuilt from the committed ones, and the allocation of episode indices. The allocator
looks for names with exactly six digits, the manifest for names with at least one.
-/

namespace SmolVlaQgf.EpisodeDataset
open DecimalText FieldText EpisodeRecorder CaptureValidation TransitionTable

/-! ## Files -/

/-- The choices of `--outcome`. -/
inductive EpisodeOutcome where
  | success
  | failure
  | discard
  deriving DecidableEq

def EpisodeOutcome.name : EpisodeOutcome → String
  | .success => "success"
  | .failure => "failure"
  | .discard => "discard"

/-- The keys of an episode's metadata that the manifest copies. The transition count is
absent if it is not a number. -/
structure ManifestRow where
  episodeIndex : ℤ
  episodeName : Text
  task : String
  outcome : String
  success : Bool
  numTransitions : Option ℤ
  finalizedAtUtc : String
  deriving DecidableEq

/-- `episode_metadata.json`, without its constant descriptions. -/
structure EpisodeMetadata where
  row : ManifestRow
  numSamples : ℕ
  notes : String
  terminationSource : String
  capture : CaptureSummary

/-- The files of a staged or committed episode; `other` stands for further entries. -/
structure EpisodeFiles (K : Type) where
  capture : CaptureFiles K
  transitions : Option (List (TransitionRow K))
  normalizedPolicyChunks : Option (List (ChunkRow K))
  policyObservations : Option (List (PolicyObservationRow K))
  metadata : JsonFile EpisodeMetadata
  other : Bool

structure EpisodeDirectory (K : Type) where
  name : Text
  files : EpisodeFiles K

/-- `dataset_summary.json` -/
structure DatasetSummary where
  episodes : ℕ
  successes : ℕ
  failures : ℕ
  transitions : ℤ
  updatedAtUtc : String
  deriving DecidableEq

/-- A dataset root; `staging` are the directories under `.staging` by name. -/
structure Dataset (K : Type) where
  episodes : List (EpisodeDirectory K)
  manifest : Option (List ManifestRow)
  summary : Option DatasetSummary
  manifestTmp : Option (List ManifestRow)
  summaryTmp : Option DatasetSummary
  staging : Text → Option (EpisodeFiles K)

variable {K : Type}

/-- The directory is empty, so that another directory may be renamed over it. -/
def EpisodeFiles.isEmpty (files : EpisodeFiles K) : Bool :=
  !files.capture.samples.isFile && !files.capture.chunks.isFile &&
    !files.capture.policyObservations.isFile && !files.capture.summary.isFile &&
    videoFiles.all (!files.capture.videos ·) && files.transitions.isNone &&
    files.normalizedPolicyChunks.isNone && files.policyObservations.isNone &&
    !files.metadata.isFile && !files.other

/-! ## Names and indices -/

def namePrefix : Text := "episode_".toList

/-- The format `episode_{index:06d}`. -/
def episodeName (index : ℕ) : Text := namePrefix ++ zeroFilled 6 index

def suffix? (name : Text) : Option Text :=
  if namePrefix.isPrefixOf name then some (name.drop namePrefix.length) else none

/-- The index of a name that matches `episode_[0-9][0-9][0-9][0-9][0-9][0-9]`. -/
def indexOf? (name : Text) : Option ℕ :=
  (suffix? name).bind fun digits =>
    if digits.length = 6 && digits.all isDigit then some (digitsValue digits) else none

/-- The name matches `episode_[0-9]*`. -/
def isListed (name : Text) : Bool :=
  (suffix? name).any fun rest => rest.head?.any isDigit

theorem suffix?_append (rest : Text) : suffix? (namePrefix ++ rest) = some rest := by
  rw [suffix?, if_pos (List.isPrefixOf_iff_prefix.mpr (List.prefix_append _ _)), List.drop_left]

theorem suffix?_episodeName (index : ℕ) : suffix? (episodeName index) = some (zeroFilled 6 index) :=
  suffix?_append _

theorem isDigit_of_mem_zeroFilled {width index : ℕ} {c : Char} (h : c ∈ zeroFilled width index) :
    isDigit c = true := by
  rw [zeroFilled] at h
  split at h
  · exact isDigit_of_mem_paddedDecimal h
  · exact isDigit_of_mem_decimal h

private theorem zeroFilled_ne_nil (width index : ℕ) : zeroFilled (width + 1) index ≠ [] := by
  rw [zeroFilled]
  split
  · simp [paddedDecimal]
  · rename_i hlarge
    have hpos : index ≠ 0 := fun hzero => hlarge (hzero ▸ Nat.pow_pos (by omega))
    simp [decimal, hpos, Nat.digits_eq_nil_iff_eq_zero]

theorem isListed_episodeName (index : ℕ) : isListed (episodeName index) = true := by
  rw [isListed, suffix?_episodeName, Option.any_some]
  cases hdigits : zeroFilled 6 index with
  | nil => exact absurd hdigits (zeroFilled_ne_nil 5 index)
  | cons c rest =>
    have hc : c ∈ zeroFilled 6 index := by rw [hdigits]; exact List.mem_cons_self
    rw [List.head?_cons, Option.any_some]
    exact isDigit_of_mem_zeroFilled hc

/-- `existing_indices` -/
def existingIndices (episodes : List (EpisodeDirectory K)) : List ℕ :=
  episodes.filterMap fun episode => indexOf? episode.name

/-- `next_monotonic_index`: one more than the largest index, or zero. -/
def nextMonotonicIndex (episodes : List (EpisodeDirectory K)) : ℕ :=
  (existingIndices episodes).foldr (fun index next => max (index + 1) next) 0

private theorem zeroFilled_of_lt {width index : ℕ} (h : index < 10 ^ width) :
    zeroFilled width index = paddedDecimal width index := if_pos h

/-- Six-digit names are read back as their index. -/
theorem indexOf?_episodeName {index : ℕ} (h : index < 10 ^ 6) :
    indexOf? (episodeName index) = some index := by
  have hdigits : (paddedDecimal 6 index).all isDigit = true :=
    List.all_eq_true.mpr fun c hc => isDigit_of_mem_paddedDecimal hc
  rw [indexOf?, suffix?_episodeName, Option.bind_some, zeroFilled_of_lt h, hdigits,
    digitsValue_paddedDecimal, Nat.mod_eq_of_lt h, if_pos]
  simp only [length_paddedDecimal, decide_true, Bool.and_self]

/-- A name is read as no other index than its own; seven digits are not read at all. -/
theorem eq_of_indexOf?_episodeName {index found : ℕ}
    (h : indexOf? (episodeName index) = some found) : found = index := by
  by_cases hindex : index < 10 ^ 6
  · rw [indexOf?_episodeName hindex] at h
    exact (Option.some.inj h).symm
  · have hlong : 6 < (decimal index).length := lt_length_decimal (Nat.le_of_not_lt hindex)
    rw [indexOf?, suffix?_episodeName, Option.bind_some, zeroFilled, if_neg hindex, if_neg] at h
    · cases h
    · simp [Nat.ne_of_gt hlong]

theorem indexOf?_eq_some_iff {name : Text} {index : ℕ} :
    indexOf? name = some index ↔ index < 10 ^ 6 ∧ name = episodeName index := by
  constructor
  · intro h
    rw [indexOf?] at h
    obtain ⟨digits, hsuffix, hdigits⟩ := Option.bind_eq_some_iff.mp h
    simp only [Bool.and_eq_true, decide_eq_true_eq, List.all_eq_true, Option.ite_none_right_eq_some,
      Option.some.injEq] at hdigits
    obtain ⟨⟨hlength, hall⟩, rfl⟩ := hdigits
    have hlt := hlength ▸ digitsValue_lt hall
    have hpadded := hlength ▸ paddedDecimal_digitsValue hall 0
    rw [Nat.zero_mul, Nat.zero_add] at hpadded
    rw [suffix?] at hsuffix
    simp only [Option.ite_none_right_eq_some, Option.some.injEq, List.isPrefixOf_iff_prefix]
      at hsuffix
    obtain ⟨hstart, hdrop⟩ := hsuffix
    refine ⟨hlt, ?_⟩
    rw [episodeName, zeroFilled_of_lt hlt, hpadded, ← hdrop]
    exact List.prefix_append_drop hstart
  · rintro ⟨hlt, rfl⟩
    exact indexOf?_episodeName hlt

theorem mem_existingIndices_iff {episodes : List (EpisodeDirectory K)} {index : ℕ} :
    index ∈ existingIndices episodes ↔
      index < 10 ^ 6 ∧ ∃ episode ∈ episodes, episode.name = episodeName index := by
  simp only [existingIndices, List.mem_filterMap, indexOf?_eq_some_iff]
  constructor
  · rintro ⟨episode, hepisode, hlt, hname⟩
    exact ⟨hlt, episode, hepisode, hname⟩
  · rintro ⟨hlt, episode, hepisode, hname⟩
    exact ⟨episode, hepisode, hlt, hname⟩

theorem episodeName_injOn {m n : ℕ} (hm : m < 10 ^ 6) (hn : n < 10 ^ 6)
    (h : episodeName m = episodeName n) : m = n := by
  have hindex := congrArg indexOf? h
  rw [indexOf?_episodeName hm, indexOf?_episodeName hn] at hindex
  exact Option.some.inj hindex

/-- Names with one common start compare as the rest does. -/
theorem lt_of_append_lt_append {start a b : Text} (h : start ++ a < start ++ b) : a < b := by
  induction start with
  | nil => exact h
  | cons c start ih =>
    rw [List.cons_append, List.cons_append, List.cons_lt_cons_iff] at h
    rcases h with hlt | ⟨-, hrest⟩
    · exact absurd hlt (Char.lt_irrefl c)
    · exact ih hrest

theorem lt_of_episodeName_lt {m n : ℕ} (hm : m < 10 ^ 6) (hn : n < 10 ^ 6)
    (h : episodeName m < episodeName n) : m < n := by
  rw [episodeName, episodeName, zeroFilled_of_lt hm, zeroFilled_of_lt hn] at h
  have hpadded := (paddedDecimal_lt_iff 6 m n).mp (lt_of_append_lt_append h)
  rwa [Nat.mod_eq_of_lt hm, Nat.mod_eq_of_lt hn] at hpadded

theorem lt_nextMonotonicIndex {episodes : List (EpisodeDirectory K)} {index : ℕ}
    (h : index ∈ existingIndices episodes) : index < nextMonotonicIndex episodes := by
  rw [nextMonotonicIndex]
  generalize existingIndices episodes = indices at h
  induction indices with
  | nil => exact absurd h List.not_mem_nil
  | cons first rest ih =>
    rw [List.foldr_cons]
    rcases List.mem_cons.mp h with rfl | hrest
    · exact lt_max_of_lt_left (Nat.lt_succ_self _)
    · exact lt_max_of_lt_right (ih hrest)

theorem nextMonotonicIndex_cases (episodes : List (EpisodeDirectory K)) :
    nextMonotonicIndex episodes = 0 ∨
      ∃ index ∈ existingIndices episodes, nextMonotonicIndex episodes = index + 1 := by
  rw [nextMonotonicIndex]
  induction existingIndices episodes with
  | nil => exact Or.inl rfl
  | cons first rest ih =>
    rw [List.foldr_cons]
    rcases max_choice (first + 1) (rest.foldr (fun index next => max (index + 1) next) 0) with
      hfirst | hrest
    · exact Or.inr ⟨first, List.mem_cons_self, hfirst⟩
    · rw [hrest]
      rcases ih with hzero | ⟨index, hindex, hnext⟩
      · exact Or.inl hzero
      · exact Or.inr ⟨index, List.mem_cons_of_mem _ hindex, hnext⟩

/-! ## The manifest and the summary -/

def sortedEpisodes (episodes : List (EpisodeDirectory K)) : List (EpisodeDirectory K) :=
  (episodes.filter fun episode => isListed episode.name).mergeSort
    fun a b => decide (a.name ≤ b.name)

/-- The rows of the manifest; a directory without metadata is skipped, and an unreadable
one, or one whose reading fails, stops the rebuild. -/
def manifestRows (readFails : Text → Bool) :
    List (EpisodeDirectory K) → Except Text (List ManifestRow)
  | [] => .ok []
  | episode :: rest =>
      if readFails episode.name then .error episode.name
      else
        match episode.files.metadata with
        | .missing => manifestRows readFails rest
        | .unreadable => .error episode.name
        | .content metadata => (manifestRows readFails rest).map (metadata.row :: ·)

/-- The sum over the transition counts, if all of them are numbers. -/
def totalTransitions : List ManifestRow → Option ℤ
  | [] => some 0
  | row :: rows => row.numTransitions.bind fun n => (totalTransitions rows).map (n + ·)

def datasetSummary (rows : List ManifestRow) (transitions : ℤ) (now : String) :
    DatasetSummary where
  episodes := rows.length
  successes := rows.countP (·.success)
  failures := rows.countP (!·.success)
  transitions
  updatedAtUtc := now

/-! ## Renaming a staged directory -/

/-- `os.replace(staging, destination)`: a missing source and a destination that is not empty
are refused; an empty destination is replaced. -/
def replaceStaging (staging destination : Text) (d : Dataset K) : Option (Dataset K) :=
  match d.staging staging with
  | none => none
  | some files =>
      let moved := { d with staging := Function.update d.staging staging none }
      if d.episodes.any (·.name = destination) then
        if d.episodes.all fun episode =>
            decide (episode.name ≠ destination) || episode.files.isEmpty
        then some { moved with episodes := d.episodes.map fun episode =>
          if episode.name = destination then ⟨destination, files⟩ else episode }
        else none
      else some { moved with episodes := d.episodes ++ [⟨destination, files⟩] }

/-- A rename takes a staged directory away and puts it under the new name: beside the others, or
in place of an empty directory of that name. -/
theorem replaceStaging_cases {staging destination : Text} {d d' : Dataset K}
    (h : replaceStaging staging destination d = some d') :
    ∃ files, d.staging staging = some files ∧
      (((∀ episode ∈ d.episodes, episode.name ≠ destination) ∧
        d' = { d with
          staging := Function.update d.staging staging none
          episodes := d.episodes ++ [⟨destination, files⟩] }) ∨
      ((∃ episode ∈ d.episodes, episode.name = destination) ∧
        (∀ episode ∈ d.episodes, episode.name = destination → episode.files.isEmpty = true) ∧
        d' = { d with
          staging := Function.update d.staging staging none
          episodes := d.episodes.map fun episode =>
            if episode.name = destination then ⟨destination, files⟩ else episode })) := by
  rw [replaceStaging] at h
  cases hfiles : d.staging staging with
  | none =>
    rw [hfiles] at h
    cases h
  | some files =>
    rw [hfiles] at h
    refine ⟨files, rfl, ?_⟩
    dsimp only at h
    split at h
    · rename_i hany
      split at h
      · rename_i hall
        obtain rfl := Option.some.inj h
        refine Or.inr ⟨by simpa using hany, fun episode hepisode hname => ?_, rfl⟩
        have hempty := List.all_eq_true.mp hall episode hepisode
        rwa [decide_eq_false (not_not_intro hname), Bool.false_or] at hempty
      · cases h
    · rename_i hnone
      obtain rfl := Option.some.inj h
      exact Or.inl ⟨by simpa using hnone, rfl⟩

def writeStaging (staging : Text) (f : EpisodeFiles K → EpisodeFiles K) (d : Dataset K) :
    Dataset K :=
  { d with staging := Function.update d.staging staging ((d.staging staging).map f) }

end SmolVlaQgf.EpisodeDataset
