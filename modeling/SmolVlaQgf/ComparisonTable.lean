import SmolVlaQgf.CollectionSession

/-!
# The comparison table

`collect` finds the policy of an episode by a search in its notes, and counts the outcomes
under that policy. The search takes the first field that names a policy; `finalize_current`
writes the field of the session behind the operator's notes.
-/

namespace SmolVlaQgf.ComparisonTable
open FieldText CaptureValidation EpisodeDataset CollectionSession Session

/-! ## The search for a policy -/

/-- The class `[;\s]`. -/
def isDelimiter (c : Char) : Bool := c == ';' || isSpace c

def modeKey : Text := "policy_mode=".toList

def modeField (mode : PolicyMode) : Text := modeKey ++ mode.name.toList

/-- The end `(?:[;\s]|$)` of a field. -/
def endsField (rest : Text) : Bool := rest.head?.all isDelimiter

/-- One alternative of `(baseline|qgf)(?:[;\s]|$)`. -/
def namesMode (text : Text) (mode : PolicyMode) : Bool :=
  (text.dropPrefix? mode.name.toList).any endsField

def modeNameAt (text : Text) : Option PolicyMode :=
  [PolicyMode.baseline, .qgf].find? (namesMode text)

/-- The expression `policy_mode=(baseline|qgf)(?:[;\s]|$)` at the start of a text. -/
def modeAt (text : Text) : Option PolicyMode := (text.dropPrefix? modeKey).bind modeNameAt

def searchBehind : Text → Option PolicyMode
  | [] => none
  | c :: rest => (if isDelimiter c then modeAt rest else none).or (searchBehind rest)

/-- `MODE_RE.search(notes)` -/
def searchMode (notes : Text) : Option PolicyMode := (modeAt notes).or (searchBehind notes)

private theorem dropPrefix?_eq_some {start text rest : Text} :
    text.dropPrefix? start = some rest ↔ text = start ++ rest := by
  simp [List.dropPrefix?_eq_some_iff]

private theorem namesMode_iff {text : Text} {mode : PolicyMode} : namesMode text mode = true ↔
    ∃ rest, text = mode.name.toList ++ rest ∧ endsField rest = true := by
  simp only [namesMode, Option.any_eq_true, dropPrefix?_eq_some]

private theorem modeNameAt_eq_some {text : Text} {mode : PolicyMode} :
    modeNameAt text = some mode ↔
      ∃ rest, text = mode.name.toList ++ rest ∧ endsField rest = true := by
  rw [← namesMode_iff, modeNameAt]
  refine ⟨List.find?_some, fun h => ?_⟩
  cases mode with
  | baseline => rw [List.find?_cons_of_pos h]
  | qgf =>
    have hbaseline : ¬namesMode text .baseline = true := by
      rw [namesMode_iff]
      rintro ⟨other, hother, -⟩
      obtain ⟨rest, hrest, -⟩ := namesMode_iff.mp h
      have hheads := congrArg List.head? (hrest.symm.trans hother)
      simp [PolicyMode.name] at hheads
    rw [List.find?_cons_of_neg hbaseline, List.find?_cons_of_pos h]

private theorem modeAt_eq_some {text : Text} {mode : PolicyMode} :
    modeAt text = some mode ↔ ∃ rest, text = modeField mode ++ rest ∧ endsField rest = true := by
  simp only [modeAt, Option.bind_eq_some_iff, dropPrefix?_eq_some, modeNameAt_eq_some, modeField,
    List.append_assoc]
  constructor
  · rintro ⟨_, rfl, rest, rfl, hends⟩
    exact ⟨rest, rfl, hends⟩
  · rintro ⟨rest, rfl, hends⟩
    exact ⟨_, rfl, rest, rfl, hends⟩

private theorem semicolon_not_mem_modeField (mode : PolicyMode) : ';' ∉ modeField mode := by
  cases mode <;> decide

/-- A semicolon ends a field as the end of the text does. -/
theorem modeAt_append (text rest : Text) : modeAt (text ++ ';' :: rest) = modeAt text := by
  refine Option.ext fun mode => ?_
  rw [modeAt_eq_some, modeAt_eq_some]
  constructor
  · rintro ⟨tail, htext, hends⟩
    rcases List.append_eq_append_iff.mp htext with ⟨between, hfield, hrest⟩ | ⟨between, rfl, htail⟩
    · cases between with
      | nil => exact ⟨[], by rw [hfield, List.append_nil, List.append_nil], rfl⟩
      | cons c between =>
        obtain ⟨rfl, -⟩ := List.cons_eq_cons.mp hrest
        exact absurd (hfield ▸ by simp) (semicolon_not_mem_modeField mode)
    · refine ⟨between, rfl, ?_⟩
      cases between with
      | nil => rfl
      | cons c between =>
        rw [htail] at hends
        exact hends
  · rintro ⟨tail, rfl, hends⟩
    refine ⟨tail ++ ';' :: rest, List.append_assoc _ _ _, ?_⟩
    cases tail with
    | nil => rfl
    | cons c tail => exact hends

private theorem searchBehind_append (text rest : Text) :
    searchBehind (text ++ ';' :: rest) = (searchBehind text).or (searchBehind (';' :: rest)) := by
  induction text with
  | nil => rfl
  | cons c text ih => rw [List.cons_append, searchBehind, searchBehind, modeAt_append, ih,
      Option.or_assoc]

/-- The field behind the operator's notes is found unless the notes have one themselves. -/
theorem searchMode_append (notes : Text) (mode : PolicyMode) :
    searchMode (notes ++ ("; policy_mode=" ++ mode.name).toList) =
      (searchMode notes).or (some mode) := by
  have hlast : ("; policy_mode=" ++ mode.name).toList = ';' :: (' ' :: modeField mode) := by
    cases mode <;> decide
  have hfound : searchBehind (';' :: (' ' :: modeField mode)) = some mode := by
    cases mode <;> decide
  rw [hlast, searchMode, searchMode, modeAt_append, searchBehind_append, hfound, Option.or_assoc]

/-! ## The table -/

structure ModeCounts where
  kept : ℕ
  success : ℕ
  failure : ℕ
  deriving DecidableEq

def ModeCounts.add (counts : ModeCounts) (outcome : String) : ModeCounts :=
  if outcome = "success" then
    { counts with
      kept := counts.kept + 1
      success := counts.success + 1 }
  else if outcome = "failure" then
    { counts with
      kept := counts.kept + 1
      failure := counts.failure + 1 }
  else counts

/-- `tag and tag not in notes` does not hold. -/
def hasTag (tag notes : Text) : Bool := tag.isEmpty || notes.tails.any (tag.isPrefixOf ·)

def reportedMode (tag : Text) (metadata : EpisodeMetadata) : Option PolicyMode :=
  let notes := metadata.notes.toList
  if hasTag tag notes then searchMode notes else none

variable {K : Type}

/-- One round of the loop; an unreadable file is skipped with a warning. -/
def countEpisode (tag : Text) (result : PolicyMode → ModeCounts) (episode : EpisodeDirectory K) :
    PolicyMode → ModeCounts :=
  match episode.files.metadata with
  | .content metadata =>
      match reportedMode tag metadata with
      | some mode => Function.update result mode ((result mode).add metadata.row.outcome)
      | none => result
  | _ => result

/-- The paths `episode_*/episode_metadata.json` in order. -/
def metadataPaths (episodes : List (EpisodeDirectory K)) : List (EpisodeDirectory K) :=
  (episodes.filter fun episode =>
    namePrefix.isPrefixOf episode.name && episode.files.metadata.isFile).mergeSort
      fun a b => decide (a.name ≤ b.name)

/-- `collect` -/
def collect (root : Dataset K) (tag : Text) : PolicyMode → ModeCounts :=
  (metadataPaths root.episodes).foldl (countEpisode tag) fun _ => ⟨0, 0, 0⟩

/-! ## What the table counts -/

def lineOf (outcomes : List String) : ModeCounts where
  kept := outcomes.count "success" + outcomes.count "failure"
  success := outcomes.count "success"
  failure := outcomes.count "failure"

def outcome? (episode : EpisodeDirectory K) : Option String :=
  match episode.files.metadata with
  | .content metadata => some metadata.row.outcome
  | _ => none

def mode? (tag : Text) (episode : EpisodeDirectory K) : Option PolicyMode :=
  match episode.files.metadata with
  | .content metadata => reportedMode tag metadata
  | _ => none

def reportedOutcomes (tag : Text) (mode : PolicyMode) (episodes : List (EpisodeDirectory K)) :
    List String :=
  episodes.filterMap fun episode => if mode? tag episode = some mode then outcome? episode else none

def outcomesUnder (mode : PolicyMode) (modes : List PolicyMode)
    (episodes : List (EpisodeDirectory K)) : List String :=
  (modes.zip episodes).filterMap fun p => if p.1 = mode then outcome? p.2 else none

private theorem foldl_add (outcomes : List String) (counts : ModeCounts) :
    outcomes.foldl ModeCounts.add counts =
      ⟨counts.kept + (lineOf outcomes).kept, counts.success + (lineOf outcomes).success,
        counts.failure + (lineOf outcomes).failure⟩ := by
  induction outcomes generalizing counts with
  | nil => rfl
  | cons outcome outcomes ih =>
    rw [List.foldl_cons, ih, ModeCounts.add]
    by_cases hsuccess : outcome = "success"
    · subst hsuccess
      simp [lineOf]
      omega
    · by_cases hfailure : outcome = "failure"
      · subst hfailure
        simp [lineOf]
        omega
      · simp [lineOf, hsuccess, hfailure]

/-- One round adds the outcome of an episode to the line of its policy. -/
theorem countEpisode_apply (tag : Text) (result : PolicyMode → ModeCounts)
    (episode : EpisodeDirectory K) (mode : PolicyMode) : countEpisode tag result episode mode =
      (reportedOutcomes tag mode [episode]).foldl ModeCounts.add (result mode) := by
  have hone : reportedOutcomes tag mode [episode] =
      (if mode? tag episode = some mode then outcome? episode else none).toList := by
    rw [reportedOutcomes, List.filterMap_cons, List.filterMap_nil]
    cases (if mode? tag episode = some mode then outcome? episode else none) <;> rfl
  rw [hone]
  cases hmetadata : episode.files.metadata with
  | content metadata =>
    simp only [countEpisode, mode?, outcome?, hmetadata]
    cases hreported : reportedMode tag metadata with
    | none => rfl
    | some reported =>
      by_cases hmode : reported = mode
      · subst hmode
        simp
      · simp [hmode, Ne.symm hmode]
  | _ => simp [countEpisode, mode?, hmetadata]

private theorem foldl_countEpisode (tag : Text) (mode : PolicyMode)
    (episodes : List (EpisodeDirectory K))
    (result : PolicyMode → ModeCounts) : episodes.foldl (countEpisode tag) result mode =
      (reportedOutcomes tag mode episodes).foldl ModeCounts.add (result mode) := by
  induction episodes generalizing result with
  | nil => rfl
  | cons episode episodes ih =>
    have hsplit : reportedOutcomes tag mode (episode :: episodes) =
        reportedOutcomes tag mode [episode] ++ reportedOutcomes tag mode episodes :=
      List.filterMap_append (l := [episode])
    rw [List.foldl_cons, ih, countEpisode_apply, hsplit, List.foldl_append]

private theorem lineOf_perm {a b : List String} (h : a.Perm b) : lineOf a = lineOf b := by
  rw [lineOf, lineOf, h.count_eq, h.count_eq]

private theorem reportedOutcomes_filter (tag : Text) (mode : PolicyMode)
    (episodes : List (EpisodeDirectory K)) :
    reportedOutcomes tag mode (episodes.filter (·.files.metadata.isFile)) =
      reportedOutcomes tag mode episodes := by
  rw [reportedOutcomes, List.filterMap_filter, reportedOutcomes]
  refine List.filterMap_congr fun episode _ => ?_
  cases hmetadata : episode.files.metadata with
  | missing => simp [mode?, hmetadata, JsonFile.isFile]
  | _ => simp [JsonFile.isFile]

/-- The table lists the outcomes of the episodes by the policies in their notes; directories
without metadata add nothing. -/
theorem collect_of_named {root : Dataset K} (tag : Text) (mode : PolicyMode)
    (h : ∀ episode ∈ root.episodes, namePrefix.isPrefixOf episode.name = true) :
    collect root tag mode = lineOf (reportedOutcomes tag mode root.episodes) := by
  have hfiles : root.episodes.filter (fun episode =>
      namePrefix.isPrefixOf episode.name && episode.files.metadata.isFile) =
        root.episodes.filter (·.files.metadata.isFile) :=
    List.filter_congr fun episode hepisode => by rw [h episode hepisode, Bool.true_and]
  have hperm : (metadataPaths root.episodes).Perm
      (root.episodes.filter (·.files.metadata.isFile)) := by
    rw [metadataPaths, hfiles]
    exact List.mergeSort_perm _ _
  have hline : lineOf (reportedOutcomes tag mode (metadataPaths root.episodes)) =
      lineOf (reportedOutcomes tag mode root.episodes) := by
    rw [← reportedOutcomes_filter tag mode root.episodes]
    exact lineOf_perm (hperm.filterMap _)
  rw [collect, foldl_countEpisode, foldl_add, hline]
  simp only [Nat.zero_add]

/-! ## Episodes of paired sessions -/

structure RecordedUnder (config : SessionConfig) (mode : PolicyMode)
    (episode : EpisodeDirectory K) : Prop where
  named : namePrefix.isPrefixOf episode.name = true
  written : ∃ metadata, episode.files.metadata = .content metadata ∧
    metadata.notes = finalNotes config mode ∧
      ∃ outcome, outcome ≠ .discard ∧ metadata.row.outcome = EpisodeOutcome.name outcome

section Recorded

variable {config : SessionConfig} {initialMode : PolicyMode} {quotas : PairedQuotas}
  {mode : PolicyMode} {episode : EpisodeDirectory K}

theorem RecordedUnder.isFile (h : RecordedUnder config mode episode) :
    episode.files.metadata.isFile = true := by
  obtain ⟨metadata, hmetadata, -⟩ := h.written
  rw [hmetadata]
  rfl

/-- The table takes the policy from the operator's notes if they name one. -/
theorem RecordedUnder.mode?_eq (h : RecordedUnder config mode episode)
    (hplan : config.plan = .paired initialMode quotas) :
    mode? [] episode = (searchMode config.notes.toList).or (some mode) := by
  obtain ⟨metadata, hmetadata, hnotes, -⟩ := h.written
  have hfinal : metadata.notes.toList =
      config.notes.toList ++ ("; policy_mode=" ++ mode.name).toList := by
    rw [hnotes, finalNotes, hplan]
    simp only [String.toList_append, List.append_assoc]
  rw [mode?, hmetadata]
  dsimp only
  rw [reportedMode, hfinal]
  exact searchMode_append _ _

theorem RecordedUnder.kept (h : RecordedUnder config mode episode) :
    outcome? episode = some "success" ∨ outcome? episode = some "failure" := by
  obtain ⟨metadata, hmetadata, -, outcome, houtcome, hname⟩ := h.written
  rw [outcome?, hmetadata]
  dsimp only
  rw [hname]
  cases outcome with
  | success => exact Or.inl rfl
  | failure => exact Or.inr rfl
  | discard => exact absurd rfl houtcome

/-- The table searches the operator's notes first. -/
theorem reportedOutcomes_recorded (hplan : config.plan = .paired initialMode quotas)
    {modes : List PolicyMode} {episodes : List (EpisodeDirectory K)}
    (h : List.Forall₂ (RecordedUnder config) modes episodes) (mode : PolicyMode) :
    reportedOutcomes [] mode episodes = (modes.zip episodes).filterMap fun p =>
      if (searchMode config.notes.toList).or (some p.1) = some mode then outcome? p.2
      else none := by
  induction h with
  | nil => rfl
  | cons hfirst hrest ih =>
    rw [reportedOutcomes] at ih
    rw [reportedOutcomes, List.zip_cons_cons, List.filterMap_cons, List.filterMap_cons, ih,
      hfirst.mode?_eq hplan]

theorem exists_recorded {modes : List PolicyMode} {episodes : List (EpisodeDirectory K)}
    (h : List.Forall₂ (RecordedUnder config) modes episodes) (hepisode : episode ∈ episodes) :
    ∃ mode, RecordedUnder config mode episode := by
  induction h with
  | nil => cases hepisode
  | cons hfirst hrest ih =>
    rcases List.mem_cons.mp hepisode with rfl | hmem
    · exact ⟨_, hfirst⟩
    · exact ih hmem

private theorem count_pos_of_mem_outcomesUnder {mode : PolicyMode} {modes : List PolicyMode}
    {episodes : List (EpisodeDirectory K)} (h : List.Forall₂ (RecordedUnder config) modes episodes)
    (hmode : mode ∈ modes) : 0 < (lineOf (outcomesUnder mode modes episodes)).kept := by
  obtain ⟨hlength, hzip⟩ := List.forall₂_iff_zip.mp h
  obtain ⟨i, hi, rfl⟩ := List.getElem_of_mem hmode
  have hmem : (modes[i], episodes[i]) ∈ modes.zip episodes := by
    rw [← List.getElem_zip (h := by simpa [List.length_zip, ← hlength] using hi)]
    exact List.getElem_mem _
  have hunder : ∀ outcome, outcome? episodes[i] = some outcome →
      outcome ∈ outcomesUnder modes[i] modes episodes := fun outcome houtcome =>
    List.mem_filterMap.mpr ⟨_, hmem, by rw [if_pos rfl, houtcome]⟩
  rw [lineOf]
  rcases (hzip hmem).kept with hsuccess | hfailure
  · exact Nat.add_pos_left (List.count_pos_iff.mpr (hunder _ hsuccess)) _
  · exact Nat.add_pos_right _ (List.count_pos_iff.mpr (hunder _ hfailure))

/-- The table is right exactly when the operator's notes name no policy, or name the one all
episodes were run under. -/
theorem collect_iff_of_recorded (hplan : config.plan = .paired initialMode quotas)
    {modes : List PolicyMode} {root : Dataset K}
    (h : List.Forall₂ (RecordedUnder config) modes root.episodes) :
    (∀ mode, collect root [] mode = lineOf (outcomesUnder mode modes root.episodes)) ↔
      ∀ named, searchMode config.notes.toList = some named → ∀ mode ∈ modes, mode = named := by
  have hnamed : ∀ episode ∈ root.episodes, namePrefix.isPrefixOf episode.name = true := by
    intro episode hepisode
    obtain ⟨mode, hrecorded⟩ := exists_recorded h hepisode
    exact hrecorded.named
  simp only [collect_of_named [] _ hnamed, reportedOutcomes_recorded hplan h]
  cases hsearch : searchMode config.notes.toList with
  | none => simp [outcomesUnder]
  | some named =>
    constructor
    · rintro htable named' hnamed mode hmode
      obtain rfl := Option.some.inj hnamed
      by_contra hother
      have hpos := count_pos_of_mem_outcomesUnder h hmode
      rw [← htable mode] at hpos
      simp [Ne.symm hother, lineOf] at hpos
    · intro hmodes mode
      refine congrArg lineOf (List.filterMap_congr fun p hp => ?_)
      rw [Option.some_or, hmodes named rfl p.1 (List.of_mem_zip hp).1]
      simp only [Option.some.injEq]

end Recorded

end SmolVlaQgf.ComparisonTable
