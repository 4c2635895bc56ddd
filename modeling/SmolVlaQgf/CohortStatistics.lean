import SmolVlaQgf.ComparisonTable
import SmolVlaQgf.EpisodeCommit
import SmolVlaQgf.TextSearch

/-!
# Are cohorts kept apart?

The launcher writes the name of a cohort behind the operator's notes, and the table is asked
for the episodes whose notes contain the field of a name. The field is searched as a text: it is
found in front of a longer name, and inside the notes and names of other cohorts.
-/

namespace SmolVlaQgf.CohortStatistics
open FieldText CaptureValidation EpisodeDataset EpisodeFinalizer EpisodeCommit CollectionSession
  Session ComparisonTable TextSearch

/-! ## The launcher -/

/-- `[string]::IsNullOrWhiteSpace`; its blanks are those of `str.strip` without the four
separators 28 to 31. -/
def isNullOrWhiteSpace (text : Text) : Bool :=
  text.all fun c => isSpace c && !(28 ≤ c.toNat && c.toNat ≤ 31)

def cohortKey : Text := "paired_cohort=".toList

/-- The text between the operator's notes and the field of the cohort. -/
def separator : Text := "; ".toList

def cohortField (cohort : Text) : Text := cohortKey ++ cohort

/-- `$notesForRun` -/
def notesForRun (notes pairCohort : Text) : Text :=
  if isNullOrWhiteSpace pairCohort then notes else notes ++ separator ++ cohortField pairCohort

structure CohortRound where
  notes : Text
  pairCohort : Text
  mode : PolicyMode
  named : isNullOrWhiteSpace pairCohort = false

def policyText (mode : PolicyMode) : Text := ("; policy_mode=" ++ mode.name).toList

def CohortRound.finalNotes (round : CohortRound) : Text :=
  notesForRun round.notes round.pairCohort ++ policyText round.mode

theorem CohortRound.finalNotes_eq (round : CohortRound) : round.finalNotes =
    round.notes ++ (separator ++ (cohortField round.pairCohort ++ policyText round.mode)) := by
  rw [finalNotes, notesForRun, round.named]
  simp only [Bool.false_eq_true, if_false, List.append_assoc]

variable {K : Type}

/-- The directory is named as an episode, and its metadata, if it can be read, has the notes of
the round. -/
structure WrittenIn (round : CohortRound) (episode : EpisodeDirectory K) : Prop where
  named : namePrefix.isPrefixOf episode.name = true
  notes : ∀ metadata, episode.files.metadata = .content metadata →
    metadata.notes.toList = round.finalNotes

/-! ## The search for a cohort -/

/-- The field of a cohort is found in the notes of a round: in front of the name, or from a
position in the operator's notes or in the name. -/
def Mentions (cohort : Text) (round : CohortRound) : Prop :=
  cohort <+: round.pairCohort ++ policyText round.mode ∨
    BeginsIn (cohortField cohort) round.notes
      (separator ++ (cohortField round.pairCohort ++ policyText round.mode)) ∨
    BeginsIn (cohortField cohort) round.pairCohort (policyText round.mode)

private theorem mentions_self (round : CohortRound) : Mentions round.pairCohort round :=
  Or.inl (List.prefix_append _ _)

private theorem hasTag_iff {tag notes : Text} (htag : tag ≠ []) :
    hasTag tag notes = true ↔ tag <:+: notes := by
  have hempty : tag.isEmpty = false := by simp [htag]
  rw [hasTag, hempty, Bool.false_or, List.any_eq_true, List.infix_iff_prefix_suffix]
  simp only [List.mem_tails, List.isPrefixOf_iff_prefix]
  exact exists_congr fun _ => and_comm

private theorem cohortKey_eq : cohortKey = 'p' :: cohortKey.tail := by decide

private theorem cohortField_eq (cohort : Text) :
    cohortField cohort = 'p' :: (cohortKey.tail ++ cohort) := by
  rw [cohortField, ← List.cons_append, ← cohortKey_eq]

/-- No field of a cohort begins behind the name of the cohort. -/
theorem not_infix_policyText (cohort : Text) (mode : PolicyMode) :
    ¬cohortField cohort <:+: policyText mode := by
  have hkey : ¬cohortKey <:+: policyText mode := by
    cases mode <;> decide
  exact fun h => hkey ((List.prefix_append _ _).isInfix.trans h)

/-- An occurrence at the field of a round is one in front of the name. -/
theorem beginsIn_cohortKey_iff {cohort rest : Text} :
    BeginsIn (cohortField cohort) cohortKey rest ↔ cohort <+: rest := by
  have htail : ¬BeginsIn (cohortField cohort) cohortKey.tail rest := by
    rw [cohortField_eq]
    exact not_beginsIn_of_not_mem (by decide)
  have hfirst : BeginsIn (cohortField cohort) cohortKey rest ↔
      cohortField cohort <+: cohortKey ++ rest := by
    rw [cohortKey_eq, beginsIn_cons, or_iff_left htail, List.cons_append]
  rw [hfirst, cohortField, List.prefix_append_right_inj]

/-- What the substring test finds. -/
theorem hasTag_cohortField_iff {cohort : Text} {round : CohortRound} :
    hasTag (cohortField cohort) round.finalNotes = true ↔ Mentions cohort round := by
  have hseparator : ¬BeginsIn (cohortField cohort) separator
      (cohortField round.pairCohort ++ policyText round.mode) := by
    rw [cohortField_eq]
    exact not_beginsIn_of_not_mem (by decide)
  have hfield : cohortField cohort <:+: cohortField round.pairCohort ++ policyText round.mode ↔
      cohort <+: round.pairCohort ++ policyText round.mode ∨
        BeginsIn (cohortField cohort) round.pairCohort (policyText round.mode) := by
    rw [cohortField.eq_1 round.pairCohort, List.append_assoc, infix_append_iff_beginsIn,
      beginsIn_cohortKey_iff, infix_append_iff_beginsIn,
      or_iff_left (not_infix_policyText cohort round.mode)]
  rw [hasTag_iff (by rw [cohortField_eq]; exact List.cons_ne_nil _ _), round.finalNotes_eq,
    infix_append_iff_beginsIn, infix_append_iff_beginsIn, or_iff_right hseparator, hfield,
    Mentions, or_left_comm]

/-- If the notes and the names do not contain the key, a cohort is mentioned by the longer names
that begin with its own. -/
theorem mentions_iff_prefixed {cohort : Text} {round : CohortRound} (hcohort : ';' ∉ cohort)
    (hnotes : ¬cohortKey <:+: round.notes) (hname : ¬cohortKey <:+: round.pairCohort) :
    Mentions cohort round ↔ cohort <+: round.pairCohort := by
  have hpolicy : policyText round.mode = ';' :: (policyText round.mode).tail := by
    cases round.mode <;> decide
  have hseparator : separator = ';' :: separator.tail := by decide
  have hkey : ';' ∉ cohortKey := by decide
  have hfield : cohortKey <+: cohortField cohort := List.prefix_append _ _
  have hfree : ¬BeginsIn (cohortField cohort) round.notes
      (separator ++ (cohortField round.pairCohort ++ policyText round.mode)) := by
    intro h
    rw [hseparator, List.cons_append] at h
    exact hnotes (infix_of_beginsIn hkey (h.of_start hfield))
  have hinside : ¬BeginsIn (cohortField cohort) round.pairCohort (policyText round.mode) := by
    intro h
    rw [hpolicy] at h
    exact hname (infix_of_beginsIn hkey (h.of_start hfield))
  rw [Mentions, or_iff_left (not_or.mpr ⟨hfree, hinside⟩), hpolicy,
    prefix_append_cons_iff hcohort]

theorem exists_searchMode (round : CohortRound) :
    ∃ mode, searchMode round.finalNotes = some mode := by
  rw [CohortRound.finalNotes, policyText, searchMode_append]
  cases searchMode (notesForRun round.notes round.pairCohort) with
  | none => exact ⟨_, rfl⟩
  | some mode => exact ⟨mode, rfl⟩

/-! ## Counting -/

def isKept (outcome : Option String) : Bool :=
  decide (outcome = some "success") || decide (outcome = some "failure")

section Counting

variable {α : Type} {l : List α} {P Q : α → Prop} [DecidablePred P] [DecidablePred Q]
  {outcome : α → Option String}

private theorem countP_eq_iff_of_imp {p q : α → Bool} (h : ∀ x ∈ l, p x = true → q x = true) :
    l.countP q = l.countP p ↔ ∀ x ∈ l, q x = true → p x = true := by
  induction l with
  | nil => simp
  | cons x l ih =>
    obtain ⟨hx, hl⟩ := List.forall_mem_cons.mp h
    have hle : l.countP p ≤ l.countP q := List.countP_mono_left hl
    rw [List.forall_mem_cons, ← ih hl, List.countP_cons, List.countP_cons]
    cases hp : p x with
    | true => simp [hx hp]
    | false =>
      cases hq : q x with
      | true =>
        have hmore : l.countP q + 1 ≠ l.countP p := by omega
        simp [hmore]
      | false => simp

private theorem count_outcomes (a : String) :
    (l.filterMap fun x => if P x then outcome x else none).count a =
      l.countP fun x => decide (P x) && decide (outcome x = some a) := by
  rw [List.count_filterMap]
  refine List.countP_congr fun x _ => ?_
  by_cases hP : P x <;> simp [hP]

private theorem kept_lineOf : (lineOf (l.filterMap fun x => if P x then outcome x else none)).kept =
    l.countP fun x => decide (P x) && isKept (outcome x) := by
  rw [lineOf, count_outcomes, count_outcomes]
  induction l with
  | nil => rfl
  | cons x l ih =>
    simp only [List.countP_cons] at ih ⊢
    rw [← ih]
    have hone : ¬(outcome x = some "success" ∧ outcome x = some "failure") := by
      rintro ⟨hsuccess, hfailure⟩
      rw [hsuccess] at hfailure
      exact absurd (Option.some.inj hfailure) (by decide)
    by_cases hP : P x <;> by_cases hs : outcome x = some "success" <;>
      by_cases hf : outcome x = some "failure" <;> simp_all [isKept] <;> omega

/-- A line with further episodes is the same exactly if none of them is kept. -/
theorem lineOf_eq_iff_of_imp (h : ∀ x ∈ l, P x → Q x) :
    lineOf (l.filterMap fun x => if Q x then outcome x else none) =
        lineOf (l.filterMap fun x => if P x then outcome x else none) ↔
      ∀ x ∈ l, isKept (outcome x) = true → Q x → P x := by
  have hcounts : ∀ a : String,
      (l.filterMap fun x => if Q x then outcome x else none).count a =
          (l.filterMap fun x => if P x then outcome x else none).count a ↔
        ∀ x ∈ l, outcome x = some a → Q x → P x := by
    intro a
    rw [count_outcomes, count_outcomes, countP_eq_iff_of_imp]
    · refine forall₂_congr fun x _ => ?_
      simp only [Bool.and_eq_true, decide_eq_true_eq]
      exact ⟨fun hQP ha hQ => (hQP ⟨hQ, ha⟩).1, fun hQP hx => ⟨hQP hx.2 hx.1, hx.2⟩⟩
    · intro x hx
      simp only [Bool.and_eq_true, decide_eq_true_eq]
      exact fun hP => ⟨h x hx hP.1, hP.2⟩
  have hline : ∀ a b : List String, lineOf a = lineOf b ↔
      a.count "success" = b.count "success" ∧ a.count "failure" = b.count "failure" := by
    intro a b
    simp only [lineOf, ModeCounts.mk.injEq]
    omega
  rw [hline, hcounts, hcounts]
  simp only [isKept, Bool.or_eq_true, decide_eq_true_eq]
  constructor
  · rintro ⟨hsuccess, hfailure⟩ x hx hkept
    exact hkept.elim (hsuccess x hx) (hfailure x hx)
  · intro hall
    exact ⟨fun x hx hs => hall x hx (Or.inl hs), fun x hx hf => hall x hx (Or.inr hf)⟩

end Counting

/-! ## The table of a cohort -/

section Table

variable {rounds : List CohortRound} {episodes : List (EpisodeDirectory K)} {root : Dataset K}

def keptOf (cohort : Text) (rounds : List CohortRound) (episodes : List (EpisodeDirectory K)) : ℕ :=
  (rounds.zip episodes).countP fun p =>
    decide (p.1.pairCohort = cohort) && isKept (outcome? p.2)

def lineOfCohort (cohort : Text) (mode : PolicyMode) (rounds : List CohortRound)
    (episodes : List (EpisodeDirectory K)) : ModeCounts :=
  lineOf ((rounds.zip episodes).filterMap fun p =>
    if p.1.pairCohort = cohort ∧ searchMode p.1.finalNotes = some mode then outcome? p.2 else none)

def OnlyOwnMentions (cohort : Text) (rounds : List CohortRound)
    (episodes : List (EpisodeDirectory K)) : Prop :=
  ∀ p ∈ rounds.zip episodes, isKept (outcome? p.2) = true → Mentions cohort p.1 →
    p.1.pairCohort = cohort

private theorem named_of_written (h : List.Forall₂ WrittenIn rounds episodes) :
    ∀ episode ∈ episodes, namePrefix.isPrefixOf episode.name = true := by
  induction h with
  | nil => exact fun _ hnil => absurd hnil List.not_mem_nil
  | cons hfirst _ ih => exact List.forall_mem_cons.mpr ⟨hfirst.named, ih⟩

theorem reportedOutcomes_written (h : List.Forall₂ WrittenIn rounds episodes) (tag : Text)
    (mode : PolicyMode) : reportedOutcomes tag mode episodes =
      (rounds.zip episodes).filterMap fun p =>
        if hasTag tag p.1.finalNotes = true ∧ searchMode p.1.finalNotes = some mode
        then outcome? p.2 else none := by
  induction h with
  | nil => rfl
  | @cons round episode rounds episodes hfirst _ ih =>
    have hone : (if mode? tag episode = some mode then outcome? episode else none) =
        if hasTag tag round.finalNotes = true ∧ searchMode round.finalNotes = some mode
        then outcome? episode else none := by
      cases hmetadata : episode.files.metadata with
      | content metadata =>
        have hmode : mode? tag episode =
            if hasTag tag round.finalNotes then searchMode round.finalNotes else none := by
          rw [mode?, hmetadata, ← hfirst.notes metadata hmetadata]
          rfl
        simp only [hmode, Option.ite_none_right_eq_some]
      | missing => simp [outcome?, hmetadata]
      | unreadable => simp [outcome?, hmetadata]
    rw [reportedOutcomes] at ih
    rw [reportedOutcomes, List.zip_cons_cons, List.filterMap_cons, List.filterMap_cons, ih, hone]

theorem collect_written (h : List.Forall₂ WrittenIn rounds root.episodes) (cohort : Text)
    (mode : PolicyMode) : collect root (cohortField cohort) mode =
      lineOf ((rounds.zip root.episodes).filterMap fun p =>
        if hasTag (cohortField cohort) p.1.finalNotes = true ∧
          searchMode p.1.finalNotes = some mode then outcome? p.2 else none) := by
  rw [collect_of_named _ _ (named_of_written h), reportedOutcomes_written h]

private theorem kept_of_both (mentioned : CohortRound × EpisodeDirectory K → Bool)
    (pairs : List (CohortRound × EpisodeDirectory K)) :
    (pairs.countP fun p =>
        decide (mentioned p = true ∧ searchMode p.1.finalNotes = some .baseline) &&
          isKept (outcome? p.2)) +
      (pairs.countP fun p =>
        decide (mentioned p = true ∧ searchMode p.1.finalNotes = some .qgf) &&
          isKept (outcome? p.2)) =
      pairs.countP fun p => mentioned p && isKept (outcome? p.2) := by
  induction pairs with
  | nil => rfl
  | cons p pairs ih =>
    obtain ⟨mode, hmode⟩ := exists_searchMode p.1
    simp only [Bool.decide_and, Bool.decide_eq_true] at ih
    simp only [List.countP_cons, hmode, Bool.decide_and, Bool.decide_eq_true, ← ih]
    cases mode <;> simp <;> omega

/-- The table of a cohort counts the kept episodes of the cohort and no others, under each policy
and in all, exactly if no kept episode of another cohort mentions it. -/
theorem cohort_isolated_iff (h : List.Forall₂ WrittenIn rounds root.episodes) (cohort : Text) :
    ((∀ mode, collect root (cohortField cohort) mode =
        lineOfCohort cohort mode rounds root.episodes) ↔
      OnlyOwnMentions cohort rounds root.episodes) ∧
    ((collect root (cohortField cohort) .baseline).kept +
        (collect root (cohortField cohort) .qgf).kept = keptOf cohort rounds root.episodes ↔
      OnlyOwnMentions cohort rounds root.episodes) := by
  have hown : ∀ p ∈ rounds.zip root.episodes, p.1.pairCohort = cohort →
      hasTag (cohortField cohort) p.1.finalNotes = true := by
    rintro p - rfl
    exact hasTag_cohortField_iff.mpr (mentions_self p.1)
  constructor
  · have hmode : ∀ mode, collect root (cohortField cohort) mode =
          lineOfCohort cohort mode rounds root.episodes ↔
        ∀ p ∈ rounds.zip root.episodes, isKept (outcome? p.2) = true →
          hasTag (cohortField cohort) p.1.finalNotes = true ∧
              searchMode p.1.finalNotes = some mode →
            p.1.pairCohort = cohort ∧ searchMode p.1.finalNotes = some mode := fun mode => by
      rw [collect_written h, lineOfCohort]
      exact lineOf_eq_iff_of_imp fun p hp hcohort => ⟨hown p hp hcohort.1, hcohort.2⟩
    simp only [hmode, hasTag_cohortField_iff]
    constructor
    · intro hall p hp hkept hmentions
      obtain ⟨mode, hsearch⟩ := exists_searchMode p.1
      exact (hall mode p hp hkept ⟨hmentions, hsearch⟩).1
    · intro honly mode p hp hkept hfound
      exact ⟨honly p hp hkept hfound.1, hfound.2⟩
  · rw [collect_written h, collect_written h, kept_lineOf, kept_lineOf,
      kept_of_both (fun p => hasTag (cohortField cohort) p.1.finalNotes), keptOf,
      countP_eq_iff_of_imp]
    · refine forall₂_congr fun p _ => ?_
      simp only [Bool.and_eq_true, decide_eq_true_eq, hasTag_cohortField_iff]
      exact ⟨fun hall hkept hmentions => (hall ⟨hmentions, hkept⟩).1,
        fun honly hfound => ⟨honly hfound.2 hfound.1, hfound.2⟩⟩
    · intro p hp
      simp only [Bool.and_eq_true, decide_eq_true_eq]
      exact fun hcohort => ⟨hown p hp hcohort.1, hcohort.2⟩

end Table

/-! ## Concrete cohorts -/

def roundTables : Tabulated where
  numSamples := 2
  numTransitions := 1
  capture := ⟨2, 1, 1, fun _ => 0, true, ⟨1, 1, 0, 1, 1⟩, ⟨1, 1, 0, 1, 1⟩, none, none⟩

def roundArgs (round : CohortRound) : FinalizeArgs :=
  ⟨none, .success, "", String.ofList round.finalNotes, "unknown", "", ""⟩

def roundEpisode (index : ℕ) (round : CohortRound) : EpisodeDirectory ℚ where
  name := episodeName index
  files := stagedEpisode (.content (episodeMetadata (roundArgs round) roundTables index))

private theorem writtenIn_roundEpisode (index : ℕ) (round : CohortRound) :
    WrittenIn round (roundEpisode index round) where
  named := List.isPrefixOf_iff_prefix.mpr (List.prefix_append _ _)
  notes := by
    intro metadata hmetadata
    obtain rfl := JsonFile.content.inj hmetadata
    exact String.toList_ofList

/-- A round of a cohort with the notes of the launcher's default. -/
def cohortRound (pairCohort : Text) (mode : PolicyMode)
    (named : isNullOrWhiteSpace pairCohort = false) : CohortRound :=
  ⟨"distractor_perturbation".toList, pairCohort, mode, named⟩

def round1 : CohortRound := cohortRound "round1".toList .baseline (by decide)

def round2 : CohortRound := cohortRound "round2".toList .qgf (by decide)

def round10 : CohortRound := cohortRound "round10".toList .qgf (by decide)

def twoRounds (first second : CohortRound) : Dataset ℚ :=
  datasetWith [roundEpisode 0 first, roundEpisode 1 second]

private theorem written_twoRounds (first second : CohortRound) :
    List.Forall₂ WrittenIn [first, second] (twoRounds first second).episodes :=
  .cons (writtenIn_roundEpisode 0 first) (.cons (writtenIn_roundEpisode 1 second) .nil)

theorem different_names_isolated :
    (collect (twoRounds round1 round2) (cohortField "round1".toList) .baseline).kept +
        (collect (twoRounds round1 round2) (cohortField "round1".toList) .qgf).kept =
      keptOf "round1".toList [round1, round2] (twoRounds round1 round2).episodes := by
  apply (cohort_isolated_iff (written_twoRounds round1 round2) "round1".toList).2.mpr
  intro p hp _ hmentions
  have hpairs : p = (round1, roundEpisode 0 round1) ∨ p = (round2, roundEpisode 1 round2) := by
    simpa [twoRounds, datasetWith] using hp
  rcases hpairs with rfl | rfl
  · rfl
  · rw [mentions_iff_prefixed (by decide) (by decide) (by decide)] at hmentions
    exact absurd hmentions (by decide)

/-- The table of the first cohort counts the episode of the tenth as well. -/
theorem longer_name_counted :
    List.Forall₂ WrittenIn [round1, round10] (twoRounds round1 round10).episodes ∧
      keptOf "round1".toList [round1, round10] (twoRounds round1 round10).episodes = 1 ∧
      (collect (twoRounds round1 round10) (cohortField "round1".toList) .baseline).kept +
        (collect (twoRounds round1 round10) (cohortField "round1".toList) .qgf).kept = 2 := by
  have hwritten := written_twoRounds round1 round10
  refine ⟨hwritten, by decide +kernel, ?_⟩
  rw [collect_written hwritten, collect_written hwritten]
  decide +kernel

end SmolVlaQgf.CohortStatistics
