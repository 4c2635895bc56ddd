import SmolVlaQgf.EpisodeCommit

/-!
# Committed episodes and their index

The manifest of a dataset whose committed episodes carry the metadata of their own index: one
row for each of them, ordered by index, and a summary that counts the rows.
-/

namespace SmolVlaQgf.CommittedEpisodes
open FieldText EpisodeRecorder CaptureValidation EpisodeDataset EpisodeCommit

variable {K : Type} {episodes : List (EpisodeDirectory K)} {rows : List ManifestRow}

/-! ## Well-formed datasets -/

def inManifest (episode : EpisodeDirectory K) : Bool :=
  isListed episode.name && episode.files.metadata.isFile

def committedEpisodes (episodes : List (EpisodeDirectory K)) : List (EpisodeDirectory K) :=
  episodes.filter inManifest

structure CommittedAs (episode : EpisodeDirectory K) (index : ℕ) : Prop where
  bounded : index < 10 ^ 6
  name : episode.name = episodeName index
  metadata : ∃ metadata, episode.files.metadata = .content metadata ∧
    metadata.row.episodeIndex = index ∧ metadata.row.numTransitions.isSome = true

structure WellFormed (episodes : List (EpisodeDirectory K)) : Prop where
  nodup : (episodes.map (·.name)).Nodup
  committed : ∀ episode ∈ committedEpisodes episodes, ∃ index, CommittedAs episode index

/-! ## The index -/

structure Counts (rows : List ManifestRow) (summary : DatasetSummary) : Prop where
  episodes : summary.episodes = rows.length
  successes : summary.successes = rows.countP (·.success)
  failures : summary.failures = rows.countP (!·.success)
  total : summary.successes + summary.failures = summary.episodes
  numbers : ∀ row ∈ rows, row.numTransitions.isSome = true
  transitions : summary.transitions = (rows.map fun row => row.numTransitions.getD 0).sum

/-- The manifest has one row for each committed episode, in the order of the indices, and the
summary counts them. -/
structure Indexed (d : Dataset K) : Prop where
  indexed : ∃ rows summary, d.manifest = some rows ∧ d.summary = some summary ∧
    (rows.map some).Perm ((committedEpisodes d.episodes).map row?) ∧
    rows.Pairwise (·.episodeIndex < ·.episodeIndex) ∧ Counts rows summary

/-! ## The rebuilt index -/

private theorem isSome_row?_eq (episode : EpisodeDirectory K)
    (h : episode.files.metadata ≠ .unreadable) :
    (row? episode).isSome = episode.files.metadata.isFile := by
  rw [row?]
  cases hmetadata : episode.files.metadata with
  | missing => rfl
  | unreadable => exact absurd hmetadata h
  | content metadata => rfl

theorem WellFormed.readable (h : WellFormed episodes) {episode : EpisodeDirectory K}
    (hmem : episode ∈ episodes) (hlisted : isListed episode.name = true) :
    episode.files.metadata ≠ .unreadable := by
  intro hunreadable
  have hcommitted : episode ∈ committedEpisodes episodes := by
    rw [committedEpisodes, List.mem_filter, inManifest, hlisted, hunreadable]
    exact ⟨hmem, rfl⟩
  obtain ⟨index, hindex⟩ := h.committed episode hcommitted
  obtain ⟨metadata, hmetadata, -⟩ := hindex.metadata
  rw [hunreadable] at hmetadata
  cases hmetadata

theorem committedRows_perm (h : WellFormed episodes) :
    ((committedRows episodes).map some).Perm ((committedEpisodes episodes).map row?) := by
  have hsorted : ((committedRows episodes).map some).Perm
      (((episodes.filter fun episode => isListed episode.name).filterMap row?).map some) :=
    ((List.mergeSort_perm _ _).filterMap row?).map some
  refine hsorted.trans (List.Perm.of_eq ?_)
  rw [List.map_filterMap_some_eq_filter_map_isSome, List.filter_map, List.filter_filter,
    committedEpisodes]
  congr 1
  refine List.filter_congr fun episode hmem => ?_
  cases hlisted : isListed episode.name with
  | true =>
    rw [inManifest, hlisted, Function.comp_apply, isSome_row?_eq _ (h.readable hmem hlisted),
      Bool.and_comm]
  | false => rw [inManifest, hlisted, Bool.and_false, Bool.false_and]

private theorem pairwise_sortedEpisodes (h : WellFormed episodes) :
    (sortedEpisodes episodes).Pairwise fun a b => a.name < b.name := by
  have hle : (sortedEpisodes episodes).Pairwise fun a b => a.name ≤ b.name := by
    rw [sortedEpisodes]
    refine (List.pairwise_mergeSort ?_ ?_ _).imp fun hab => of_decide_eq_true hab
    · intro a b c hab hbc
      exact decide_eq_true (le_trans (of_decide_eq_true hab) (of_decide_eq_true hbc))
    · intro a b
      rw [Bool.or_eq_true, decide_eq_true_iff, decide_eq_true_iff]
      exact le_total _ _
  have hne : (sortedEpisodes episodes).Pairwise fun a b => a.name ≠ b.name := by
    have hfilter : ((episodes.filter fun episode => isListed episode.name).map (·.name)).Nodup :=
      h.nodup.sublist (List.filter_sublist.map _)
    have hperm := (List.mergeSort_perm (episodes.filter fun episode => isListed episode.name)
      fun a b => decide (a.name ≤ b.name)).map (·.name)
    exact List.pairwise_map.mp (hperm.nodup_iff.mpr hfilter)
  exact hle.imp₂ (fun _ _ hle hne => lt_of_le_of_ne hle hne) hne

/-- The rows are in the order of the indices. -/
theorem committedRows_increasing (h : WellFormed episodes) :
    (committedRows episodes).Pairwise (·.episodeIndex < ·.episodeIndex) := by
  have hcommitted : ∀ episode ∈ sortedEpisodes episodes, ∀ row, row? episode = some row →
      ∃ index : ℕ, index < 10 ^ 6 ∧ episode.name = episodeName index ∧
        row.episodeIndex = index := by
    intro episode hepisode row hrow
    obtain ⟨hmem, hlisted⟩ := mem_sortedEpisodes.mp hepisode
    obtain ⟨metadata, hmetadata, rfl⟩ := row?_eq_some_iff.mp hrow
    have hin : episode ∈ committedEpisodes episodes := by
      rw [committedEpisodes, List.mem_filter, inManifest, hlisted, hmetadata]
      exact ⟨hmem, rfl⟩
    obtain ⟨index, hindex⟩ := h.committed episode hin
    obtain ⟨metadata', hmetadata', hvalue, -⟩ := hindex.metadata
    obtain rfl := JsonFile.content.inj (hmetadata.symm.trans hmetadata')
    exact ⟨index, hindex.bounded, hindex.name, hvalue⟩
  rw [committedRows, List.pairwise_filterMap]
  refine (pairwise_sortedEpisodes h).imp_of_mem fun ha hb hlt row hrow row' hrow' => ?_
  obtain ⟨m, hm, hname, hrow⟩ := hcommitted _ ha row hrow
  obtain ⟨n, hn, hname', hrow'⟩ := hcommitted _ hb row' hrow'
  rw [hname, hname'] at hlt
  rw [hrow, hrow', Int.ofNat_lt]
  exact lt_of_episodeName_lt hm hn hlt

private theorem sum_of_totalTransitions {transitions : ℤ}
    (h : totalTransitions rows = some transitions) :
    transitions = (rows.map fun row => row.numTransitions.getD 0).sum := by
  induction rows generalizing transitions with
  | nil => exact (Option.some.inj h).symm
  | cons row rows ih =>
    rw [totalTransitions, Option.bind_eq_some_iff] at h
    obtain ⟨n, hn, h⟩ := h
    obtain ⟨rest, hrest, rfl⟩ := Option.map_eq_some_iff.mp h
    rw [List.map_cons, List.sum_cons, hn, Option.getD_some, ih hrest]

private theorem counts_datasetSummary {transitions : ℤ}
    (h : totalTransitions rows = some transitions)
    (now : String) : Counts rows (datasetSummary rows transitions now) where
  episodes := rfl
  successes := rfl
  failures := rfl
  total := by
    have hsplit : rows.length = _ :=
      List.length_eq_countP_add_countP fun row : ManifestRow => row.success
    simp only [datasetSummary]
    rw [hsplit]
    simp
  numbers := totalTransitions_isSome_iff.mp (by rw [h, Option.isSome_some])
  transitions := sum_of_totalTransitions h

theorem indexed_of_rebuilt {d : Dataset K} (h : WellFormed d.episodes) {transitions : ℤ}
    {now : String} (hmanifest : d.manifest = some (committedRows d.episodes))
    (htotal : totalTransitions (committedRows d.episodes) = some transitions)
    (hsummary : d.summary = some (datasetSummary (committedRows d.episodes) transitions now)) :
    Indexed d where
  indexed := ⟨_, _, hmanifest, hsummary, committedRows_perm h, committedRows_increasing h,
    counts_datasetSummary htotal now⟩

end SmolVlaQgf.CommittedEpisodes
