import SmolVlaQgf.ValidationIsolation
import Mathlib.Algebra.Order.Floor.Ring
import Mathlib.Data.List.Dedup
import Mathlib.Data.List.GetD
import Mathlib.Data.List.Perm.Subperm
import Mathlib.Data.List.Sort
import Mathlib.Data.Rat.Floor
import Mathlib.Tactic.NormNum

/-!
# Splitting rows along rollouts

Whatever permutation is drawn, `split_indices_by_episode` puts every row on one side and all
rows of an episode on the same side, and the held-out episodes are the rounded-down share, but
at least one and not all.
-/

namespace SmolVlaQgf.RolloutSplit
open Tensors CriticDataset ValidationIsolation

/-! ## What a split should be -/

/-- Every row is on one side, in ascending order, and no episode is on both sides. -/
structure Partitions (episodeIndices : List ℤ) (split : SplitIndices) : Prop where
  train_ascending : split.train.Pairwise (· < ·)
  validation_ascending : split.validation.Pairwise (· < ·)
  disjoint : split.train.Disjoint split.validation
  all : ∀ index, index ∈ split.train ∨ index ∈ split.validation ↔ index < episodeIndices.length
  apart : ∀ i ∈ split.train, ∀ j ∈ split.validation, episodeIndices[i]? ≠ episodeIndices[j]?

def distinctEpisodes (episodeIndices : List ℤ) : List ℤ := episodeIndices.dedup

def heldOutEpisodes (episodeIndices : List ℤ) (split : SplitIndices) : List ℤ :=
  (split.validation.filterMap (episodeIndices[·]?)).dedup

/-! ## Rows and their episodes -/

private theorem mem_uniqueSorted {episodeIndices : List ℤ} {episode : ℤ} :
    episode ∈ uniqueSorted episodeIndices ↔ episode ∈ episodeIndices := by
  rw [uniqueSorted, List.mem_insertionSort, List.mem_dedup]

private theorem uniqueSorted_perm (episodeIndices : List ℤ) :
    (uniqueSorted episodeIndices).Perm episodeIndices.dedup :=
  List.perm_insertionSort _ _

/-- The rows a test holds out and the others. -/
theorem partitions_filter (episodeIndices : List ℤ) (held : ℕ → Bool)
    (h : ∀ i j, episodeIndices[i]? = episodeIndices[j]? → held i = held j) :
    Partitions episodeIndices
      ⟨(List.range episodeIndices.length).filter fun index => !held index,
        (List.range episodeIndices.length).filter held⟩ := by
  constructor
  · exact List.pairwise_lt_range.filter _
  · exact List.pairwise_lt_range.filter _
  · intro index htrain hvalidation
    have hnot := (List.mem_filter.mp htrain).2
    rw [(List.mem_filter.mp hvalidation).2] at hnot
    simp at hnot
  · intro index
    cases hheld : held index <;> simp [hheld]
  · intro i hi j hj heq
    have hnot := (List.mem_filter.mp hi).2
    rw [h i j heq, (List.mem_filter.mp hj).2] at hnot
    simp at hnot

private theorem partitions_all (episodeIndices : List ℤ) :
    Partitions episodeIndices ⟨List.range episodeIndices.length, []⟩ := by
  have h := partitions_filter episodeIndices (fun _ => false) (fun _ _ _ => rfl)
  simpa using h

section Drawn

variable {unique : List ℤ} {drawn : List ℕ}

/-- The episodes at distinct positions of a list without repetition. -/
theorem filterMap_positions (hdrawn : ∀ i ∈ drawn, i < unique.length) :
    drawn.filterMap (unique[·]?) = drawn.map fun i => unique.getD i 0 := by
  rw [← List.filterMap_eq_map]
  refine List.filterMap_congr fun i hi => ?_
  have hlt := hdrawn i hi
  simp [List.getElem?_eq_getElem hlt, List.getD_eq_getElem?_getD]

private theorem nodup_positions (hunique : unique.Nodup) (hnodup : drawn.Nodup)
    (hdrawn : ∀ i ∈ drawn, i < unique.length) : (drawn.filterMap (unique[·]?)).Nodup := by
  rw [filterMap_positions hdrawn]
  refine hnodup.map_on fun i hi j hj heq => ?_
  rw [List.getD_eq_getElem _ _ (hdrawn i hi), List.getD_eq_getElem _ _ (hdrawn j hj)] at heq
  exact (hunique.getElem_inj_iff).mp heq

private theorem length_positions (hdrawn : ∀ i ∈ drawn, i < unique.length) :
    (drawn.filterMap (unique[·]?)).length = drawn.length := by
  rw [filterMap_positions hdrawn, List.length_map]

end Drawn

/-! ## The split -/

section Split

variable {K : Type} [Field K] [LinearOrder K] [IsStrictOrderedRing K] [FloorRing K]
  {valFraction : K} {randperm : ℕ → List ℕ} {episodeIndices : List ℤ}

/-- A share below one of some episodes is not all of them. -/
theorem validationCount_eq (h1 : valFraction < 1) {count : ℕ} (hcount : 2 ≤ count) :
    validationCount valFraction count = max 1 ⌊(count : K) * valFraction⌋.toNat := by
  have hpos : (0 : K) < count := by exact_mod_cast (by omega : 0 < count)
  have hlt : (count : K) * valFraction < (count : ℤ) := by
    rw [Int.cast_natCast]
    calc (count : K) * valFraction < count * 1 := mul_lt_mul_of_pos_left h1 hpos
      _ = count := mul_one _
  have hfloor : ⌊(count : K) * valFraction⌋ < count := Int.floor_lt.mpr hlt
  rw [validationCount]
  omega

omit [IsStrictOrderedRing K] in
private theorem validationCount_lt (valFraction : K) {count : ℕ} (hcount : 2 ≤ count) :
    validationCount valFraction count < count := by
  rw [validationCount]
  omega

def drawn (valFraction : K) (randperm : ℕ → List ℕ) (episodeIndices : List ℤ) : List ℕ :=
  (randperm (uniqueSorted episodeIndices).length).take
    (validationCount valFraction (uniqueSorted episodeIndices).length)

def valEpisodes (valFraction : K) (randperm : ℕ → List ℕ) (episodeIndices : List ℤ) : List ℤ :=
  (drawn valFraction randperm episodeIndices).filterMap ((uniqueSorted episodeIndices)[·]?)

def Permutes (randperm : ℕ → List ℕ) : Prop := ∀ n, (randperm n).Perm (List.range n)

omit [IsStrictOrderedRing K] in
private theorem lt_of_mem_drawn (h : Permutes randperm) {i : ℕ}
    (hi : i ∈ drawn valFraction randperm episodeIndices) :
    i < (uniqueSorted episodeIndices).length :=
  List.mem_range.mp ((h _).subset (List.mem_of_mem_take hi))

omit [IsStrictOrderedRing K] in
private theorem nodup_valEpisodes (h : Permutes randperm) :
    (valEpisodes valFraction randperm episodeIndices).Nodup := by
  have hunique : (uniqueSorted episodeIndices).Nodup :=
    (uniqueSorted_perm episodeIndices).nodup_iff.mpr (List.nodup_dedup _)
  have hdrawn : (drawn valFraction randperm episodeIndices).Nodup :=
    (List.take_sublist _ _).nodup ((h _).nodup_iff.mpr List.nodup_range)
  exact nodup_positions hunique hdrawn fun i hi => lt_of_mem_drawn h hi

omit [IsStrictOrderedRing K] in
private theorem length_valEpisodes (h : Permutes randperm)
    (hcount : 2 ≤ (uniqueSorted episodeIndices).length) :
    (valEpisodes valFraction randperm episodeIndices).length =
      validationCount valFraction (uniqueSorted episodeIndices).length := by
  have hlt := validationCount_lt valFraction hcount
  rw [valEpisodes, length_positions fun i hi => lt_of_mem_drawn h hi, drawn, List.length_take,
    (h _).length_eq, List.length_range]
  omega

omit [IsStrictOrderedRing K] in
private theorem valEpisodes_subset :
    valEpisodes valFraction randperm episodeIndices ⊆ episodeIndices := by
  intro episode hepisode
  obtain ⟨i, -, hi⟩ := List.mem_filterMap.mp hepisode
  exact mem_uniqueSorted.mp (List.mem_of_getElem? hi)

def held (valFraction : K) (randperm : ℕ → List ℕ) (episodeIndices : List ℤ) (index : ℕ) : Bool :=
  (episodeIndices[index]?).any (valEpisodes valFraction randperm episodeIndices).contains

omit [IsStrictOrderedRing K] in
theorem held_iff {index : ℕ} :
    held valFraction randperm episodeIndices index = true ↔
      ∃ episode ∈ valEpisodes valFraction randperm episodeIndices,
        episodeIndices[index]? = some episode := by
  rw [held]
  cases episodeIndices[index]? with
  | none => simp
  | some episode => simp

omit [IsStrictOrderedRing K] in
theorem heldOutEpisodes_perm (h : Permutes randperm) {train : List ℕ} :
    (heldOutEpisodes episodeIndices ⟨train, (List.range episodeIndices.length).filter
      (held valFraction randperm episodeIndices)⟩).Perm
      (valEpisodes valFraction randperm episodeIndices) := by
  apply (List.perm_ext_iff_of_nodup (List.nodup_dedup _) (nodup_valEpisodes h)).mpr
  intro episode
  rw [List.mem_dedup, List.mem_filterMap]
  constructor
  · rintro ⟨index, hindex, hentry⟩
    obtain ⟨other, hother, heq⟩ := held_iff.mp (List.mem_filter.mp hindex).2
    rw [hentry, Option.some.injEq] at heq
    exact heq ▸ hother
  · intro hepisode
    obtain ⟨index, hlt, hentry⟩ := List.mem_iff_getElem.mp (valEpisodes_subset hepisode)
    have hentry' : episodeIndices[index]? = some episode := by
      rw [List.getElem?_eq_getElem hlt, hentry]
    refine ⟨index, List.mem_filter.mpr ⟨List.mem_range.mpr hlt, ?_⟩, hentry'⟩
    exact held_iff.mpr ⟨episode, hepisode, hentry'⟩

omit [IsStrictOrderedRing K] in
theorem exists_not_held (valFraction : K) (h : Permutes randperm)
    (hcount : 2 ≤ (uniqueSorted episodeIndices).length) :
    ∃ index < episodeIndices.length, held valFraction randperm episodeIndices index = false := by
  by_contra hall
  push Not at hall
  have hsubset : uniqueSorted episodeIndices ⊆ valEpisodes valFraction randperm episodeIndices := by
    intro episode hepisode
    obtain ⟨index, hlt, hentry⟩ := List.mem_iff_getElem.mp (mem_uniqueSorted.mp hepisode)
    have hheld : held valFraction randperm episodeIndices index = true := by
      simpa using hall index hlt
    obtain ⟨other, hother, heq⟩ := held_iff.mp hheld
    rw [List.getElem?_eq_getElem hlt, hentry, Option.some.injEq] at heq
    exact heq ▸ hother
  have hunique : (uniqueSorted episodeIndices).Nodup :=
    (uniqueSorted_perm episodeIndices).nodup_iff.mpr (List.nodup_dedup _)
  have hle := (hunique.subperm hsubset).length_le
  have hlt := validationCount_lt valFraction hcount
  rw [length_valEpisodes h hcount] at hle
  omega

omit [IsStrictOrderedRing K] in
theorem exists_held (valFraction : K) (h : Permutes randperm)
    (hcount : 2 ≤ (uniqueSorted episodeIndices).length) :
    ∃ index < episodeIndices.length, held valFraction randperm episodeIndices index = true := by
  have hone : 1 ≤ validationCount valFraction (uniqueSorted episodeIndices).length :=
    le_max_left _ _
  rw [← length_valEpisodes h hcount] at hone
  obtain ⟨episode, hepisode⟩ := List.exists_mem_of_length_pos hone
  obtain ⟨index, hlt, hentry⟩ := List.mem_iff_getElem.mp (valEpisodes_subset hepisode)
  exact ⟨index, hlt, held_iff.mpr ⟨episode, hepisode, by rw [List.getElem?_eq_getElem hlt, hentry]⟩⟩

omit [IsStrictOrderedRing K] in
theorem split_eq (hrange : ¬(valFraction < 0 ∨ 1 ≤ valFraction)) (hnonempty : episodeIndices ≠ [])
    (hsome : ¬(valFraction = 0 ∨ (uniqueSorted episodeIndices).length < 2)) :
    splitIndicesByEpisode valFraction randperm episodeIndices = .ok
      ⟨(List.range episodeIndices.length).filter fun index =>
          !held valFraction randperm episodeIndices index,
        (List.range episodeIndices.length).filter (held valFraction randperm episodeIndices)⟩ := by
  rw [splitIndicesByEpisode, if_neg hrange, if_neg hnonempty]
  exact if_neg hsome

/-- The split partitions the rows along the episodes, with the rounded share of the episodes
held out. -/
theorem rollout_split (h0 : 0 ≤ valFraction) (h1 : valFraction < 1)
    (hnonempty : episodeIndices ≠ []) (h : Permutes randperm) :
    ∃ split, splitIndicesByEpisode valFraction randperm episodeIndices = .ok split ∧
      Partitions episodeIndices split ∧
      (0 < valFraction ∧ 2 ≤ (distinctEpisodes episodeIndices).length →
        split.train ≠ [] ∧ split.validation ≠ [] ∧
          ((heldOutEpisodes episodeIndices split).length : ℤ) =
            max 1 ⌊valFraction * (distinctEpisodes episodeIndices).length⌋) ∧
      (¬(0 < valFraction ∧ 2 ≤ (distinctEpisodes episodeIndices).length) →
        split.validation = []) := by
  have hlength : (uniqueSorted episodeIndices).length = (distinctEpisodes episodeIndices).length :=
    (uniqueSorted_perm episodeIndices).length_eq
  have hrange : ¬(valFraction < 0 ∨ 1 ≤ valFraction) :=
    not_or.mpr ⟨not_lt.mpr h0, not_le.mpr h1⟩
  by_cases hall : valFraction = 0 ∨ (uniqueSorted episodeIndices).length < 2
  · rw [splitIndicesByEpisode, if_neg hrange, if_neg hnonempty]
    refine ⟨_, if_pos hall, partitions_all episodeIndices, fun hsome => ?_, fun _ => rfl⟩
    rw [hlength] at hall
    rcases hall with hzero | hfew
    · exact absurd hzero hsome.1.ne'
    · omega
  · refine ⟨_, split_eq hrange hnonempty hall, partitions_filter _ _ fun i j heq => ?_,
      fun _ => ⟨?_, ?_, ?_⟩, fun hnone => ?_⟩
    all_goals
      push Not at hall
      obtain ⟨hfraction, hcount⟩ := hall
    · rw [held, held, heq]
    · obtain ⟨index, hlt, hnot⟩ := exists_not_held valFraction h hcount
      exact List.ne_nil_of_mem (List.mem_filter.mpr ⟨List.mem_range.mpr hlt, by simp [hnot]⟩)
    · obtain ⟨index, hlt, hheld⟩ := exists_held valFraction h hcount
      exact List.ne_nil_of_mem (List.mem_filter.mpr ⟨List.mem_range.mpr hlt, hheld⟩)
    · rw [(heldOutEpisodes_perm h).length_eq, length_valEpisodes h hcount,
        validationCount_eq h1 hcount, hlength, mul_comm]
      omega
    · exact absurd ⟨lt_of_le_of_ne h0 (Ne.symm hfraction), hlength ▸ hcount⟩ hnone

end Split

theorem half_of_three_rollouts :
    ∃ split, splitIndicesByEpisode (1 / 2 : ℚ) List.range [3, 3, 7, 5] = .ok split ∧
      Partitions [3, 3, 7, 5] split ∧ split.train ≠ [] ∧ split.validation ≠ [] := by
  have hnonempty : ([3, 3, 7, 5] : List ℤ) ≠ [] := List.cons_ne_nil _ _
  have hpermutes : Permutes List.range := fun _ => .refl _
  obtain ⟨split, hsplit, hpartitions, hsome, -⟩ :=
    rollout_split (by norm_num : (0 : ℚ) ≤ 1 / 2) (by norm_num) hnonempty hpermutes
  obtain ⟨htrain, hvalidation, -⟩ := hsome ⟨by norm_num, by decide⟩
  exact ⟨split, hsplit, hpartitions, htrain, hvalidation⟩

end SmolVlaQgf.RolloutSplit
