import Mathlib.Algebra.Order.Ring.Int
import SmolVlaQgf.AlignedSamples
import SmolVlaQgf.NearestEntries

/-!
# Nearest transitions in order

`_nearest_index` compares only the two timestamps next to the position that NumPy's search
returns. In ascending timestamps one of them is nearest among all, and a later time never finds an
earlier index. The end of a span is therefore never before its start.
-/

namespace SmolVlaQgf.TransitionOrder
open EpisodeRecorder TransitionTable AlignedSamples NearestEntries

/-! ## The candidates -/

/-- With both candidates in range the left one comes first. -/
theorem candidates_both {k length : ℕ} (h : k + 1 < length) :
    candidates (k + 1) length = [k, k + 1] := by
  have hleft : (0 : ℤ) ≤ ((k + 1 : ℕ) : ℤ) - 1 ∧ ((k + 1 : ℕ) : ℤ) - 1 < length := by omega
  have hright : (0 : ℤ) ≤ ((k + 1 : ℕ) : ℤ) ∧ ((k + 1 : ℕ) : ℤ) < length := by omega
  simp only [candidates, List.filter_cons, List.filter_nil, hleft, hright, decide_true,
    Bool.and_self, if_true, List.map_cons, List.map_nil, Int.toNat_natCast]
  congr 1
  omega

/-! ## The nearest index -/

variable {searchsorted : List ℤ → ℤ → ℕ} {timestamps : List ℤ} {t t' gap gap' : ℤ} {i i' : ℕ}

def gapAt (timestamps : List ℤ) (timestamp : ℤ) (index : ℕ) : ℕ :=
  (timestamps.getD index 0 - timestamp).natAbs

structure Chosen (pos : ℕ) (timestamps : List ℤ) (timestamp : ℤ) (index : ℕ) : Prop where
  neighbour : index = pos ∨ index + 1 = pos
  inRange : index < timestamps.length
  minimal : ∀ k, (k = pos ∨ k + 1 = pos) → k < timestamps.length →
    gapAt timestamps timestamp index ≤ gapAt timestamps timestamp k
  first : ∀ k, k + 1 = pos → index = pos →
    gapAt timestamps timestamp pos < gapAt timestamps timestamp k

private theorem chosen_of_argmin {pos : ℕ}
    (h : (candidates pos timestamps.length).argmin (gapAt timestamps t) = some i) :
    Chosen pos timestamps t i := by
  obtain ⟨hmem, hminimal, -⟩ := List.argmin_eq_some_iff.mp h
  obtain ⟨hneighbour, hrange⟩ := mem_candidates.mp hmem
  refine ⟨hneighbour, hrange, fun k hk hlength => hminimal k (mem_candidates.mpr ⟨hk, hlength⟩), ?_⟩
  rintro k rfl rfl
  obtain ⟨p, hleftmost⟩ := exists_leftmostMinimum h
  rw [candidates_both hrange] at hleftmost
  have hposition : 0 < p := by
    have hentry := hleftmost.entry
    rcases Nat.eq_zero_or_pos p with rfl | hpos
    · simp at hentry
    · exact hpos
  exact hleftmost.leftmost 0 k hposition rfl

private theorem nearestIndex_eq_ok (h : nearestIndex searchsorted timestamps t = .ok (i, gap)) :
    (∀ timestamp ∈ timestamps, Int64Value timestamp) ∧
      Chosen (searchsorted timestamps t) timestamps t i ∧ gap = gapAt timestamps t i := by
  rw [nearestIndex] at h
  split at h
  · rename_i hint64
    dsimp only at h
    split at h
    · cases h
    · rename_i index hindex
      obtain ⟨rfl, rfl⟩ := Prod.mk.inj (Except.ok.inj h)
      exact ⟨List.all_eq_true.mp hint64, chosen_of_argmin hindex, rfl⟩
  · cases h

/-- A search in timestamps that fit into 64 bits finds an index. -/
theorem exists_nearestIndex (hwithin : searchsorted timestamps t ≤ timestamps.length)
    (hnonempty : timestamps ≠ []) (hint64 : ∀ timestamp ∈ timestamps, Int64Value timestamp) :
    ∃ i, nearestIndex searchsorted timestamps t = .ok (i, gapAt timestamps t i) := by
  rw [nearestIndex, if_pos (List.all_eq_true.mpr hint64)]
  dsimp only
  split
  · rename_i hnone
    have hlength := List.length_pos_of_ne_nil hnonempty
    have hmem : searchsorted timestamps t - 1 ∈
        candidates (searchsorted timestamps t) timestamps.length ∨
        searchsorted timestamps t ∈
          candidates (searchsorted timestamps t) timestamps.length := by
      simp only [mem_candidates]
      omega
    rw [List.argmin_eq_none.mp hnone] at hmem
    simp at hmem
  · exact ⟨_, rfl⟩

/-- The index has an entry that is as near to the timestamp as any, with the given gap. -/
structure NearestAt (timestamps : List ℤ) (timestamp : ℤ) (index : ℕ) (gap : ℤ) : Prop where
  entry : ∃ x, timestamps[index]? = some x ∧ gap = |x - timestamp|
  minimal : ∀ y ∈ timestamps, gap ≤ |y - timestamp|

private theorem cast_gapAt {k : ℕ} {x : ℤ} (h : timestamps[k]? = some x) :
    (gapAt timestamps t k : ℤ) = |x - t| := by
  rw [gapAt, List.getD_eq_getElem?_getD, h, Option.getD_some, Int.natCast_natAbs]

theorem Chosen.nearestAt (hsearch : InsertsLeft Int64Value searchsorted)
    (hsorted : timestamps.Pairwise (· ≤ ·))
    (hint64 : ∀ timestamp ∈ timestamps, Int64Value timestamp) (ht : Int64Value t)
    (h : Chosen (searchsorted timestamps t) timestamps t i) :
    NearestAt timestamps t i (gapAt timestamps t i) := by
  constructor
  · exact ⟨_, List.getElem?_eq_getElem h.inRange, cast_gapAt (List.getElem?_eq_getElem h.inRange)⟩
  · intro y hy
    obtain ⟨j, hj⟩ := List.mem_iff_getElem?.mp hy
    obtain ⟨k, x, hk, hx, hle⟩ := hsearch.exists_neighbour hsorted hint64 ht hj
    have hminimal := h.minimal k hk (List.getElem?_eq_some_iff.mp hx).1
    calc (gapAt timestamps t i : ℤ) ≤ gapAt timestamps t k := by exact_mod_cast hminimal
      _ = |x - t| := cast_gapAt hx
      _ ≤ |y - t| := hle

theorem Chosen.mono (hsearch : InsertsLeft Int64Value searchsorted)
    (hsorted : timestamps.Pairwise (· ≤ ·))
    (hint64 : ∀ timestamp ∈ timestamps, Int64Value timestamp) (ht : Int64Value t)
    (ht' : Int64Value t') (hle : t ≤ t') (h : Chosen (searchsorted timestamps t) timestamps t i)
    (h' : Chosen (searchsorted timestamps t') timestamps t' i') : i ≤ i' := by
  have hpos := hsearch.mono hsorted hint64 ht ht' hle
  by_contra hlt
  push Not at hlt
  -- Only one position for both times, the right candidate first and then the left one.
  have heq : searchsorted timestamps t' = searchsorted timestamps t := by
    have hleft := h.neighbour
    have hright := h'.neighbour
    omega
  have hi : i = searchsorted timestamps t := by
    have hleft := h.neighbour
    have hright := h'.neighbour
    omega
  have hi' : i' + 1 = searchsorted timestamps t := by
    have hright := h'.neighbour
    omega
  obtain ⟨x, hx⟩ : ∃ x, timestamps[i']? = some x := ⟨_, List.getElem?_eq_getElem h'.inRange⟩
  obtain ⟨y, hy⟩ : ∃ y, timestamps[i]? = some y := ⟨_, List.getElem?_eq_getElem h.inRange⟩
  have hleft := ((hsearch.left timestamps t hsorted hint64 ht).1 _ _ (by omega) hx).le
  have hright := (hsearch.left timestamps t' hsorted hint64 ht').2 _ _ (by omega) hy
  have hfirst : |y - t| < |x - t| := by
    rw [← cast_gapAt hx, ← cast_gapAt hy, hi]
    exact_mod_cast h.first i' hi' hi
  have hsecond := abs_sub_lt_of_between hleft hle hright hfirst
  rw [← cast_gapAt hx, ← cast_gapAt hy] at hsecond
  have hminimal := h'.minimal i (Or.inl (hi.trans heq.symm)) h.inRange
  omega

/-! ## The order of a span -/

variable {K : Type} {actionHorizon maxGapNs horizonNs : ℤ}
  {observations : List (PolicyObservationRow K)} {transitions : List (TransitionRow K)}
  {chunk : ChunkRow K}

private theorem int64Value_of_le_of_lt {x y z : ℤ} (hx : Int64Value x) (hz : Int64Value z)
    (hxy : x ≤ y)
    (hyz : y < z) : Int64Value y := by
  simp only [Int64Value, isInt64, Bool.and_eq_true, decide_eq_true_eq] at *
  omega

/-- The end of a span is not before its start. The target may lie beyond 64 bits: it is then
behind the last timestamp, and the span ends with the last transition. -/
theorem start_le_spanEnd (hsearch : InsertsLeft Int64Value searchsorted)
    (hsorted : timestamps.Pairwise (· ≤ ·)) (ht : Int64Value t) (hle : t ≤ t')
    (h : nearestIndex searchsorted timestamps t = .ok (i, gap))
    (h' : nearestIndex searchsorted timestamps t' = .ok (i', gap')) :
    i ≤ spanEnd timestamps t' i' := by
  obtain ⟨hint64, hchosen, -⟩ := nearestIndex_eq_ok h
  obtain ⟨-, hchosen', -⟩ := nearestIndex_eq_ok h'
  have hrange := hchosen.inRange
  obtain ⟨last, hlast⟩ := Option.isSome_iff_exists.mp
    (List.getLast?_isSome.mpr (List.ne_nil_of_length_pos (Nat.zero_lt_of_lt hrange)))
  rw [spanEnd, hlast, Option.any_some]
  split_ifs with hbehind
  · omega
  · have hbefore : t' < last := by simpa using hbehind
    have ht' := int64Value_of_le_of_lt ht (hint64 last (List.mem_of_getLast? hlast)) hle hbefore
    exact hchosen.mono hsearch hsorted hint64 ht ht' hle hchosen'

private theorem mem_of_chooseObservation {rows : List (PolicyObservationRow K)}
    {timestep timestampNs : ℤ}
    {row : PolicyObservationRow K}
    (h : chooseObservation (rowsByObservationTimestep rows timestep) timestampNs = some row) :
    row ∈ rows :=
  (List.mem_filter.mp (List.mem_filter.mp (List.argmin_mem h)).1).1

/-- A chunk of an episode in order is never left out for the order of its transitions. -/
theorem alignChunk_ne_invalidTransitionOrder (hsearch : InsertsLeft Int64Value searchsorted)
    (hsorted : (transitions.map (·.timestampNs)).Pairwise (· ≤ ·)) (hhorizon : 0 ≤ horizonNs)
    (hobservations : ∀ observation ∈ observations, Int64Value observation.timestampNs) :
    alignChunk searchsorted actionHorizon maxGapNs horizonNs observations transitions chunk ≠
      .ok (.inl .invalidTransitionOrder) := by
  intro h
  simp only [alignChunk] at h
  split at h
  · cases h
  · split at h
    · cases h
    · rename_i hobservation
      have ht := hobservations _ (mem_of_chooseObservation hobservation)
      split at h
      · cases h
      · rename_i hstart
        split at h
        · cases h
        · split at h
          · cases h
          · rename_i hnearest
            split at h
            · rename_i horder
              exact absurd (start_le_spanEnd hsearch hsorted ht (by omega) hstart hnearest)
                (not_le.mpr horder)
            · cases h

private theorem skipped_alignChunks [Zero K] [Add K] {skip : Skip}
    {align : ChunkRow K → Except AlignError (Skip ⊕ Alignment K)} {label : EpisodeLabel}
    {chunks : List (ChunkRow K)} {loaded final : Loaded K}
    (halign : ∀ chunk ∈ chunks, align chunk ≠ .ok (.inl skip))
    (h : alignChunks align label transitions chunks loaded = .ok final) :
    final.skipped skip = loaded.skipped skip := by
  induction chunks generalizing loaded with
  | nil =>
    rw [alignChunks] at h
    rw [Except.ok.inj h]
  | cons chunk chunks ih =>
    have hrest := fun chunk hchunk => halign chunk (List.mem_cons_of_mem _ hchunk)
    obtain ⟨other, hother, hnext⟩ | ⟨alignment, sample, -, -, hnext⟩ := alignChunks_cases h
    · have hne : skip ≠ other := by
        rintro rfl
        exact halign chunk List.mem_cons_self hother
      rw [ih hrest hnext]
      exact Function.update_of_ne hne _ _
    · rw [ih hrest hnext]

def SpansInOrder (searchsorted : List ℤ → ℤ → ℕ) (K : Type) [Field K] [LinearOrder K]
    [FloorRing K] : Prop :=
  ∀ (config : AlignmentConfig K) (maxGapNs horizonNs : ℤ) (transitions : List (TransitionRow K)),
    (transitions.map (·.timestampNs)).Pairwise (· ≤ ·) →
    config.InNanoseconds maxGapNs horizonNs → 0 ≤ horizonNs →
    ∀ observations : List (PolicyObservationRow K),
      (∀ observation ∈ observations, Int64Value observation.timestampNs) →
      (∀ chunk, alignChunk searchsorted config.actionHorizon maxGapNs horizonNs observations
        transitions chunk ≠ .ok (.inl .invalidTransitionOrder)) ∧
      ∀ (label : EpisodeLabel) (chunks : List (ChunkRow K)) (loaded : Loaded K),
        loadEpisodeSamples searchsorted config label chunks observations transitions =
          .ok loaded → loaded.skipped .invalidTransitionOrder = 0

private theorem spansInOrder (hsearch : InsertsLeft Int64Value searchsorted) (K : Type) [Field K]
    [LinearOrder K]
    [FloorRing K] : SpansInOrder searchsorted K := by
  intro config maxGapNs horizonNs transitions hsorted hconfig hhorizon observations hobservations
  have hchunk : ∀ chunk, alignChunk searchsorted config.actionHorizon maxGapNs horizonNs
      observations transitions chunk ≠ .ok (.inl .invalidTransitionOrder) :=
    fun chunk => alignChunk_ne_invalidTransitionOrder hsearch hsorted hhorizon hobservations
  refine ⟨hchunk, fun label chunks loaded h => ?_⟩
  obtain ⟨maxGapNs', horizonNs', hconfig', hloaded⟩ := loadEpisodeSamples_eq_ok h
  obtain ⟨rfl, rfl⟩ := hconfig.unique hconfig'
  exact skipped_alignChunks (fun chunk _ => hchunk chunk) hloaded

/-- In ascending 64-bit timestamps the search finds the nearest entries of two 64-bit times in
their order, and the spans of chunks are in order. -/
theorem nearest_and_in_order (hsearch : InsertsLeft Int64Value searchsorted)
    (hnonempty : timestamps ≠ []) (hsorted : timestamps.Pairwise (· ≤ ·))
    (hint64 : ∀ timestamp ∈ timestamps, Int64Value timestamp) (ht : Int64Value t)
    (ht' : Int64Value t') (hle : t ≤ t') (K : Type) [Field K] [LinearOrder K] [FloorRing K] :
    (∃ i gap i' gap', nearestIndex searchsorted timestamps t = .ok (i, gap) ∧
      nearestIndex searchsorted timestamps t' = .ok (i', gap') ∧
      NearestAt timestamps t i gap ∧ NearestAt timestamps t' i' gap' ∧ i ≤ i') ∧
    SpansInOrder searchsorted K := by
  refine ⟨?_, spansInOrder hsearch K⟩
  obtain ⟨i, hi⟩ := exists_nearestIndex (hsearch.within timestamps t) hnonempty hint64
  obtain ⟨i', hi'⟩ := exists_nearestIndex (hsearch.within timestamps t') hnonempty hint64
  obtain ⟨-, hchosen, -⟩ := nearestIndex_eq_ok hi
  obtain ⟨-, hchosen', -⟩ := nearestIndex_eq_ok hi'
  exact ⟨i, _, i', _, hi, hi', hchosen.nearestAt hsearch hsorted hint64 ht,
    hchosen'.nearestAt hsearch hsorted hint64 ht',
    hchosen.mono hsearch hsorted hint64 ht ht' hle hchosen'⟩

theorem duplicates_nearest :
    (∃ i gap i' gap', nearestIndex sortedSearch [0, 4, 4, 9] 4 = .ok (i, gap) ∧
      nearestIndex sortedSearch [0, 4, 4, 9] 7 = .ok (i', gap') ∧
      NearestAt [0, 4, 4, 9] 4 i gap ∧ NearestAt [0, 4, 4, 9] 7 i' gap' ∧ i ≤ i') ∧
    SpansInOrder sortedSearch ℚ :=
  nearest_and_in_order insertsLeft_sortedSearch (by decide) (by decide) (by decide)
    (by decide) (by decide) (by decide) ℚ

/-- A timestamp beyond 64 bits is refused. -/
theorem beyond_int64_overflows :
    ¬∀ timestamps : List ℤ, timestamps ≠ [] → timestamps.Pairwise (· ≤ ·) → ∀ t : ℤ,
      ∃ i gap, nearestIndex sortedSearch timestamps t = .ok (i, gap) := by
  intro hclaim
  obtain ⟨i, gap, h⟩ := hclaim [2 ^ 63] (by decide) (List.pairwise_singleton _ _) 0
  rw [nearestIndex, if_neg (by decide)] at h
  cases h

end SmolVlaQgf.TransitionOrder
