import Mathlib.Algebra.Order.Floor.Ring
import Mathlib.Data.List.MinMax
import SmolVlaQgf.EpisodeDataset
import SmolVlaQgf.PeriodicRepresentatives

/-!
# Aligned action-chunk samples

`_load_episode_samples` joins each policy chunk with the observation it was computed from and
with the transitions of its time span; the labels of a sample are collected over the span.
`_join_episodes` derives two of them again for the trainer. NumPy's search in the timestamps
is a parameter.
-/

namespace SmolVlaQgf.AlignedSamples
open ExactFloats FieldText EpisodeRecorder TransitionTable EpisodeDataset PeriodicRepresentatives

/-! ## Numbers -/

inductive AlignError where
  | zeroDivision
  | overflow
  | notANumber
  | emptyTransitions
  | emptyTimestamps
  | indexError

section Numbers

variable {K : Type}

/-- `numerator / x` -/
def divide [Field K] [DecidableEq K] (numerator : K) : PyFloat K → Except AlignError (PyFloat K)
  | .finite x => if x = 0 then .error .zeroDivision else .ok (.finite (numerator / x))
  | .posInf | .negInf => .ok (.finite 0)
  | .nan => .ok .nan

/-- `x * 1_000_000_000` -/
def toNanoseconds [Field K] : PyFloat K → PyFloat K
  | .finite x => .finite (x * ((1000000000 : ℕ) : K))
  | x => x

section Integers

variable [Field K] [LinearOrder K] [FloorRing K]

/-- `int(x)` -/
def truncated : PyFloat K → Except AlignError ℤ
  | .finite x => .ok (if 0 ≤ x then ⌊x⌋ else ⌈x⌉)
  | .nan => .error .notANumber
  | _ => .error .overflow

/-- `int(round(x))` -/
def rounded : PyFloat K → Except AlignError ℤ
  | .finite x => .ok (roundHalfEven x)
  | .nan => .error .notANumber
  | _ => .error .overflow

end Integers

/-- `x + y` -/
def addFloats [Add K] : PyFloat K → PyFloat K → PyFloat K
  | .finite x, .finite y => .finite (x + y)
  | .nan, _ | _, .nan | .posInf, .negInf | .negInf, .posInf => .nan
  | .posInf, _ | _, .posInf => .posInf
  | .negInf, _ | _, .negInf => .negInf

/-- `torch.maximum` -/
def tensorMaximum [LinearOrder K] : PyFloat K → PyFloat K → PyFloat K
  | .finite x, .finite y => .finite (max x y)
  | .nan, _ | _, .nan => .nan
  | .posInf, _ | _, .posInf => .posInf
  | .negInf, x | x, .negInf => x

end Numbers

/-! ## The alignment of a chunk -/

/-- `AlignmentConfig` -/
structure AlignmentConfig (K : Type) where
  actionHorizon : ℤ
  policyHz : PyFloat K
  maxTransitionGapSeconds : PyFloat K

inductive Skip where
  | invalidActionChunkShape
  | missingAlignedPolicyObservation
  | startTransitionTooFar
  | invalidTransitionOrder
  deriving DecidableEq

def Skip.name : Skip → String
  | .invalidActionChunkShape => "invalid_action_chunk_shape"
  | .missingAlignedPolicyObservation => "missing_aligned_policy_observation"
  | .startTransitionTooFar => "start_transition_too_far"
  | .invalidTransitionOrder => "invalid_transition_order"

/-- The value fits into `np.int64`. -/
def isInt64 (value : ℤ) : Bool := decide (-2 ^ 63 ≤ value) && decide (value < 2 ^ 63)

/-- The domain of NumPy's search in an array of `np.int64`. -/
def Int64Value (value : ℤ) : Prop := isInt64 value = true

instance : DecidablePred Int64Value := fun value =>
  inferInstanceAs (Decidable (isInt64 value = true))

/-- The indices `pos - 1` and `pos`, where they exist. -/
def candidates (pos length : ℕ) : List ℕ :=
  ([(pos : ℤ) - 1, (pos : ℤ)].filter fun index : ℤ =>
    decide (0 ≤ index) && decide (index < (length : ℤ))).map Int.toNat

theorem mem_candidates {pos length k : ℕ} :
    k ∈ candidates pos length ↔ (k = pos ∨ k + 1 = pos) ∧ k < length := by
  simp only [candidates, List.mem_map, List.mem_filter, List.mem_cons, List.not_mem_nil, or_false,
    Bool.and_eq_true, decide_eq_true_eq]
  constructor
  · rintro ⟨index, hindex, rfl⟩
    omega
  · rintro ⟨hk, hlength⟩
    exact ⟨k, by omega, Int.toNat_natCast k⟩

/-- `_nearest_index`: the first of the two candidates that is nearest. -/
def nearestIndex (searchsorted : List ℤ → ℤ → ℕ) (sortedTimestamps : List ℤ) (timestamp : ℤ) :
    Except AlignError (ℕ × ℤ) :=
  if sortedTimestamps.all isInt64 then
    let pos := searchsorted sortedTimestamps timestamp
    let gap (index : ℕ) : ℕ := (sortedTimestamps.getD index 0 - timestamp).natAbs
    match (candidates pos sortedTimestamps.length).argmin gap with
    | none => .error .emptyTimestamps
    | some index => .ok (index, gap index)
  else .error .overflow

/-- `_valid_camera_pair` -/
def validCameraPair (frames : FrameReference) : Bool :=
  decide (0 ≤ frames.chestFrameIndex) && decide (0 ≤ frames.wristFrameIndex)

variable {K : Type}

/-- `_choose_observation` -/
def chooseObservation (rows : List (PolicyObservationRow K)) (chunkTimestampNs : ℤ) :
    Option (PolicyObservationRow K) :=
  (rows.filter fun row => validCameraPair row.frames).argmin fun row =>
    (row.timestampNs - chunkTimestampNs).natAbs

/-- `_rows_by_observation_timestep(rows).get(timestep, [])` -/
def rowsByObservationTimestep (rows : List (PolicyObservationRow K)) (timestep : ℤ) :
    List (PolicyObservationRow K) :=
  rows.filter fun row => decide (row.observationTimestep = timestep)

/-- A chunk with its observation and its span of transitions. -/
structure Alignment (K : Type) where
  chunk : ChunkRow K
  observation : PolicyObservationRow K
  startGap : ℤ
  startIndex : ℕ
  endIndex : ℕ

/-- `transitions[start_index : end_index + 1]` -/
def spanOf (transitions : List (TransitionRow K)) (startIndex endIndex : ℕ) :
    List (TransitionRow K) :=
  (transitions.take (endIndex + 1)).drop startIndex

/-- The span ends early at its first row that is done. -/
def cutIndex (transitions : List (TransitionRow K)) (startIndex endIndex : ℕ) : ℕ :=
  match (spanOf transitions startIndex endIndex).findIdx? (·.done) with
  | some offset => startIndex + offset
  | none => endIndex

/-- The end of a span that reaches the last timestamp is the last transition. -/
def spanEnd (timestamps : List ℤ) (target : ℤ) (nearest : ℕ) : ℕ :=
  if timestamps.getLast?.any (decide <| · ≤ target) then timestamps.length - 1 else nearest

def alignChunk (searchsorted : List ℤ → ℤ → ℕ) (actionHorizon maxGapNs horizonNs : ℤ)
    (observations : List (PolicyObservationRow K)) (transitions : List (TransitionRow K))
    (chunk : ChunkRow K) : Except AlignError (Skip ⊕ Alignment K) :=
  let timestamps := transitions.map (·.timestampNs)
  if chunk.actionChunkNormalized.length ≠ actionHorizon ∨
      chunk.actionChunkNormalized.any (decide <| ·.length ≠ 8) then
    .ok (.inl .invalidActionChunkShape)
  else
    match chooseObservation (rowsByObservationTimestep observations chunk.observationTimestep)
        chunk.timestampNs with
    | none => .ok (.inl .missingAlignedPolicyObservation)
    | some observation =>
        match nearestIndex searchsorted timestamps observation.timestampNs with
        | .error error => .error error
        | .ok (startIndex, startGap) =>
            if maxGapNs < startGap then .ok (.inl .startTransitionTooFar)
            else
              let target := observation.timestampNs + horizonNs
              match nearestIndex searchsorted timestamps target with
              | .error error => .error error
              | .ok (nearest, _) =>
                  let endIndex := spanEnd timestamps target nearest
                  if endIndex < startIndex then .ok (.inl .invalidTransitionOrder)
                  else .ok (.inr ⟨chunk, observation, startGap, startIndex,
                    cutIndex transitions startIndex endIndex⟩)

structure AlignedBy (searchsorted : List ℤ → ℤ → ℕ) (actionHorizon maxGapNs horizonNs : ℤ)
    (observations : List (PolicyObservationRow K)) (transitions : List (TransitionRow K))
    (chunk : ChunkRow K) (alignment : Alignment K) : Prop where
  of : alignment.chunk = chunk
  length : (chunk.actionChunkNormalized.length : ℤ) = actionHorizon
  observation : chooseObservation
    (rowsByObservationTimestep observations chunk.observationTimestep) chunk.timestampNs =
      some alignment.observation
  start : nearestIndex searchsorted (transitions.map (·.timestampNs))
    alignment.observation.timestampNs = .ok (alignment.startIndex, alignment.startGap)
  near : alignment.startGap ≤ maxGapNs
  finish : ∃ nearest gap, nearestIndex searchsorted (transitions.map (·.timestampNs))
      (alignment.observation.timestampNs + horizonNs) = .ok (nearest, gap) ∧
    alignment.startIndex ≤ spanEnd (transitions.map (·.timestampNs))
      (alignment.observation.timestampNs + horizonNs) nearest ∧
    alignment.endIndex = cutIndex transitions alignment.startIndex
      (spanEnd (transitions.map (·.timestampNs))
        (alignment.observation.timestampNs + horizonNs) nearest)

theorem alignedBy_of_alignChunk {searchsorted : List ℤ → ℤ → ℕ}
    {actionHorizon maxGapNs horizonNs : ℤ} {observations : List (PolicyObservationRow K)}
    {transitions : List (TransitionRow K)} {chunk : ChunkRow K} {alignment : Alignment K}
    (h : alignChunk searchsorted actionHorizon maxGapNs horizonNs observations transitions chunk =
      .ok (.inr alignment)) :
    AlignedBy searchsorted actionHorizon maxGapNs horizonNs observations transitions chunk
      alignment := by
  simp only [alignChunk] at h
  split at h
  · cases h
  · rename_i hshape
    split at h
    · cases h
    · rename_i hobservation
      split at h
      · cases h
      · rename_i hstart
        split at h
        · cases h
        · rename_i hgap
          split at h
          · cases h
          · rename_i hnearest
            split at h
            · cases h
            · rename_i horder
              obtain rfl := Sum.inr.inj (Except.ok.inj h)
              exact ⟨rfl, not_not.mp (not_or.mp hshape).1, hobservation, hstart, not_lt.mp hgap,
                _, _, hnearest, not_lt.mp horder, rfl⟩

structure AlignedSample (K : Type) where
  episodeIndex : ℤ
  episodeName : Text
  episodeOutcome : String
  task : String
  chunkIndex : ℕ
  observationTimestep : ℤ
  chunkTimestampNs : ℤ
  state : List (PyFloat K)
  actionChunkNormalized : List (List (PyFloat K))
  nextState : List (PyFloat K)
  reward : PyFloat K
  success : Bool
  done : Bool
  terminated : Bool
  truncated : Bool
  chestFrameIndex : ℤ
  wristFrameIndex : ℤ
  nextChestFrameIndex : ℤ
  nextWristFrameIndex : ℤ
  nextVisualValid : Bool
  startTransitionGapNs : ℤ

/-- The metadata of the episode that goes into its samples. -/
structure EpisodeLabel where
  episodeIndex : ℤ
  episodeName : Text
  outcome : String
  task : String

section Samples

variable [Zero K] [Add K]

/-- The sample of an alignment; `endRow` is the transition at its end. -/
def sampleOf (label : EpisodeLabel) (span : List (TransitionRow K)) (endRow : TransitionRow K)
    (alignment : Alignment K) : AlignedSample K where
  episodeIndex := label.episodeIndex
  episodeName := label.episodeName
  episodeOutcome := label.outcome
  task := label.task
  chunkIndex := alignment.chunk.chunkIndex
  observationTimestep := alignment.chunk.observationTimestep
  chunkTimestampNs := alignment.chunk.timestampNs
  state := alignment.observation.state
  actionChunkNormalized := alignment.chunk.actionChunkNormalized
  nextState := endRow.nextState
  reward := (span.map (·.reward)).foldl addFloats (.finite 0)
  success := span.any (·.success)
  done := span.any (·.done)
  terminated := span.any (·.terminated)
  truncated := span.any (·.truncated)
  chestFrameIndex := alignment.observation.frames.chestFrameIndex
  wristFrameIndex := alignment.observation.frames.wristFrameIndex
  nextChestFrameIndex := if validCameraPair endRow.frames then endRow.frames.chestFrameIndex else -1
  nextWristFrameIndex := if validCameraPair endRow.frames then endRow.frames.wristFrameIndex else -1
  nextVisualValid := validCameraPair endRow.frames
  startTransitionGapNs := alignment.startGap

def alignedSample (label : EpisodeLabel) (transitions : List (TransitionRow K))
    (alignment : Alignment K) : Except AlignError (AlignedSample K) :=
  match transitions[alignment.endIndex]? with
  | none => .error .indexError
  | some endRow => .ok (sampleOf label
      (spanOf transitions alignment.startIndex alignment.endIndex) endRow alignment)

/-- The samples so far and the counter of the chunks left out. -/
structure Loaded (K : Type) where
  samples : List (AlignedSample K)
  skipped : Skip → ℕ

def alignChunks (align : ChunkRow K → Except AlignError (Skip ⊕ Alignment K))
    (label : EpisodeLabel) (transitions : List (TransitionRow K)) :
    List (ChunkRow K) → Loaded K → Except AlignError (Loaded K)
  | [], loaded => .ok loaded
  | chunk :: chunks, loaded =>
      match align chunk with
      | .error error => .error error
      | .ok (.inl skip) => alignChunks align label transitions chunks
          { loaded with
            skipped := Function.update loaded.skipped skip (loaded.skipped skip + 1) }
      | .ok (.inr alignment) =>
          match alignedSample label transitions alignment with
          | .error error => .error error
          | .ok sample => alignChunks align label transitions chunks
              { loaded with
                samples := loaded.samples ++ [sample] }

theorem alignChunks_cases {align : ChunkRow K → Except AlignError (Skip ⊕ Alignment K)}
    {label : EpisodeLabel} {transitions : List (TransitionRow K)} {chunk : ChunkRow K}
    {chunks : List (ChunkRow K)} {loaded final : Loaded K}
    (h : alignChunks align label transitions (chunk :: chunks) loaded = .ok final) :
    (∃ skip, align chunk = .ok (.inl skip) ∧
      alignChunks align label transitions chunks { loaded with
        skipped := Function.update loaded.skipped skip (loaded.skipped skip + 1) } = .ok final) ∨
    ∃ alignment sample, align chunk = .ok (.inr alignment) ∧
      alignedSample label transitions alignment = .ok sample ∧
      alignChunks align label transitions chunks { loaded with
        samples := loaded.samples ++ [sample] } = .ok final := by
  rw [alignChunks] at h
  split at h
  next => cases h
  next skip hskip => exact Or.inl ⟨skip, hskip, h⟩
  next alignment halign =>
    split at h
    next => cases h
    next sample hsample => exact Or.inr ⟨alignment, sample, halign, hsample, h⟩

end Samples

/-- `_load_episode_samples` -/
def loadEpisodeSamples [Field K] [LinearOrder K] [FloorRing K]
    (searchsorted : List ℤ → ℤ → ℕ) (config : AlignmentConfig K) (label : EpisodeLabel)
    (chunks : List (ChunkRow K)) (observations : List (PolicyObservationRow K))
    (transitions : List (TransitionRow K)) : Except AlignError (Loaded K) :=
  if transitions.isEmpty then .error .emptyTransitions
  else
    match truncated (toNanoseconds config.maxTransitionGapSeconds) with
    | .error error => .error error
    | .ok maxGapNs =>
        match divide (config.actionHorizon : K) config.policyHz with
        | .error error => .error error
        | .ok seconds =>
            match rounded (toNanoseconds seconds) with
            | .error error => .error error
            | .ok horizonNs => alignChunks (alignChunk searchsorted config.actionHorizon maxGapNs
                horizonNs observations transitions) label transitions chunks ⟨[], fun _ => 0⟩

structure AlignmentConfig.InNanoseconds [Field K] [LinearOrder K] [FloorRing K]
    (config : AlignmentConfig K) (maxGapNs horizonNs : ℤ) : Prop where
  gap : truncated (toNanoseconds config.maxTransitionGapSeconds) = .ok maxGapNs
  horizon : ∃ seconds, divide (config.actionHorizon : K) config.policyHz = .ok seconds ∧
    rounded (toNanoseconds seconds) = .ok horizonNs

theorem loadEpisodeSamples_eq_ok [Field K] [LinearOrder K] [FloorRing K]
    {searchsorted : List ℤ → ℤ → ℕ} {config : AlignmentConfig K} {label : EpisodeLabel}
    {chunks : List (ChunkRow K)} {observations : List (PolicyObservationRow K)}
    {transitions : List (TransitionRow K)} {loaded : Loaded K}
    (h : loadEpisodeSamples searchsorted config label chunks observations transitions =
      .ok loaded) :
    ∃ maxGapNs horizonNs, config.InNanoseconds maxGapNs horizonNs ∧
      alignChunks (alignChunk searchsorted config.actionHorizon maxGapNs horizonNs observations
        transitions) label transitions chunks ⟨[], fun _ => 0⟩ = .ok loaded := by
  rw [loadEpisodeSamples] at h
  split at h
  · cases h
  · split at h
    · cases h
    · rename_i maxGapNs hgap
      split at h
      · cases h
      · rename_i seconds hseconds
        split at h
        · cases h
        · rename_i horizonNs hhorizon
          exact ⟨maxGapNs, horizonNs, ⟨hgap, seconds, hseconds, hhorizon⟩, h⟩

theorem AlignmentConfig.InNanoseconds.unique [Field K] [LinearOrder K] [FloorRing K]
    {config : AlignmentConfig K} {maxGapNs horizonNs maxGapNs' horizonNs' : ℤ}
    (h : config.InNanoseconds maxGapNs horizonNs) (h' : config.InNanoseconds maxGapNs' horizonNs') :
    maxGapNs' = maxGapNs ∧ horizonNs' = horizonNs := by
  obtain ⟨hgap, seconds, hseconds, hhorizon⟩ := h
  obtain ⟨hgap', seconds', hseconds', hhorizon'⟩ := h'
  obtain rfl := Except.ok.inj (hseconds.symm.trans hseconds')
  exact ⟨Except.ok.inj (hgap'.symm.trans hgap), Except.ok.inj (hhorizon'.symm.trans hhorizon)⟩

/-- A load of an episode with transitions is the loop over its chunks. -/
theorem loadEpisodeSamples_eq [Field K] [LinearOrder K] [FloorRing K]
    {searchsorted : List ℤ → ℤ → ℕ} {config : AlignmentConfig K} {label : EpisodeLabel}
    {chunks : List (ChunkRow K)} {observations : List (PolicyObservationRow K)}
    {transitions : List (TransitionRow K)} {maxGapNs horizonNs : ℤ} (hrows : transitions ≠ [])
    (hconfig : config.InNanoseconds maxGapNs horizonNs) :
    loadEpisodeSamples searchsorted config label chunks observations transitions =
      alignChunks (alignChunk searchsorted config.actionHorizon maxGapNs horizonNs observations
        transitions) label transitions chunks ⟨[], fun _ => 0⟩ := by
  obtain ⟨hgap, seconds, hseconds, hhorizon⟩ := hconfig
  rw [loadEpisodeSamples, if_neg (by simpa using hrows), hgap, hseconds]
  simp only [hhorizon]

end SmolVlaQgf.AlignedSamples
