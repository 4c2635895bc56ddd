import SmolVlaQgf.AlignedSamples
import SmolVlaQgf.NearestEntries

/-!
# The observation joined to a chunk

A chunk is joined to the two-camera row of its observation timestep that is nearest in time, on
either side. The client resends observations of one timestep while a chunk is inferred, so the
nearest row can be one made after the chunk.
-/

namespace SmolVlaQgf.JoinedObservations
open ExactFloats EpisodeRecorder TransitionTable AlignedSamples NearestEntries

variable {K : Type} {observations : List (PolicyObservationRow K)} {chunk : ChunkRow K}

/-- The two-camera rows with the observation timestep of a chunk, in the recorded order. -/
def candidateRows (observations : List (PolicyObservationRow K)) (chunk : ChunkRow K) :
    List (PolicyObservationRow K) :=
  (rowsByObservationTimestep observations chunk.observationTimestep).filter fun row =>
    validCameraPair row.frames

def joinedObservation (observations : List (PolicyObservationRow K)) (chunk : ChunkRow K) :
    Option (PolicyObservationRow K) :=
  chooseObservation (rowsByObservationTimestep observations chunk.observationTimestep)
    chunk.timestampNs

def distance (chunk : ChunkRow K) (row : PolicyObservationRow K) : ℕ :=
  (row.timestampNs - chunk.timestampNs).natAbs

def NotLater (chunk : ChunkRow K) (row : PolicyObservationRow K) : Prop :=
  row.timestampNs ≤ chunk.timestampNs

instance (chunk : ChunkRow K) (row : PolicyObservationRow K) : Decidable (NotLater chunk row) :=
  inferInstanceAs (Decidable (_ ≤ _))

/-- Every row made after the chunk is beaten by one that was not: a nearer one, or one equally
near that was recorded before it. -/
def LaterRowsBeaten (observations : List (PolicyObservationRow K)) (chunk : ChunkRow K) : Prop :=
  ∀ (j : ℕ) later, (candidateRows observations chunk)[j]? = some later → ¬NotLater chunk later →
    ∃ (k : ℕ) (row : _), (candidateRows observations chunk)[k]? = some row ∧ NotLater chunk row ∧
      (distance chunk row < distance chunk later ∨
        distance chunk row = distance chunk later ∧ k < j)

private theorem joinedObservation_eq : joinedObservation observations chunk =
    (candidateRows observations chunk).argmin (distance chunk) := rfl

/-- Every alignment of a chunk is with the observation it is joined to. -/
theorem observation_of_alignChunk {searchsorted : List ℤ → ℤ → ℕ}
    {actionHorizon maxGapNs horizonNs : ℤ} {transitions : List (TransitionRow K)}
    {alignment : Alignment K}
    (h : alignChunk searchsorted actionHorizon maxGapNs horizonNs observations transitions chunk =
      .ok (.inr alignment)) :
    alignment.chunk = chunk ∧ joinedObservation observations chunk = some alignment.observation :=
  ⟨(alignedBy_of_alignChunk h).of, (alignedBy_of_alignChunk h).observation⟩

/-- A chunk with a two-camera row made no later is joined to a row, which is made no later
exactly when every later row is beaten; every sample of the chunk is made with that row. -/
theorem joined_not_later_iff (observations : List (PolicyObservationRow K)) (chunk : ChunkRow K)
    (hbefore : ∃ row ∈ observations, row.observationTimestep = chunk.observationTimestep ∧
      validCameraPair row.frames = true ∧ NotLater chunk row) :
    ∃ joined, joinedObservation observations chunk = some joined ∧
      (∀ (searchsorted : List ℤ → ℤ → ℕ) (actionHorizon maxGapNs horizonNs : ℤ)
        (transitions : List (TransitionRow K)) (alignment : Alignment K),
        alignChunk searchsorted actionHorizon maxGapNs horizonNs observations transitions chunk =
            .ok (.inr alignment) →
          alignment.chunk = chunk ∧ alignment.observation = joined) ∧
      (NotLater chunk joined ↔ LaterRowsBeaten observations chunk) := by
  obtain ⟨row, hrow, htimestep, hvalid, -⟩ := hbefore
  have hcandidate : row ∈ candidateRows observations chunk := by
    simp [candidateRows, rowsByObservationTimestep, hrow, htimestep, hvalid]
  cases hjoined : joinedObservation observations chunk with
  | none =>
    rw [joinedObservation_eq, List.argmin_eq_none] at hjoined
    simp [hjoined] at hcandidate
  | some joined =>
    obtain ⟨i, hmin⟩ := exists_leftmostMinimum (joinedObservation_eq.symm.trans hjoined)
    refine ⟨joined, rfl, ?_, hmin.prop_iff (NotLater chunk)⟩
    intro searchsorted actionHorizon maxGapNs horizonNs transitions alignment halign
    obtain ⟨hchunk, hobservation⟩ := observation_of_alignChunk halign
    exact ⟨hchunk, Option.some.inj (hobservation.symm.trans hjoined)⟩

def resentRow (timestampNs : ℤ) : PolicyObservationRow ℚ := ⟨0, timestampNs, [], ⟨0, 0, 0, 0⟩⟩

/-- A chunk of timestep 0 that arrived after 1.6 seconds. -/
def lateChunk : ChunkRow ℚ := ⟨0, 0, 1600000000, []⟩

/-- Observations resent twice a second; the last is made after the chunk arrived. -/
def resentRows : List (PolicyObservationRow ℚ) :=
  [resentRow 0, resentRow 550000000, resentRow 1100000000, resentRow 1650000000]

theorem lateChunk_joined : ∃ joined,
    joinedObservation (resentRows.take 3) lateChunk = some joined ∧ NotLater lateChunk joined := by
  obtain ⟨joined, hjoined, -, hiff⟩ := joined_not_later_iff (resentRows.take 3) lateChunk
    ⟨resentRow 0, List.mem_cons_self, rfl, rfl, by decide⟩
  have hbefore : ∀ row ∈ candidateRows (resentRows.take 3) lateChunk, NotLater lateChunk row := by
    decide
  refine ⟨joined, hjoined, hiff.mpr fun j later hlater hnot => ?_⟩
  exact absurd (hbefore later (List.mem_of_getElem? hlater)) hnot

/-- The chunk is joined to the row made after it. -/
theorem lateChunk_joined_later :
    ¬∀ (observations : List (PolicyObservationRow ℚ)) (chunk : ChunkRow ℚ),
      (∃ row ∈ observations, row.observationTimestep = chunk.observationTimestep ∧
        validCameraPair row.frames = true ∧ NotLater chunk row) →
      ∀ joined, joinedObservation observations chunk = some joined → NotLater chunk joined := by
  intro hclaim
  have hjoined : joinedObservation resentRows lateChunk = some (resentRow 1650000000) := by
    rfl
  have hlater := hclaim resentRows lateChunk
    ⟨resentRow 0, List.mem_cons_self, rfl, rfl, by decide⟩ _ hjoined
  revert hlater
  decide

end SmolVlaQgf.JoinedObservations
