import SmolVlaQgf.TerminalLabels

/-!
# The span of an action chunk

With one transition per policy period, the row nearest to the end of a chunk of `H` actions is
`H` rows after its start. The span includes that row, so it has `H + 1` transitions, and the next
state of the sample is the one recorded `H + 1` samples after the start.
-/

namespace SmolVlaQgf.ChunkHorizon
open ExactFloats EpisodeRecorder TransitionTable AlignedSamples TerminalLabels NearestEntries
  PeriodicRepresentatives

/-! ## Nearest timestamps -/

section Nearest

variable {searchsorted : List ℤ → ℤ → ℕ} {timestamps : List ℤ}

theorem nearestIndex_of_entry (hsearch : SearchesLeft Int64Value searchsorted)
    (hsorted : timestamps.Pairwise (· < ·)) {i : ℕ} {timestamp : ℤ}
    (hi : timestamps[i]? = some timestamp) {index : ℕ} {gap : ℤ}
    (h : nearestIndex searchsorted timestamps timestamp = .ok (index, gap)) : index = i := by
  obtain ⟨hlength, hvalue⟩ := List.getElem?_eq_some_iff.mp hi
  rw [nearestIndex] at h
  split at h
  · rename_i hint64
    simp only [hsearch.eq_of_getElem? hsorted (List.all_eq_true.mp hint64) hi] at h
    split at h
    · cases h
    · rename_i nearest hnearest
      obtain ⟨rfl, -⟩ := Prod.mk.inj (Except.ok.inj h)
      obtain ⟨hmem, hmin, -⟩ := List.argmin_eq_some_iff.mp hnearest
      have hgap := hmin i (mem_candidates.mpr ⟨Or.inl rfl, hlength⟩)
      obtain ⟨-, hlt⟩ := mem_candidates.mp hmem
      simp only [List.getD_eq_getElem?_getD, hi, List.getElem?_eq_getElem hlt, Option.getD_some,
        sub_self, Int.natAbs_zero, Nat.le_zero, Int.natAbs_eq_zero, sub_eq_zero, ← hvalue] at hgap
      have hnodup : timestamps.Nodup := hsorted.imp ne_of_lt
      exact hnodup.getElem_inj_iff.mp hgap
  · cases h

end Nearest

/-! ## The horizon in nanoseconds -/

section Horizon

variable {K : Type} [Field K] [LinearOrder K] [FloorRing K]

/-- The horizon of `H` actions at a rate with a whole period is `H` periods. -/
theorem horizon_eq [IsStrictOrderedRing K] {config : AlignmentConfig K} {maxGapNs horizonNs : ℤ}
    {rate : K} {horizon period : ℕ} (h : config.InNanoseconds maxGapNs horizonNs)
    (hhorizon : config.actionHorizon = horizon) (hrate : config.policyHz = .finite rate)
    (hperiod : ((1000000000 : ℕ) : K) / rate = period) : horizonNs = horizon * period := by
  obtain ⟨seconds, hseconds, hrounded⟩ := h.horizon
  rw [hhorizon, hrate, divide] at hseconds
  split at hseconds
  · cases hseconds
  · obtain rfl := Except.ok.inj hseconds
    have hvalue : ((horizon : ℤ) : K) / rate * ((1000000000 : ℕ) : K) =
        ((horizon * period : ℤ) : K) := by
      rw [div_mul_eq_mul_div, mul_div_assoc, hperiod]
      push_cast
      rfl
    rw [toNanoseconds, hvalue, rounded, roundHalfEven_intCast] at hrounded
    exact (Except.ok.inj hrounded).symm

end Horizon

/-! ## Evenly timed episodes -/

section Episodes

variable {K : Type} [Zero K] [One K]

/-- The transitions of an episode, numbered from 0 to `last` and one period apart. -/
structure EvenlyTimed (samples : List (SampleRow K)) (success : Bool) (task : String)
    (transitions : List (TransitionRow K)) (startNs : ℤ) (period last : ℕ) : Prop where
  built : buildTransitions samples success task = some transitions
  length : transitions.length = last + 1
  timestamp : ∀ (i : ℕ) row, transitions[i]? = some row → row.timestampNs = startNs + i * period

variable {samples : List (SampleRow K)} {success : Bool} {task : String}
  {transitions : List (TransitionRow K)} {startNs : ℤ} {period last : ℕ}

private theorem evenlyTimed_of_samples
    (h : buildTransitions samples success task = some transitions)
    (hlength : samples.length = last + 2)
    (htimestamp : ∀ (i : ℕ) row, samples[i]? = some row →
      row.timestampNs = startNs + i * period) :
    EvenlyTimed samples success task transitions startNs period last := by
  refine ⟨h, ?_, fun i row hrow => ?_⟩
  · rw [length_buildTransitions h, hlength]
    omega
  · obtain ⟨current, following, hcurrent, -, rfl⟩ := getElem?_buildTransitions h hrow
    exact htimestamp i current hcurrent

theorem EvenlyTimed.getElem?_timestamps
    (h : EvenlyTimed samples success task transitions startNs period last) {i : ℕ}
    (hi : i ≤ last) : (transitions.map (·.timestampNs))[i]? = some (startNs + i * period) := by
  have hlt : i < transitions.length := by
    rw [h.length]
    omega
  rw [List.getElem?_map, List.getElem?_eq_getElem hlt, Option.map_some]
  exact congrArg some (h.timestamp i _ (List.getElem?_eq_getElem hlt))

theorem EvenlyTimed.ascending
    (h : EvenlyTimed samples success task transitions startNs period last) (hperiod : 0 < period) :
    (transitions.map (·.timestampNs)).Pairwise (· < ·) := by
  rw [List.pairwise_iff_getElem]
  intro i j hi hj hij
  rw [List.length_map, h.length] at hi hj
  have hget (k : ℕ) (hk : k < (transitions.map (·.timestampNs)).length) (hle : k ≤ last) :
      (transitions.map (·.timestampNs))[k] = startNs + k * period :=
    (List.getElem?_eq_some_iff.mp (h.getElem?_timestamps hle)).2
  rw [hget i _ (by omega), hget j _ (by omega)]
  have hlt : (i : ℤ) * period < j * period :=
    mul_lt_mul_of_pos_right (by exact_mod_cast hij) (by exact_mod_cast hperiod)
  omega

/-- The span of a window that ends at a row of the episode ends there. -/
theorem EvenlyTimed.spanEnd_eq
    (h : EvenlyTimed samples success task transitions startNs period last) (hperiod : 0 < period)
    {i : ℕ} (hi : i ≤ last) :
    spanEnd (transitions.map (·.timestampNs)) (startNs + i * period) i = i := by
  have hlast : (transitions.map (·.timestampNs)).getLast? = some (startNs + last * period) := by
    rw [List.getLast?_eq_getElem?, List.length_map, h.length, Nat.add_sub_cancel]
    exact h.getElem?_timestamps le_rfl
  rw [spanEnd, hlast, Option.any_some, List.length_map, h.length]
  split_ifs with hreached
  · have hle : (last : ℤ) * period ≤ i * period := by
      have := of_decide_eq_true hreached
      omega
    have := le_of_mul_le_mul_right hle (by exact_mod_cast hperiod)
    omega
  · rfl

/-- Only the last transition is done, so a span is never cut before its end. -/
theorem cutIndex_eq (h : buildTransitions samples success task = some transitions)
    {startIndex endIndex : ℕ} (hend : endIndex < transitions.length) :
    cutIndex transitions startIndex endIndex = endIndex := by
  rw [cutIndex]
  split
  · rename_i offset hoffset
    obtain ⟨hlt, hdone, -⟩ := List.findIdx?_eq_some_iff_getElem.mp hoffset
    have hspan : transitions[startIndex + offset]? =
        some ((spanOf transitions startIndex endIndex)[offset]) := by
      have hshort : startIndex + offset < endIndex + 1 := by
        rw [spanOf, List.length_drop, List.length_take] at hlt
        omega
      rw [← List.getElem?_eq_getElem hlt, spanOf, List.getElem?_drop,
        List.getElem?_take_of_lt hshort]
    have hlabels := (labelled_of_buildTransitions h hspan).done
    rw [hdone, eq_comm, decide_eq_true_eq] at hlabels
    rw [spanOf, List.length_drop, List.length_take] at hlt
    omega
  · rfl

/-- The window of a chunk joined to an observation at row `start` ends `horizon` rows later. -/
theorem EvenlyTimed.window
    (h : EvenlyTimed samples success task transitions startNs period last) (hperiod : 0 < period)
    {searchsorted : List ℤ → ℤ → ℕ} (hsearch : SearchesLeft Int64Value searchsorted)
    {actionHorizon maxGapNs : ℤ} {start horizon : ℕ} (hreach : start + horizon ≤ last)
    {observations : List (PolicyObservationRow K)} {chunk : ChunkRow K} {alignment : Alignment K}
    (haligned : AlignedBy searchsorted actionHorizon maxGapNs (horizon * period) observations
      transitions chunk alignment)
    (hstart : alignment.observation.timestampNs = startNs + start * period) :
    alignment.startIndex = start ∧ alignment.endIndex = start + horizon := by
  have hascending := h.ascending hperiod
  have hfirst := haligned.start
  rw [hstart] at hfirst
  have hstartIndex := nearestIndex_of_entry hsearch hascending
    (h.getElem?_timestamps (by omega)) hfirst
  obtain ⟨nearest, gap, hnearest, -, hend⟩ := haligned.finish
  have htarget : alignment.observation.timestampNs + horizon * period =
      startNs + (start + horizon : ℕ) * period := by
    rw [hstart]
    push_cast
    ring
  rw [htarget] at hnearest hend
  obtain rfl := nearestIndex_of_entry hsearch hascending (h.getElem?_timestamps hreach) hnearest
  rw [h.spanEnd_eq hperiod hreach, cutIndex_eq h.built (by rw [h.length]; omega)] at hend
  exact ⟨hstartIndex, hend⟩

end Episodes

/-! ## What a sample aggregates -/

section Aggregates

variable {K : Type} [AddZeroClass K] [One K]

/-- The labels of a sample are collected over the `horizon` transitions from `start` on, none of
which is done, and its next state was recorded `horizon` samples after `start`. -/
structure SpansHorizon (samples : List (SampleRow K)) (transitions : List (TransitionRow K))
    (start horizon : ℕ) (sample : AlignedSample K) : Prop where
  reward : sample.reward =
    (((transitions.drop start).take horizon).map (·.reward)).foldl addFloats (.finite 0)
  success : sample.success = ((transitions.drop start).take horizon).any (·.success)
  done : sample.done = ((transitions.drop start).take horizon).any (·.done)
  not_done : sample.done = false
  next_state : samples[start + horizon]?.map (·.state) = some sample.nextState

variable {samples : List (SampleRow K)} {success : Bool} {task : String}
  {transitions : List (TransitionRow K)} {label : EpisodeLabel} {alignment : Alignment K}
  {sample : AlignedSample K}

/-- The next state of a sample was recorded after the last row of its span. -/
theorem nextState_of_alignedSample (h : buildTransitions samples success task = some transitions)
    (hsample : alignedSample label transitions alignment = .ok sample) :
    samples[alignment.endIndex + 1]?.map (·.state) = some sample.nextState := by
  obtain ⟨-, following, -, hfollowing, hnext, -⟩ := next_of_alignedSample h hsample
  rw [hfollowing, hnext, Option.map_some]

/-- The labels collected over the `horizon` transitions from `start` on, when these end before
the last transition. -/
theorem horizon_labelled (h : buildTransitions samples success task = some transitions)
    {start horizon : ℕ} (hhorizon : 1 ≤ horizon) (hreach : start + horizon < transitions.length) :
    (((transitions.drop start).take horizon).map (·.reward)).foldl addFloats (.finite 0) =
        .ofBool false ∧
      ((transitions.drop start).take horizon).any (·.success) = false ∧
      ((transitions.drop start).take horizon).any (·.done) = false := by
  have hspan : spanOf transitions start (start + horizon - 1) =
      (transitions.drop start).take horizon := by
    rw [spanOf, List.drop_take, Nat.sub_add_cancel (by omega), Nat.add_sub_cancel_left]
  have hget := List.getElem?_eq_getElem (l := transitions) (i := start + horizon - 1) (by omega)
  have horder : start ≤ start + horizon - 1 := by omega
  have hlabels := sampleLabelled_of_span h horder hget ⟨0, [], "", ""⟩
    ⟨⟨0, 0, 0, []⟩, ⟨0, 0, [], ⟨0, 0, 0, 0⟩⟩, 0, 0, 0⟩
  rw [hspan, decide_eq_false (by omega)] at hlabels
  have hreward := hlabels.reward
  have hsuccess := hlabels.success
  rw [Bool.and_false] at hreward hsuccess
  exact ⟨hreward, hsuccess, hlabels.done⟩

/-- A sample whose span has one transition more than the horizon is one over the horizon if the
additional transition changes nothing: it is not the last one, and the state did not change over
it. -/
theorem spansHorizon_iff (h : buildTransitions samples success task = some transitions)
    (hsample : alignedSample label transitions alignment = .ok sample)
    {start horizon last : ℕ} (hlength : transitions.length = last + 1) (hhorizon : 1 ≤ horizon)
    (hreach : start + horizon ≤ last)
    (hstart : alignment.startIndex = start) (hend : alignment.endIndex = start + horizon) :
    SpansHorizon samples transitions start horizon sample ↔
      start + horizon < last ∧
        samples[start + horizon]?.map (·.state) = samples[start + horizon + 1]?.map (·.state) := by
  have hnext := nextState_of_alignedSample h hsample
  rw [hend] at hnext
  have hlast : start + horizon < transitions.length := by omega
  obtain ⟨hreward, hsuccess, hdone⟩ := horizon_labelled h hhorizon hlast
  obtain ⟨endRow, hendRow, rfl⟩ := alignedSample_eq_ok hsample
  have horder : alignment.startIndex ≤ alignment.endIndex := by omega
  have hlabels := sampleLabelled_of_span h horder hendRow label alignment
  have hterminal : (decide (alignment.endIndex + 1 = transitions.length)) =
      decide (start + horizon = last) := by
    rw [hend, hlength]
    exact decide_eq_decide.mpr (by omega)
  rw [hterminal] at hlabels
  constructor
  · intro hspans
    refine ⟨?_, hspans.next_state.trans hnext.symm⟩
    have hnot := hlabels.done.symm.trans hspans.not_done
    rw [decide_eq_false_iff_not] at hnot
    omega
  · rintro ⟨hlt, hstate⟩
    rw [decide_eq_false (by omega)] at hlabels
    refine ⟨?_, ?_, hlabels.done.trans hdone.symm, hlabels.done, hstate.trans hnext⟩
    · rw [hreward, hlabels.reward, Bool.and_false]
    · rw [hsuccess, hlabels.success, Bool.and_false]

end Aggregates

section Samples

variable {K : Type} [Field K] [LinearOrder K] [FloorRing K] [IsStrictOrderedRing K]

/-- The sample of a chunk of `H` actions joined to an observation at row `s` is made of the
`H + 1` transitions from `s` to `s + H`. It has the labels and the next state of the `H`
transitions from `s` on exactly when the last of the `H + 1` is not the end of the episode and the
state did not change over it. -/
theorem horizon_spans_iff {searchsorted : List ℤ → ℤ → ℕ}
    (hsearch : SearchesLeft Int64Value searchsorted)
    (config : AlignmentConfig K) (rate : K) (horizon period : ℕ) (hhorizon : 1 ≤ horizon)
    (hperiod : 0 < period) (hactions : config.actionHorizon = horizon)
    (hrate : config.policyHz = .finite rate)
    (hwhole : ((1000000000 : ℕ) : K) / rate = period)
    (label : EpisodeLabel) (samples : List (SampleRow K)) (success : Bool) (task : String)
    (transitions : List (TransitionRow K)) (startNs : ℤ) (last : ℕ)
    (hepisode : EvenlyTimed samples success task transitions startNs period last)
    (chunks : List (ChunkRow K)) (observations : List (PolicyObservationRow K))
    (loaded : Loaded K)
    (hload : loadEpisodeSamples searchsorted config label chunks observations transitions =
      .ok loaded) (sample : AlignedSample K) (hsample : sample ∈ loaded.samples) :
    ∃ maxGapNs chunk alignment, chunk ∈ chunks ∧
      alignChunk searchsorted horizon maxGapNs (horizon * period) observations transitions chunk =
        .ok (.inr alignment) ∧
      alignedSample label transitions alignment = .ok sample ∧
      ∀ start : ℕ, start + horizon ≤ last →
        alignment.observation.timestampNs = startNs + start * period →
        (alignment.startIndex = start ∧ alignment.endIndex = start + horizon) ∧
          (SpansHorizon samples transitions start horizon sample ↔
            start + horizon < last ∧ samples[start + horizon]?.map (·.state) =
              samples[start + horizon + 1]?.map (·.state)) := by
  obtain ⟨maxGapNs, horizonNs, hconfig, hchunks⟩ := loadEpisodeSamples_eq_ok hload
  rw [horizon_eq hconfig hactions hrate hwhole, hactions] at hchunks
  have hfrom := (comesFrom_of_alignChunks hchunks hsample).resolve_left List.not_mem_nil
  obtain ⟨chunk, alignment, hmem, halign, haligned⟩ := hfrom
  refine ⟨maxGapNs, chunk, alignment, hmem, halign, haligned, fun start hreach hstart => ?_⟩
  have hwindow :=
    hepisode.window hperiod hsearch hreach (alignedBy_of_alignChunk halign) hstart
  exact ⟨hwindow, spansHorizon_iff hepisode.built haligned hepisode.length hhorizon hreach
    hwindow.1 hwindow.2⟩

end Samples

/-! ## Two episodes -/

/-- Chunks of one action at 20 Hz. -/
def twentyHertz : AlignmentConfig ℚ := ⟨1, .finite 20, .finite (1 / 10)⟩

/-- Four samples, one period apart, with the given states. -/
def evenSamples (state : ℕ → List (PyFloat ℚ)) : List (SampleRow ℚ) :=
  (List.range 4).map fun i : ℕ => { restingSample (i * 50000000) with state := state i }

def firstObservation : PolicyObservationRow ℚ := ⟨0, 0, atRest, ⟨0, 1, 0, 1⟩⟩

/-- The load of one chunk joined to the first sample of an episode. -/
def loadFirst (transitions : List (TransitionRow ℚ)) : Except AlignError (Loaded ℚ) :=
  loadEpisodeSamples sortedSearch twentyHertz ⟨0, [], "success", ""⟩ [restingChunk]
    [firstObservation] transitions

private theorem evenlyTimed_evenSamples {state : ℕ → List (PyFloat ℚ)}
    {transitions : List (TransitionRow ℚ)}
    (h : buildTransitions (evenSamples state) true "" = some transitions) :
    EvenlyTimed (evenSamples state) true "" transitions 0 50000000 2 := by
  refine evenlyTimed_of_samples h (by simp [evenSamples]) fun i row hrow => ?_
  rw [evenSamples, List.getElem?_map, Option.map_eq_some_iff] at hrow
  obtain ⟨j, hj, rfl⟩ := hrow
  obtain ⟨-, rfl⟩ := List.getElem?_eq_some_iff.mp hj
  simp [restingSample]

theorem alignment_of_loadFirst {maxGapNs horizonNs : ℤ} {transitions : List (TransitionRow ℚ)}
    {alignment : Alignment ℚ}
    (h : alignChunk sortedSearch 1 maxGapNs horizonNs [firstObservation] transitions restingChunk =
      .ok (.inr alignment)) : alignment.observation.timestampNs = 0 + (0 : ℕ) * (50000000 : ℕ) := by
  have hobservation := (alignedBy_of_alignChunk h).observation
  have hfirst : chooseObservation (rowsByObservationTimestep [firstObservation]
      restingChunk.observationTimestep) restingChunk.timestampNs = some firstObservation := rfl
  rw [hfirst, Option.some.injEq] at hobservation
  rw [← hobservation]
  rfl

/-- A sample of the load with a property that is found by evaluation. -/
theorem exists_loaded_sample (state : ℕ → List (PyFloat ℚ)) (p : AlignedSample ℚ → Bool)
    (h : ((buildTransitions (evenSamples state) true "").any fun transitions =>
      (loadFirst transitions).toOption.any fun loaded => loaded.samples.any p) = true) :
    ∃ transitions loaded sample, buildTransitions (evenSamples state) true "" = some transitions ∧
      loadFirst transitions = .ok loaded ∧ sample ∈ loaded.samples ∧ p sample = true := by
  obtain ⟨transitions, htransitions, hload⟩ := (Option.any_eq_true _ _).mp h
  obtain ⟨loaded, hloaded, hany⟩ := (Option.any_eq_true _ _).mp hload
  obtain ⟨sample, hsample, hp⟩ := List.any_eq_true.mp hany
  refine ⟨transitions, loaded, sample, htransitions, ?_, hsample, hp⟩
  cases hresult : loadFirst transitions with
  | error error => simp [hresult, Except.toOption] at hloaded
  | ok result => simpa [hresult, Except.toOption] using hloaded

/-- The sample of the chunk in an episode whose arm does not move. -/
theorem resting_spans : ∃ transitions loaded sample, loadFirst transitions = .ok loaded ∧
    sample ∈ loaded.samples ∧
      SpansHorizon (evenSamples fun _ => atRest) transitions 0 1 sample := by
  obtain ⟨transitions, loaded, sample, htransitions, hload, hsample, -⟩ :=
    exists_loaded_sample (fun _ => atRest) (fun _ => true) (by decide +kernel)
  obtain ⟨maxGapNs, chunk, alignment, hchunk, halign, -, hspan⟩ :=
    horizon_spans_iff searchesLeft_sortedSearch twentyHertz 20 1 50000000 le_rfl (by omega) rfl rfl
      (by norm_num) _ _ _ _ transitions 0 2 (evenlyTimed_evenSamples htransitions) _ _ loaded
      hload sample hsample
  obtain rfl := List.mem_singleton.mp hchunk
  obtain ⟨-, hiff⟩ := hspan 0 (by omega) (alignment_of_loadFirst halign)
  exact ⟨transitions, loaded, sample, hload, hsample, hiff.mpr ⟨by omega, rfl⟩⟩

def numbered (i : ℕ) : List (PyFloat ℚ) := List.replicate 8 (.finite i)

def numberOf : List (PyFloat ℚ) → Option ℚ
  | .finite x :: _ => some x
  | _ => none

/-- A chunk of one action at the first sample gets the state of the third as its next state. -/
theorem numbered_next_state :
    ¬∀ (config : AlignmentConfig ℚ) (rate : ℚ) (horizon period : ℕ), 1 ≤ horizon → 0 < period →
      config.actionHorizon = horizon → config.policyHz = .finite rate →
      ((1000000000 : ℕ) : ℚ) / rate = period →
      ∀ (label : EpisodeLabel) (samples : List (SampleRow ℚ)) (success : Bool) (task : String)
        (transitions : List (TransitionRow ℚ)) (startNs : ℤ) (last : ℕ),
      EvenlyTimed samples success task transitions startNs period last →
      ∀ (chunks : List (ChunkRow ℚ)) (observations : List (PolicyObservationRow ℚ))
        (loaded : Loaded ℚ),
      loadEpisodeSamples sortedSearch config label chunks observations transitions = .ok loaded →
      ∀ sample ∈ loaded.samples, ∀ maxGapNs chunk alignment,
      alignChunk sortedSearch horizon maxGapNs (horizon * period) observations transitions chunk =
        .ok (.inr alignment) →
      alignedSample label transitions alignment = .ok sample →
      ∀ start : ℕ, start + horizon ≤ last →
        alignment.observation.timestampNs = startNs + start * period →
        SpansHorizon samples transitions start horizon sample := by
  intro hclaim
  obtain ⟨transitions, loaded, sample, htransitions, hload, hsample, hnext⟩ := exists_loaded_sample
    numbered (fun sample => decide (numberOf sample.nextState = some 2)) (by decide +kernel)
  obtain ⟨maxGapNs, horizonNs, hconfig, hchunks⟩ := loadEpisodeSamples_eq_ok hload
  have hhorizon : horizonNs = (1 : ℕ) * (50000000 : ℕ) :=
    horizon_eq hconfig rfl rfl (by norm_num)
  rw [hhorizon] at hchunks
  have hfrom := (comesFrom_of_alignChunks hchunks hsample).resolve_left List.not_mem_nil
  obtain ⟨chunk, alignment, hmem, halign, haligned⟩ := hfrom
  obtain rfl := List.mem_singleton.mp hmem
  have hspans := hclaim twentyHertz 20 1 50000000 le_rfl (by omega) rfl rfl (by norm_num) _ _ _ _
    transitions 0 2 (evenlyTimed_evenSamples htransitions) _ _ loaded hload sample hsample
    maxGapNs restingChunk alignment halign haligned 0 (by omega) (alignment_of_loadFirst halign)
  have hstate : some (numbered 1) = some sample.nextState := hspans.next_state
  rw [← Option.some.inj hstate] at hnext
  revert hnext
  decide +kernel

end SmolVlaQgf.ChunkHorizon
