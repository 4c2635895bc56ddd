import SmolVlaQgf.TerminalLabels

/-!
# The next observation of a sample

The alignment reads timestamps and terminal flags only, so a sample copies its observations from
fixed positions whatever was recorded there. The next state is copied from the sample after the
last row of the span, the next frames from that row itself, which holds the frames of the sample
before.
-/

namespace SmolVlaQgf.NextObservations
open ExactFloats EpisodeRecorder TransitionTable AlignedSamples TerminalLabels NearestEntries

variable {K : Type}

/-! ## Other observations at the same times -/

/-- What is recorded of the robot and the cameras with a sample. -/
structure Observed (K : Type) where
  state : List (PyFloat K)
  frames : FrameReference

def withObserved (observed : ℕ → Observed K) (samples : List (SampleRow K)) : List (SampleRow K) :=
  samples.mapIdx fun i sample =>
    { sample with
      state := (observed i).state
      frames := (observed i).frames }

@[simp] theorem length_withObserved (observed : ℕ → Observed K) (samples : List (SampleRow K)) :
    (withObserved observed samples).length = samples.length := List.length_mapIdx

private theorem getElem?_withObserved {observed : ℕ → Observed K} {samples : List (SampleRow K)}
    {i : ℕ}
    {sample : SampleRow K} (h : (withObserved observed samples)[i]? = some sample) :
    (∃ recorded, samples[i]? = some recorded ∧ sample.timestampNs = recorded.timestampNs) ∧
      sample.state = (observed i).state ∧ sample.frames = (observed i).frames := by
  rw [withObserved, List.getElem?_mapIdx, Option.map_eq_some_iff] at h
  obtain ⟨recorded, hrecorded, rfl⟩ := h
  exact ⟨⟨recorded, hrecorded, rfl⟩, rfl, rfl⟩

structure TimedAlike (transitions transitions' : List (TransitionRow K)) : Prop where
  timestamps : transitions'.map (·.timestampNs) = transitions.map (·.timestampNs)
  done : transitions'.map (·.done) = transitions.map (·.done)

theorem TimedAlike.length {transitions transitions' : List (TransitionRow K)}
    (h : TimedAlike transitions transitions') : transitions'.length = transitions.length := by
  have hlength := congrArg List.length h.timestamps
  rwa [List.length_map, List.length_map] at hlength

section Transitions

variable [Zero K] [One K] {observed : ℕ → Observed K} {samples : List (SampleRow K)}
  {success : Bool} {task : String} {transitions transitions' : List (TransitionRow K)}

private theorem timedAlike_withObserved
    (h : buildTransitions samples success task = some transitions)
    (h' : buildTransitions (withObserved observed samples) success task = some transitions') :
    TimedAlike transitions transitions' := by
  have hlength : transitions'.length = transitions.length := by
    rw [length_buildTransitions h, length_buildTransitions h', length_withObserved]
  have hrow (i : ℕ) (hi : i < transitions.length) (hi' : i < transitions'.length) :
      transitions'[i].timestampNs = transitions[i].timestampNs ∧
        transitions'[i].done = transitions[i].done := by
    obtain ⟨current, following, hcurrent, -, hrow⟩ :=
      getElem?_buildTransitions h (List.getElem?_eq_getElem hi)
    obtain ⟨current', following', hcurrent', -, hrow'⟩ :=
      getElem?_buildTransitions h' (List.getElem?_eq_getElem hi')
    obtain ⟨⟨recorded, hrecorded, htime⟩, -⟩ := getElem?_withObserved hcurrent'
    obtain rfl := Option.some.inj (hcurrent.symm.trans hrecorded)
    rw [hrow, hrow', hlength]
    exact ⟨htime, rfl⟩
  constructor
  · refine List.ext_getElem (by simp [hlength]) fun i hi hi' => ?_
    rw [List.getElem_map, List.getElem_map]
    exact (hrow i (by simpa using hi') (by simpa using hi)).1
  · refine List.ext_getElem (by simp [hlength]) fun i hi hi' => ?_
    rw [List.getElem_map, List.getElem_map]
    exact (hrow i (by simpa using hi') (by simpa using hi)).2

end Transitions

/-! ## The alignment does not read observations -/

private theorem cutIndex_congr {transitions transitions' : List (TransitionRow K)}
    (h : TimedAlike transitions transitions') (startIndex endIndex : ℕ) :
    cutIndex transitions' startIndex endIndex = cutIndex transitions startIndex endIndex := by
  have hspan (rows : List (TransitionRow K)) :
      (spanOf rows startIndex endIndex).findIdx? (·.done) =
        (((rows.map (·.done)).take (endIndex + 1)).drop startIndex).findIdx? id := by
    rw [spanOf, ← List.map_take, ← List.map_drop, List.findIdx?_map]
    rfl
  rw [cutIndex, cutIndex, hspan, hspan, h.done]

private theorem alignChunk_congr {transitions transitions' : List (TransitionRow K)}
    (h : TimedAlike transitions transitions') (searchsorted : List ℤ → ℤ → ℕ)
    (actionHorizon maxGapNs horizonNs : ℤ) (observations : List (PolicyObservationRow K)) :
    alignChunk searchsorted actionHorizon maxGapNs horizonNs observations transitions' =
      alignChunk searchsorted actionHorizon maxGapNs horizonNs observations transitions := by
  funext chunk
  simp only [alignChunk, h.timestamps, cutIndex_congr h]

/-! ## The samples of a load by position -/

section Loading

variable [Zero K] [Add K] {label : EpisodeLabel} {transitions transitions' : List (TransitionRow K)}
  {align : ChunkRow K → Except AlignError (Skip ⊕ Alignment K)}

def alignment? (align : ChunkRow K → Except AlignError (Skip ⊕ Alignment K)) (chunk : ChunkRow K) :
    Option (Alignment K) :=
  match align chunk with
  | .ok (.inr alignment) => some alignment
  | _ => none

/-- The samples of a load are made of the aligned chunks in order. -/
theorem samples_of_alignChunks {chunks : List (ChunkRow K)} {loaded final : Loaded K}
    (h : alignChunks align label transitions chunks loaded = .ok final) :
    ∃ added, final.samples = loaded.samples ++ added ∧
      List.Forall₂ (fun alignment sample => alignedSample label transitions alignment = .ok sample)
        (chunks.filterMap (alignment? align)) added := by
  induction chunks generalizing loaded with
  | nil =>
    obtain rfl := Except.ok.inj h
    exact ⟨[], by simp, .nil⟩
  | cons chunk chunks ih =>
    obtain ⟨skip, halign, hrest⟩ | ⟨alignment, sample, halign, haligned, hrest⟩ :=
      alignChunks_cases h
    · have hskip : alignment? align chunk = none := by simp [alignment?, halign]
      rw [List.filterMap_cons_none hskip]
      obtain ⟨added, hadded, hforall⟩ := ih hrest
      exact ⟨added, hadded, hforall⟩
    · have hsome : alignment? align chunk = some alignment := by simp [alignment?, halign]
      obtain ⟨added, hadded, hforall⟩ := ih hrest
      rw [List.filterMap_cons_some hsome]
      exact ⟨sample :: added, by simp [hadded], .cons haligned hforall⟩

/-- The loop succeeds for every table with as many transitions. -/
theorem alignChunks_succeeds (hlength : transitions'.length = transitions.length)
    {chunks : List (ChunkRow K)} {loaded final : Loaded K}
    (h : alignChunks align label transitions chunks loaded = .ok final) (loaded' : Loaded K) :
    ∃ final', alignChunks align label transitions' chunks loaded' = .ok final' := by
  induction chunks generalizing loaded loaded' with
  | nil => exact ⟨loaded', rfl⟩
  | cons chunk chunks ih =>
    obtain ⟨skip, halign, hrest⟩ | ⟨alignment, sample, halign, haligned, hrest⟩ :=
      alignChunks_cases h
    · rw [alignChunks, halign]
      exact ih hrest _
    · obtain ⟨endRow, hend, -⟩ := alignedSample_eq_ok haligned
      have hlt : alignment.endIndex < transitions'.length := by
        rw [hlength]
        exact (List.getElem?_eq_some_iff.mp hend).1
      rw [alignChunks, halign]
      simp only [alignedSample, List.getElem?_eq_getElem hlt]
      exact ih hrest _

end Loading

/-! ## Where the next observation comes from -/

structure LoadArguments (K : Type) where
  searchsorted : List ℤ → ℤ → ℕ
  config : AlignmentConfig K
  label : EpisodeLabel
  success : Bool
  task : String
  chunks : List (ChunkRow K)
  observations : List (PolicyObservationRow K)

section Sources

variable [Field K] [LinearOrder K] [FloorRing K]

/-- The sample a load of the episode of some recorded samples emits at a position. -/
def LoadArguments.emitted (arguments : LoadArguments K) (samples : List (SampleRow K))
    (position : ℕ) : Option (AlignedSample K) :=
  match buildTransitions samples arguments.success arguments.task with
  | none => none
  | some transitions =>
      match loadEpisodeSamples arguments.searchsorted arguments.config arguments.label
          arguments.chunks arguments.observations transitions with
      | .ok loaded => loaded.samples[position]?
      | .error _ => none

variable (arguments : LoadArguments K) (samples : List (SampleRow K)) (position k : ℕ)

/-- The next state is the state of recorded sample `k`, whatever was observed. -/
def NextStateFrom : Prop :=
  ∀ (observed : ℕ → Observed K) (sample : AlignedSample K),
    arguments.emitted (withObserved observed samples) position = some sample →
    sample.nextState = (observed k).state

/-- The next frame indices, if valid, are those of recorded sample `k`, whatever was observed. -/
def NextFramesFrom : Prop :=
  ∀ (observed : ℕ → Observed K) (sample : AlignedSample K),
    arguments.emitted (withObserved observed samples) position = some sample →
    sample.nextVisualValid = true →
    sample.nextChestFrameIndex = (observed k).frames.chestFrameIndex ∧
      sample.nextWristFrameIndex = (observed k).frames.wristFrameIndex

variable {arguments samples position k}

private theorem emitted_eq_some {sample : AlignedSample K}
    (h : arguments.emitted samples position = some sample) :
    ∃ transitions maxGapNs horizonNs loaded,
      buildTransitions samples arguments.success arguments.task = some transitions ∧
      arguments.config.InNanoseconds maxGapNs horizonNs ∧
      alignChunks (alignChunk arguments.searchsorted arguments.config.actionHorizon maxGapNs
        horizonNs arguments.observations transitions) arguments.label transitions arguments.chunks
        ⟨[], fun _ => 0⟩ = .ok loaded ∧ loaded.samples[position]? = some sample := by
  rw [LoadArguments.emitted] at h
  split at h
  · cases h
  · rename_i transitions htransitions
    split at h
    · rename_i loaded hload
      obtain ⟨maxGapNs, horizonNs, hconfig, hchunks⟩ := loadEpisodeSamples_eq_ok hload
      exact ⟨transitions, maxGapNs, horizonNs, loaded, htransitions, hconfig, hchunks, h⟩
    · cases h

/-- The alignment of an emitted sample does not depend on what was observed. -/
theorem exists_alignment {sample : AlignedSample K}
    (h : arguments.emitted samples position = some sample) :
    ∃ alignment : Alignment K, alignment.endIndex + 1 < samples.length ∧
      (∃ transitions, buildTransitions samples arguments.success arguments.task = some transitions ∧
        alignedSample arguments.label transitions alignment = .ok sample) ∧
      ∀ observed, ∃ transitions' sample',
        buildTransitions (withObserved observed samples) arguments.success arguments.task =
          some transitions' ∧
        arguments.emitted (withObserved observed samples) position = some sample' ∧
        alignedSample arguments.label transitions' alignment = .ok sample' := by
  obtain ⟨transitions, maxGapNs, horizonNs, loaded, htransitions, hconfig, hchunks, hget⟩ :=
    emitted_eq_some h
  obtain ⟨added, hadded, hforall⟩ := samples_of_alignChunks hchunks
  rw [List.nil_append] at hadded
  subst hadded
  obtain ⟨hlt, hvalue⟩ := List.getElem?_eq_some_iff.mp hget
  have hposition := hforall.length_eq ▸ hlt
  have haligned := hforall.get hposition hlt
  rw [List.get_eq_getElem, List.get_eq_getElem, hvalue] at haligned
  obtain ⟨-, following, -, hfollowing, -⟩ := next_of_alignedSample htransitions haligned
  have hlength := (List.getElem?_eq_some_iff.mp hfollowing).1
  refine ⟨_, hlength, ⟨transitions, htransitions, haligned⟩, fun observed => ?_⟩
  have hsamples : 2 ≤ (withObserved observed samples).length := by
    rw [length_withObserved]
    omega
  obtain ⟨transitions', htransitions'⟩ :=
    exists_transitions hsamples arguments.success arguments.task
  have halike := timedAlike_withObserved htransitions htransitions'
  -- the loop makes the same alignments of the other table
  obtain ⟨final, hfinal⟩ := alignChunks_succeeds halike.length hchunks ⟨[], fun _ => 0⟩
  obtain ⟨added, hadded, hforall'⟩ := samples_of_alignChunks hfinal
  rw [List.nil_append] at hadded
  subst hadded
  have hlt' := hforall'.length_eq ▸ hposition
  have hrows : transitions' ≠ [] := by
    rw [← List.length_pos_iff, length_buildTransitions htransitions']
    omega
  refine ⟨transitions', _, htransitions', ?_, hforall'.get hposition hlt'⟩
  rw [LoadArguments.emitted, htransitions']
  simp only [loadEpisodeSamples_eq hrows hconfig, alignChunk_congr halike, hfinal]
  exact List.getElem?_eq_getElem hlt'

/-- The next frames of an emitted sample are copied from the sample of the last row of its span,
the next state from the sample after it. -/
theorem exists_sources {sample : AlignedSample K}
    (h : arguments.emitted samples position = some sample) :
    ∃ last current following, samples[last]? = some current ∧
      samples[last + 1]? = some following ∧ sample.nextState = following.state ∧
      (sample.nextVisualValid = true →
        sample.nextChestFrameIndex = current.frames.chestFrameIndex ∧
          sample.nextWristFrameIndex = current.frames.wristFrameIndex) ∧
      NextStateFrom arguments samples position (last + 1) ∧
      NextFramesFrom arguments samples position last := by
  obtain ⟨alignment, -, ⟨transitions, htransitions, haligned⟩, hother⟩ := exists_alignment h
  obtain ⟨current, following, hcurrent, hfollowing, hstate, -, hframes⟩ :=
    next_of_alignedSample htransitions haligned
  have hnext (observed : ℕ → Observed K) (sample' : AlignedSample K)
      (hemitted : arguments.emitted (withObserved observed samples) position = some sample') :
      sample'.nextState = (observed (alignment.endIndex + 1)).state ∧
        (sample'.nextVisualValid = true →
          sample'.nextChestFrameIndex = (observed alignment.endIndex).frames.chestFrameIndex ∧
            sample'.nextWristFrameIndex =
              (observed alignment.endIndex).frames.wristFrameIndex) := by
    obtain ⟨transitions', sample'', htransitions', hemitted', haligned'⟩ := hother observed
    obtain rfl := Option.some.inj (hemitted.symm.trans hemitted')
    obtain ⟨current', following', hcurrent', hfollowing', hstate', -, hframes'⟩ :=
      next_of_alignedSample htransitions' haligned'
    obtain ⟨-, -, hobservedFrames⟩ := getElem?_withObserved hcurrent'
    obtain ⟨-, hobservedState, -⟩ := getElem?_withObserved hfollowing'
    rw [hobservedFrames] at hframes'
    exact ⟨hstate'.trans hobservedState, hframes'⟩
  refine ⟨alignment.endIndex, current, following, hcurrent, hfollowing, hstate, hframes, ?_, ?_⟩
  · exact fun observed sample' hemitted => (hnext observed sample' hemitted).1
  · exact fun observed sample' hemitted => (hnext observed sample' hemitted).2

def distinct (i : ℕ) : Observed K := ⟨List.replicate i .nan, ⟨i, 0, i, 0⟩⟩

theorem not_one_source {sample : AlignedSample K}
    (h : arguments.emitted samples position = some sample) :
    ¬∃ k, NextStateFrom arguments samples position k ∧
      NextFramesFrom arguments samples position k := by
  rintro ⟨k, hstate, hframes⟩
  obtain ⟨last, -, -, -, -, -, -, hstate', hframes'⟩ := exists_sources h
  obtain ⟨alignment, -, -, hother⟩ := exists_alignment h
  obtain ⟨transitions', sample', htransitions', hemitted, haligned⟩ := hother distinct
  have hvalid : sample'.nextVisualValid = true := by
    obtain ⟨current, following, hcurrent, -, -, hvalid, -⟩ :=
      next_of_alignedSample htransitions' haligned
    rw [hvalid, (getElem?_withObserved hcurrent).2.2]
    simp [validCameraPair, distinct]
  have hk : k = last + 1 := by
    have heq := (hstate _ _ hemitted).symm.trans (hstate' _ _ hemitted)
    simpa [distinct] using congrArg List.length heq
  have hk' : (k : ℤ) = last := by
    have heq := (hframes _ _ hemitted hvalid).1.symm.trans (hframes' _ _ hemitted hvalid).1
    exact heq
  omega

/-- The next frames of an emitted sample come from one recorded sample and its next state from
the one after it, and never do both come from the same. -/
theorem next_observation_sources (arguments : LoadArguments K) (samples : List (SampleRow K))
    (position : ℕ) (sample : AlignedSample K)
    (hemitted : arguments.emitted samples position = some sample)
    (hvalid : sample.nextVisualValid = true) :
    (∃ last current following, samples[last]? = some current ∧
      samples[last + 1]? = some following ∧ sample.nextState = following.state ∧
      (sample.nextChestFrameIndex = current.frames.chestFrameIndex ∧
        sample.nextWristFrameIndex = current.frames.wristFrameIndex) ∧
      NextStateFrom arguments samples position (last + 1) ∧
      NextFramesFrom arguments samples position last) ∧
    ¬∃ k, NextStateFrom arguments samples position k ∧
      NextFramesFrom arguments samples position k := by
  refine ⟨?_, not_one_source hemitted⟩
  obtain ⟨last, current, following, hcurrent, hfollowing, hstate, hframes, hsources⟩ :=
    exists_sources hemitted
  exact ⟨last, current, following, hcurrent, hfollowing, hstate, hframes hvalid, hsources⟩

end Sources

/-- Samples whose state and frames are their number, one period of 20 Hz apart. -/
def numberedSamples : List (SampleRow ℚ) :=
  (List.range 4).map fun i : ℕ =>
    { restingSample (i * 50000000) with
      state := List.replicate 8 (.finite i)
      frames := ⟨i, 0, i, 0⟩ }

/-- The load of one chunk of one action joined to the first sample. -/
def numberedArguments : LoadArguments ℚ where
  searchsorted := sortedSearch
  config := ⟨1, .finite 20, .finite (1 / 10)⟩
  label := ⟨0, [], "success", ""⟩
  success := true
  task := ""
  chunks := [restingChunk]
  observations := [⟨0, 0, atRest, ⟨0, 0, 0, 0⟩⟩]

private theorem numbered_emitted : ∃ sample,
    numberedArguments.emitted numberedSamples 0 = some sample ∧ sample.nextVisualValid = true :=
  (Option.any_eq_true _ _).mp (by decide +kernel)

/-- The chunk gets the state of the third sample with the frames of the second. -/
theorem numbered_sources : ∃ sample, numberedArguments.emitted numberedSamples 0 = some sample ∧
    ∃ last current following, numberedSamples[last]? = some current ∧
      numberedSamples[last + 1]? = some following ∧ sample.nextState = following.state ∧
      (sample.nextChestFrameIndex = current.frames.chestFrameIndex ∧
        sample.nextWristFrameIndex = current.frames.wristFrameIndex) := by
  obtain ⟨sample, hemitted, hvalid⟩ := numbered_emitted
  obtain ⟨⟨last, current, following, hcurrent, hfollowing, hstate, hframes, -⟩, -⟩ :=
    next_observation_sources numberedArguments numberedSamples 0 sample hemitted hvalid
  exact ⟨sample, hemitted, last, current, following, hcurrent, hfollowing, hstate, hframes⟩

/-- No recorded sample is the source of the next state and of the next frames of the chunk. -/
theorem numbered_not_one_source :
    ¬∀ (arguments : LoadArguments ℚ) (samples : List (SampleRow ℚ)) (position : ℕ)
        (sample : AlignedSample ℚ),
      arguments.emitted samples position = some sample → sample.nextVisualValid = true →
      ∃ k, NextStateFrom arguments samples position k ∧
        NextFramesFrom arguments samples position k := by
  intro hclaim
  obtain ⟨sample, hemitted, hvalid⟩ := numbered_emitted
  exact not_one_source hemitted (hclaim _ _ _ _ hemitted hvalid)

end SmolVlaQgf.NextObservations
