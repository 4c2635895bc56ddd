import SmolVlaQgf.AlignedSamples
import SmolVlaQgf.NearestEntries

/-!
# Terminal labels from the finalizer to the trainer

Only the last transition of an episode is labelled. A span of transitions therefore has the
labels of its last row, and the trainer, which derives two labels again, finds them as they
are.
-/

namespace SmolVlaQgf.TerminalLabels
open ExactFloats EpisodeRecorder TransitionTable AlignedSamples NearestEntries

/-! ## The trainer -/

/-- A row of the feature cache with features of type `V`. -/
structure FeatureRow (K V : Type) where
  state : List (PyFloat K)
  visualFeatures : V
  actionChunk : List (List (PyFloat K))
  nextState : List (PyFloat K)
  nextVisualFeatures : V
  reward : PyFloat K
  success : Bool
  done : Bool
  terminated : Bool
  truncated : Bool
  nextVisualValid : Bool

/-- The errors of `_load_episode`, and of joining no episodes. -/
inductive CacheError where
  | missingCache
  | stateShape
  | actionChunkShape
  | visualFeaturesShape
  | nothingToJoin

variable {K V : Type}

def featureRow (visualFeatures nextVisualFeatures : V) (sample : AlignedSample K) :
    FeatureRow K V where
  state := sample.state
  visualFeatures
  actionChunk := sample.actionChunkNormalized
  nextState := sample.nextState
  nextVisualFeatures
  reward := sample.reward
  success := sample.success
  done := sample.done
  terminated := sample.terminated
  truncated := sample.truncated
  nextVisualValid := sample.nextVisualValid

/-- `_load_episode`: the file is there and the shapes are the expected ones. -/
def loadEpisode (shape : V → List ℕ) (cache : Option (List (FeatureRow K V))) :
    Except CacheError (List (FeatureRow K V)) :=
  match cache with
  | none => .error .missingCache
  | some rows =>
      if rows.length < 1 ∨ rows.any (decide <| ·.state.length ≠ 8) then .error .stateShape
      else if rows.any fun row =>
          decide (row.actionChunk.length ≠ 50) || row.actionChunk.any (decide <| ·.length ≠ 8) then
        .error .actionChunkShape
      else if rows.any (decide <| shape ·.visualFeatures ≠ [128, 960]) then
        .error .visualFeaturesShape
      else .ok rows

/-- The labels that `_join_episodes` derives again. -/
def recompute [Zero K] [One K] [LinearOrder K] (row : FeatureRow K V) : FeatureRow K V :=
  { row with
    done := row.done || row.terminated || row.truncated || row.success
    reward := tensorMaximum row.reward (.ofBool row.success) }

def loadEpisodes (shape : V → List ℕ) (caches : ℤ → Option (List (FeatureRow K V))) :
    List ℤ → Except CacheError (List (FeatureRow K V))
  | [] => .ok []
  | index :: indices =>
      match loadEpisode shape (caches index), loadEpisodes shape caches indices with
      | .error error, _ => .error error
      | .ok _, .error error => .error error
      | .ok rows, .ok rest => .ok (rows ++ rest)

/-- `_join_episodes` -/
def joinEpisodes [Zero K] [One K] [LinearOrder K] (shape : V → List ℕ)
    (caches : ℤ → Option (List (FeatureRow K V))) (indices : List ℤ) :
    Except CacheError (List (FeatureRow K V)) :=
  if indices.isEmpty then .error .nothingToJoin
  else
    match loadEpisodes shape caches indices with
    | .error error => .error error
    | .ok rows => .ok (rows.map recompute)

/-! ## The labels of the transitions -/

section Transitions

variable [Zero K] [One K]

/-- The labels of a transition of an episode with an outcome. -/
structure Labelled (succeeded terminal : Bool) (row : TransitionRow K) : Prop where
  done : row.done = terminal
  success : row.success = (succeeded && terminal)
  terminated : row.terminated = (succeeded && terminal)
  truncated : row.truncated = (!succeeded && terminal)
  reward : row.reward = .ofBool (succeeded && terminal)

/-- The last transition is terminal and no other. -/
theorem labelled_of_buildTransitions {samples : List (SampleRow K)} {success : Bool}
    {task : String} {transitions : List (TransitionRow K)}
    (h : buildTransitions samples success task = some transitions) {index : ℕ}
    {row : TransitionRow K} (hrow : transitions[index]? = some row) :
    Labelled success (decide (index + 1 = transitions.length)) row := by
  obtain ⟨current, following, -, -, rfl⟩ := getElem?_buildTransitions h hrow
  exact ⟨rfl, rfl, rfl, rfl, rfl⟩

end Transitions

/-! ## The labels of a span -/

section Spans

variable {transitions : List (TransitionRow K)} {startIndex endIndex : ℕ} {endRow : TransitionRow K}

/-- A span is what lies before its last row, and that row. -/
theorem spanOf_eq (horder : startIndex ≤ endIndex)
    (hend : transitions[endIndex]? = some endRow) : spanOf transitions startIndex endIndex =
      (transitions.take endIndex).drop startIndex ++ [endRow] := by
  have hlength : endIndex < transitions.length := (List.getElem?_eq_some_iff.mp hend).1
  rw [spanOf, List.take_add_one, hend, Option.toList_some,
    List.drop_append_of_le_length (by rw [List.length_take]; omega)]

/-- A row of the span before its end has an earlier index. -/
theorem exists_index_of_mem {row : TransitionRow K}
    (h : row ∈ (transitions.take endIndex).drop startIndex) :
    ∃ index < endIndex, transitions[index]? = some row := by
  obtain ⟨index, hindex⟩ := List.getElem?_of_mem (List.mem_of_mem_drop h)
  rw [List.getElem?_take] at hindex
  split at hindex
  · exact ⟨index, ‹_›, hindex⟩
  · cases hindex

theorem any_append_singleton {α : Type} {flag : α → Bool} {before : List α}
    (h : ∀ x ∈ before, flag x = false) (last : α) : (before ++ [last]).any flag = flag last := by
  have hbefore : before.any flag = false := List.any_eq_false.mpr fun x hx => by simp [h x hx]
  rw [List.any_append, hbefore, List.any_cons, List.any_nil, Bool.or_false, Bool.false_or]

theorem foldl_addFloats_append_singleton [AddZeroClass K] {rewards : List (PyFloat K)}
    (h : ∀ reward ∈ rewards, reward = .finite 0) (last : K) :
    (rewards ++ [PyFloat.finite last]).foldl addFloats (.finite 0) = .finite last := by
  have hzero : ∀ x : K, addFloats (.finite 0) (.finite x) = .finite x := fun x =>
    congrArg PyFloat.finite (zero_add x)
  have hzeros : rewards.foldl addFloats (.finite 0) = .finite 0 := by
    induction rewards with
    | nil => rfl
    | cons reward rewards ih =>
      rw [List.foldl_cons, h reward List.mem_cons_self, hzero]
      exact ih fun r hr => h r (List.mem_cons_of_mem _ hr)
  rw [List.foldl_append, hzeros, List.foldl_cons, List.foldl_nil, hzero]

end Spans

section Samples

variable [AddZeroClass K] [One K] {samples : List (SampleRow K)} {success : Bool} {task : String}
  {transitions : List (TransitionRow K)} {startIndex endIndex : ℕ} {endRow : TransitionRow K}

/-- The labels of a sample whose span ends at a row. -/
structure SampleLabelled (succeeded terminal : Bool) (sample : AlignedSample K) : Prop where
  done : sample.done = terminal
  success : sample.success = (succeeded && terminal)
  terminated : sample.terminated = (succeeded && terminal)
  truncated : sample.truncated = (!succeeded && terminal)
  reward : sample.reward = .ofBool (succeeded && terminal)

/-- A sample has the labels of the last row of its span. -/
theorem sampleLabelled_of_span (h : buildTransitions samples success task = some transitions)
    (horder : startIndex ≤ endIndex) (hend : transitions[endIndex]? = some endRow)
    (label : EpisodeLabel) (alignment : Alignment K) :
    SampleLabelled success (decide (endIndex + 1 = transitions.length))
      (sampleOf label (spanOf transitions startIndex endIndex) endRow alignment) := by
  have hlength : endIndex < transitions.length := (List.getElem?_eq_some_iff.mp hend).1
  have hlast := labelled_of_buildTransitions h hend
  have hbefore : ∀ row ∈ (transitions.take endIndex).drop startIndex,
      Labelled success false row := by
    intro row hrow
    obtain ⟨index, hindex, hget⟩ := exists_index_of_mem hrow
    have hlabelled := labelled_of_buildTransitions h hget
    rwa [decide_eq_false (by omega)] at hlabelled
  rw [spanOf_eq horder hend]
  constructor
  · exact (any_append_singleton (fun row hrow => (hbefore row hrow).done) _).trans hlast.done
  · refine (any_append_singleton (fun row hrow => ?_) _).trans hlast.success
    rw [(hbefore row hrow).success, Bool.and_false]
  · refine (any_append_singleton (fun row hrow => ?_) _).trans hlast.terminated
    rw [(hbefore row hrow).terminated, Bool.and_false]
  · refine (any_append_singleton (fun row hrow => ?_) _).trans hlast.truncated
    rw [(hbefore row hrow).truncated, Bool.and_false]
  · dsimp only [sampleOf]
    rw [List.map_append, List.map_singleton, hlast.reward]
    have hzeros : ∀ reward ∈ ((transitions.take endIndex).drop startIndex).map (·.reward),
        reward = .finite 0 := ?_
    · exact foldl_addFloats_append_singleton hzeros _
    intro reward hreward
    obtain ⟨row, hrow, rfl⟩ := List.mem_map.mp hreward
    rw [(hbefore row hrow).reward, Bool.and_false]
    rfl

end Samples

/-! ## The samples of an episode -/

section Loading

variable {searchsorted : List ℤ → ℤ → ℕ} {actionHorizon maxGapNs horizonNs : ℤ}
  {observations : List (PolicyObservationRow K)} {transitions : List (TransitionRow K)}
  {chunk : ChunkRow K} {alignment : Alignment K}

private theorem le_cutIndex {startIndex endIndex : ℕ} (h : startIndex ≤ endIndex) :
    startIndex ≤ cutIndex transitions startIndex endIndex := by
  rw [cutIndex]
  split
  · exact Nat.le_add_right _ _
  · exact h

/-- The span of an aligned chunk does not end before it starts. -/
theorem startIndex_le_endIndex (h : alignChunk searchsorted actionHorizon maxGapNs horizonNs
    observations transitions chunk = .ok (.inr alignment)) :
    alignment.startIndex ≤ alignment.endIndex := by
  obtain ⟨nearest, gap, -, horder, hend⟩ := (alignedBy_of_alignChunk h).finish
  rw [hend]
  exact le_cutIndex horder

end Loading

section Loading

variable [Zero K] [Add K] {label : EpisodeLabel} {transitions : List (TransitionRow K)}
  {align : ChunkRow K → Except AlignError (Skip ⊕ Alignment K)}

def ComesFrom (align : ChunkRow K → Except AlignError (Skip ⊕ Alignment K)) (label : EpisodeLabel)
    (transitions : List (TransitionRow K)) (chunks : List (ChunkRow K))
    (sample : AlignedSample K) : Prop :=
  ∃ chunk alignment, chunk ∈ chunks ∧ align chunk = .ok (.inr alignment) ∧
    alignedSample label transitions alignment = .ok sample

theorem ComesFrom.cons {chunks : List (ChunkRow K)} {sample : AlignedSample K}
    (h : ComesFrom align label transitions chunks sample) (chunk : ChunkRow K) :
    ComesFrom align label transitions (chunk :: chunks) sample := by
  obtain ⟨chunk', alignment, hmem, halign, hsample⟩ := h
  exact ⟨chunk', alignment, List.mem_cons_of_mem chunk hmem, halign, hsample⟩

/-- The loop adds samples of its chunks to those it has. -/
theorem comesFrom_of_alignChunks {chunks : List (ChunkRow K)} {loaded loaded' : Loaded K}
    (h : alignChunks align label transitions chunks loaded = .ok loaded')
    {sample : AlignedSample K} (hsample : sample ∈ loaded'.samples) :
    sample ∈ loaded.samples ∨ ComesFrom align label transitions chunks sample := by
  induction chunks generalizing loaded with
  | nil =>
    obtain rfl := Except.ok.inj h
    exact Or.inl hsample
  | cons chunk chunks ih =>
    obtain ⟨skip, -, hrest⟩ | ⟨alignment, aligned, halign, haligned, hrest⟩ := alignChunks_cases h
    · exact (ih hrest).imp_right fun hfrom => hfrom.cons chunk
    · rcases ih hrest with hmem | hfrom
      · rcases List.mem_append.mp hmem with hold | hnew
        · exact Or.inl hold
        · obtain rfl := List.mem_singleton.mp hnew
          exact Or.inr ⟨chunk, alignment, List.mem_cons_self, halign, haligned⟩
      · exact Or.inr (hfrom.cons chunk)

theorem alignedSample_eq_ok {alignment : Alignment K} {sample : AlignedSample K}
    (h : alignedSample label transitions alignment = .ok sample) :
    ∃ endRow, transitions[alignment.endIndex]? = some endRow ∧
      sample = sampleOf label (spanOf transitions alignment.startIndex alignment.endIndex) endRow
        alignment := by
  rw [alignedSample] at h
  split at h
  · cases h
  · exact ⟨_, ‹_›, (Except.ok.inj h).symm⟩

end Loading

/-- The next state of a sample was recorded after the last row of its span, the next frames with
that row. -/
theorem next_of_alignedSample [Zero K] [Add K] [One K] {samples : List (SampleRow K)}
    {success : Bool} {task : String} {transitions : List (TransitionRow K)}
    (h : buildTransitions samples success task = some transitions) {label : EpisodeLabel}
    {alignment : Alignment K} {sample : AlignedSample K}
    (hsample : alignedSample label transitions alignment = .ok sample) :
    ∃ current following, samples[alignment.endIndex]? = some current ∧
      samples[alignment.endIndex + 1]? = some following ∧ sample.nextState = following.state ∧
      sample.nextVisualValid = validCameraPair current.frames ∧
      (sample.nextVisualValid = true →
        sample.nextChestFrameIndex = current.frames.chestFrameIndex ∧
          sample.nextWristFrameIndex = current.frames.wristFrameIndex) := by
  obtain ⟨endRow, hend, rfl⟩ := alignedSample_eq_ok hsample
  obtain ⟨current, following, hcurrent, hfollowing, rfl⟩ := getElem?_buildTransitions h hend
  refine ⟨current, following, hcurrent, hfollowing, rfl, rfl, fun hvalid => ?_⟩
  exact ⟨if_pos hvalid, if_pos hvalid⟩

section Trainer

variable [Field K] [LinearOrder K]

/-- The trainer finds the labels of a sample as they are. -/
theorem SampleLabelled.recompute_eq {sample : AlignedSample K} {succeeded terminal : Bool}
    (h : SampleLabelled succeeded terminal sample) (visualFeatures nextVisualFeatures : V) :
    recompute (featureRow visualFeatures nextVisualFeatures sample) =
      featureRow visualFeatures nextVisualFeatures sample := by
  have hdone : (sample.done || sample.terminated || sample.truncated || sample.success) =
      sample.done := by
    rw [h.done, h.success, h.terminated, h.truncated]
    cases succeeded <;> cases terminal <;> rfl
  have hreward : tensorMaximum sample.reward (.ofBool sample.success) = sample.reward := by
    rw [h.reward, h.success]
    exact congrArg PyFloat.finite (max_self _)
  simp only [recompute, featureRow, hdone, hreward]

theorem joinEpisodes_of_labelled {shape : V → List ℕ} {caches : ℤ → Option (List (FeatureRow K V))}
    {indices : List ℤ} {rows : List (FeatureRow K V)} (hindices : indices ≠ [])
    (hload : loadEpisodes shape caches indices = .ok rows)
    (hlabels : ∀ row ∈ rows, ∃ sample succeeded terminal visualFeatures nextVisualFeatures,
      SampleLabelled succeeded terminal sample ∧
        row = featureRow visualFeatures nextVisualFeatures sample) :
    joinEpisodes shape caches indices = .ok rows := by
  have hmap : rows.map recompute = rows := by
    conv_rhs => rw [← List.map_id rows]
    refine List.map_congr_left fun row hrow => ?_
    obtain ⟨sample, succeeded, terminal, features, nextFeatures, hlabelled, rfl⟩ := hlabels row hrow
    exact hlabelled.recompute_eq features nextFeatures
  simp [joinEpisodes, hindices, hload, hmap]

variable [FloorRing K]

omit [LinearOrder K] [FloorRing K] in
private theorem ofBool_eq_one_iff {flag : Bool} :
    (PyFloat.ofBool flag : PyFloat K) = .finite 1 ↔ flag = true := by
  rw [PyFloat.ofBool, PyFloat.finite.injEq]
  cases flag <;> simp

omit [LinearOrder K] [FloorRing K] in
/-- The sample of an aligned chunk has the labels of the end of its span. -/
theorem sampleLabelled_of_aligned {searchsorted : List ℤ → ℤ → ℕ}
    {actionHorizon maxGapNs horizonNs : ℤ} {label : EpisodeLabel} {samples : List (SampleRow K)}
    {success : Bool} {task : String} {transitions : List (TransitionRow K)}
    (htransitions : buildTransitions samples success task = some transitions)
    {observations : List (PolicyObservationRow K)} {chunk : ChunkRow K}
    {alignment : Alignment K}
    (halign : alignChunk searchsorted actionHorizon maxGapNs horizonNs observations transitions
      chunk = .ok (.inr alignment)) {sample : AlignedSample K}
    (hsample : alignedSample label transitions alignment = .ok sample) :
    SampleLabelled success (decide (alignment.endIndex + 1 = transitions.length)) sample := by
  have horder := startIndex_le_endIndex halign
  obtain ⟨endRow, hend, rfl⟩ := alignedSample_eq_ok hsample
  exact sampleLabelled_of_span htransitions horder hend label alignment

/-- The samples of an episode have the labels of its last transition if their span reaches it,
and the labels of no transition otherwise; the trainer derives the same labels again. -/
theorem terminal_labels_consistent (searchsorted : List ℤ → ℤ → ℕ) (config : AlignmentConfig K)
    (label : EpisodeLabel) (samples : List (SampleRow K)) (success : Bool) (task : String)
    (transitions : List (TransitionRow K))
    (htransitions : buildTransitions samples success task = some transitions)
    (chunks : List (ChunkRow K)) (observations : List (PolicyObservationRow K))
    (loaded : Loaded K)
    (hload : loadEpisodeSamples searchsorted config label chunks observations transitions =
      .ok loaded) (sample : AlignedSample K) (hsample : sample ∈ loaded.samples) :
    ∃ maxGapNs horizonNs chunk alignment, config.InNanoseconds maxGapNs horizonNs ∧
      chunk ∈ chunks ∧
      alignChunk searchsorted config.actionHorizon maxGapNs horizonNs observations transitions
        chunk = .ok (.inr alignment) ∧
      alignedSample label transitions alignment = .ok sample ∧
      (sample.done = true ↔ alignment.endIndex + 1 = transitions.length) ∧
      (sample.success = true ↔ sample.done = true ∧ success = true) ∧
      (sample.reward = .finite 1 ↔ sample.success = true) ∧
      (sample.success = false → sample.reward = .finite 0) ∧
      sample.terminated = sample.success ∧
      (sample.truncated = true ↔ sample.done = true ∧ success = false) ∧
      ∀ (V : Type) (visualFeatures nextVisualFeatures : V),
        recompute (featureRow visualFeatures nextVisualFeatures sample) =
          featureRow visualFeatures nextVisualFeatures sample := by
  obtain ⟨maxGapNs, horizonNs, hconfig, hchunks⟩ := loadEpisodeSamples_eq_ok hload
  have hfrom := (comesFrom_of_alignChunks hchunks hsample).resolve_left List.not_mem_nil
  obtain ⟨chunk, alignment, hmem, halign, haligned⟩ := hfrom
  have hlabels := sampleLabelled_of_aligned htransitions halign haligned
  refine ⟨maxGapNs, horizonNs, chunk, alignment, hconfig, hmem, halign, haligned, ?_, ?_, ?_, ?_,
    ?_, ?_, fun V => ?_⟩
  · rw [hlabels.done, decide_eq_true_eq]
  · rw [hlabels.success, hlabels.done, Bool.and_eq_true, and_comm]
  · rw [hlabels.reward, hlabels.success, ofBool_eq_one_iff]
  · intro hfailed
    rw [hlabels.success] at hfailed
    rw [hlabels.reward, hfailed]
    rfl
  · rw [hlabels.terminated, hlabels.success]
  · rw [hlabels.truncated, hlabels.done, Bool.and_eq_true, Bool.not_eq_true', and_comm]
  · exact hlabels.recompute_eq

end Trainer

/-! ## A concrete episode -/

def oneAction : AlignmentConfig ℚ := ⟨1, .finite 15, .finite (1 / 10)⟩

def atRest : List (PyFloat ℚ) := List.replicate 8 (.finite 0)

def restingSample (timestampNs : ℤ) : SampleRow ℚ where
  sampleIndex := 0
  timestampNs
  state := atRest
  stateTimestampNs := 0
  actionPolicy := atRest
  policyActionTimestep := 0
  actionPolicyTimestampNs := 0
  actionGuarded := atRest
  actionGuardedTimestampNs := 0
  actionExecuted := atRest
  actionExecutedTimestampNs := 0
  gripperContact := false
  frames := ⟨0, 1, 0, 1⟩

def restingChunk : ChunkRow ℚ := ⟨0, 0, 1, [atRest]⟩

/-- An episode of two transitions, the second of which the span of its chunk reaches. -/
theorem last_span_labelled :
    ∃ sample : AlignedSample ℚ, sample.done = true ∧
      (sample.success = true ↔ sample.done = true ∧ true = true) ∧
      (sample.reward = .finite 1 ↔ sample.success = true) ∧
      (sample.truncated = true ↔ sample.done = true ∧ true = false) := by
  have hsome : ((buildTransitions [restingSample 0, restingSample 50000000, restingSample 100000000]
      true "").any fun transitions =>
        match loadEpisodeSamples sortedSearch oneAction ⟨0, [], "success", ""⟩ [restingChunk]
          [⟨0, 1, atRest, ⟨0, 1, 0, 1⟩⟩] transitions with
        | .ok loaded => loaded.samples.any (·.done)
        | .error _ => false) = true := by decide +kernel
  obtain ⟨transitions, htransitions, hloaded⟩ := (Option.any_eq_true _ _).mp hsome
  split at hloaded
  · rename_i loaded hload
    obtain ⟨sample, hsample, hdone⟩ := List.any_eq_true.mp hloaded
    obtain ⟨-, -, -, -, -, -, -, -, -, hsuccess, hreward, -, -, htruncated, -⟩ :=
      terminal_labels_consistent sortedSearch oneAction _ _ _ _ transitions htransitions _ _ loaded
        hload sample hsample
    exact ⟨sample, hdone, hsuccess, hreward, htruncated⟩
  · cases hloaded

end SmolVlaQgf.TerminalLabels
