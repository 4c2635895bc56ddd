import SmolVlaQgf.ChunkColumns
import SmolVlaQgf.RetrievalLeak
import SmolVlaQgf.SuccessToGo

/-!
# Blended targets

A blended target is a weighted mean of the success-to-go target and of the clamped progress,
except that the weights are divided by at least `1e-6`. Weights with a smaller sum scale the
target down, and with two zero weights it is zero.
-/

namespace SmolVlaQgf.BlendedTargets
open ExactFloats Tensors CriticTargets CriticDataset ValidationIsolation FallibleTraversals
open ChunkColumns

variable {K : Type} [Field K] [LinearOrder K] {torch : TensorOps K} {config : DatasetConfig K}

/-! ## The ingredients of a target -/

def SuccessAt (config : DatasetConfig K) (episodes : List (Episode K)) (i start : ℕ) (value : K) :
    Prop :=
  ∃ episode returns, episodes[i]? = some episode ∧
    successToGoTargets config.gamma episode.success.flatten = .ok returns ∧
    returns[start]? = some value

/-- The progress at a step of an episode, as recorded or as retrieved. -/
inductive ProgressAt (torch : TensorOps K) (config : DatasetConfig K) (episodes : List (Episode K))
    (i start : ℕ) (value : K) : Prop where
  | recorded {episode : Episode K} {progress : Tensor (PyFloat K)}
      (hmode : config.targetMode = .progressBlend)
      (hepisode : episodes[i]? = some episode) (hprogress : episode.progress = some progress)
      (hvalue : progress.flatten[start]? = some (.finite value))
  | retrieved {retrieved : List (List K)} {values : List K}
      (hmode : config.targetMode = .retrievalProgressBlend)
      (hretrieved : retrievalProgressTargets torch config.obsKey config.gamma config.retrievalK
        episodes = .ok retrieved)
      (hvalues : retrieved[i]? = some values) (hvalue : values[start]? = some value)

def weightShare (config : DatasetConfig K) : K :=
  min 1 ((config.successWeight + config.progressWeight) / weightFloor)

/-- Where a target is a blend, it lies between the ingredients scaled by some share; an episode
without recorded progress keeps its success-to-go targets. -/
def BlendsBetween (share : K) (torch : TensorOps K) (config : DatasetConfig K)
    (episodes : List (Episode K)) (dataset : Dataset K) : Prop :=
  ∀ position < dataset.targets.length, ∃ i start success value,
    dataset.episodeIndices[position]? = some i ∧ dataset.frameIndices[position]? = some start ∧
    SuccessAt config episodes i start success ∧
    dataset.targets[position]? = some (.finite value) ∧
    ((∃ episode, episodes[i]? = some episode ∧ episode.progress = none ∧
        config.targetMode = .progressBlend ∧ value = success) ∨
      ∃ progress, ProgressAt torch config episodes i start progress ∧
        share * min success (clampUnit progress) ≤ value ∧
        value ≤ share * max success (clampUnit progress))

/-! ## One blend -/

section Blend

variable [IsStrictOrderedRing K]

private theorem clampUnit_mem (value : K) : 0 ≤ clampUnit value ∧ clampUnit value ≤ 1 :=
  ⟨le_min (le_max_right _ _) zero_le_one, min_le_right _ _⟩

omit [IsStrictOrderedRing K] in
private theorem clampUnit_of_mem {value : K} (h0 : 0 ≤ value) (h1 : value ≤ 1) :
    clampUnit value = value := by
  rw [clampUnit, max_eq_left h0, min_eq_left h1]

theorem weightShare_eq (config : DatasetConfig K) :
    weightShare config = (config.successWeight + config.progressWeight) /
      max (config.successWeight + config.progressWeight) weightFloor := by
  have hfloor : (0 : K) < weightFloor := RetrievalLeak.weightFloor_pos
  rcases le_total weightFloor (config.successWeight + config.progressWeight) with hle | hle
  · have hpos := lt_of_lt_of_le hfloor hle
    rw [weightShare, max_eq_left hle, div_self hpos.ne', min_eq_left]
    rwa [one_le_div hfloor]
  · rw [weightShare, max_eq_right hle, min_eq_right]
    rwa [div_le_one hfloor]

private theorem weightShare_mem (h0 : 0 ≤ config.successWeight) (h1 : 0 ≤ config.progressWeight) :
    0 ≤ weightShare config ∧ weightShare config ≤ 1 := by
  have hfloor : (0 : K) < weightFloor := RetrievalLeak.weightFloor_pos
  exact ⟨le_min zero_le_one (div_nonneg (add_nonneg h0 h1) hfloor.le), min_le_left _ _⟩

/-- A weighted sum over a divisor lies between its terms, scaled by the share of the weights. -/
theorem weighted_between {weight weight' total : K} (h0 : 0 ≤ weight) (h1 : 0 ≤ weight')
    (htotal : 0 ≤ total) (x y : K) :
    (weight + weight') / total * min x y ≤ (weight * x + weight' * y) / total ∧
      (weight * x + weight' * y) / total ≤ (weight + weight') / total * max x y := by
  rw [div_mul_eq_mul_div, div_mul_eq_mul_div, add_mul, add_mul]
  constructor
  · refine div_le_div_of_nonneg_right ?_ htotal
    exact add_le_add (mul_le_mul_of_nonneg_left (min_le_left _ _) h0)
      (mul_le_mul_of_nonneg_left (min_le_right _ _) h1)
  · refine div_le_div_of_nonneg_right ?_ htotal
    exact add_le_add (mul_le_mul_of_nonneg_left (le_max_left _ _) h0)
      (mul_le_mul_of_nonneg_left (le_max_right _ _) h1)

/-- A blend lies between its ingredients, scaled by the share of the weights. -/
theorem blend_between (h0 : 0 ≤ config.successWeight) (h1 : 0 ≤ config.progressWeight)
    {success progress : K} (hsuccess : 0 ≤ success ∧ success ≤ 1) :
    ∃ value, blend config success (.finite progress) = .finite value ∧
      weightShare config * min success (clampUnit progress) ≤ value ∧
      value ≤ weightShare config * max success (clampUnit progress) := by
  obtain ⟨hclamped, hclamped'⟩ := clampUnit_mem progress
  obtain ⟨hshare, hshare'⟩ := weightShare_mem h0 h1
  have htotal : 0 < max (config.successWeight + config.progressWeight) weightFloor :=
    lt_of_lt_of_le RetrievalLeak.weightFloor_pos (le_max_right _ _)
  obtain ⟨hlower, hupper⟩ := weighted_between h0 h1 htotal.le success (clampUnit progress)
  rw [← weightShare_eq] at hlower hupper
  have hnonneg : 0 ≤ weightShare config * min success (clampUnit progress) :=
    mul_nonneg hshare (le_min hsuccess.1 hclamped)
  have hone : weightShare config * max success (clampUnit progress) ≤ 1 :=
    mul_le_one₀ hshare' (le_max_of_le_left hsuccess.1) (max_le hsuccess.2 hclamped')
  -- The mean before the final clamp is within the unit interval, so the clamp does nothing.
  have hclamp := clampUnit_of_mem (hnonneg.trans hlower) (hupper.trans hone)
  refine ⟨_, rfl, ?_, ?_⟩
  · rwa [hclamp]
  · rwa [hclamp]

end Blend

/-! ## The targets of the dataset -/

inductive Traced (torch : TensorOps K) (config : DatasetConfig K) (episodes : List (Episode K))
    (row : DatasetRow K) : Prop where
  | intro {episode : Episode K} {retrieved : List (List K)} {returns : List K}
      {targets : List (PyFloat K)}
      (hepisode : episodes[row.episodeIndex]? = some episode)
      (hretrieved : retrievedFor torch config episodes = .ok retrieved)
      (hreturns : successToGoTargets config.gamma episode.success.flatten = .ok returns)
      (htargets : episodeTargets config episode (retrieved.getD row.episodeIndex []) returns =
        .ok targets)
      (hcount : size episode.obs = returns.length)
      (hframe : row.frameIndex < returns.length)
      (htarget : row.target = targets.getD row.frameIndex .nan)

/-- An episode is read only if it has as many actions as states. -/
theorem size_action_of_episodeRows {i : ℕ} {episode : Episode K} {retrieved : List K}
    {rows : List (DatasetRow K)} (h : episodeRows torch config i episode retrieved = .ok rows) :
    size episode.obs = size episode.action := by
  rw [episodeRows] at h
  obtain ⟨states, hstates, h⟩ := bind_eq_ok_iff.mp h
  obtain ⟨actions, hactions, h⟩ := bind_eq_ok_iff.mp h
  obtain ⟨features, -, h⟩ := bind_eq_ok_iff.mp h
  obtain ⟨hlengths, -⟩ := guarded_eq_ok_iff.mp h
  push Not at hlengths
  rw [← length_as2d hstates, ← length_as2d hactions, hlengths.1]

private theorem traced_of_mem {episodes : List (Episode K)} {rows : List (DatasetRow K)}
    (hhorizon : 1 ≤ config.actionHorizon)
    (h : buildActionChunkDataset torch config episodes = .ok rows) {row : DatasetRow K}
    (hrow : row ∈ rows) : Traced torch config episodes row := by
  obtain ⟨retrieved, hretrieved, hrows⟩ := buildActionChunkDataset_eq_ok h
  obtain ⟨parts, hparts, hrows⟩ := bind_eq_ok_iff.mp hrows
  obtain rfl := Except.ok.inj hrows
  obtain ⟨part, hpart, hrow⟩ := List.mem_flatten.mp hrow
  obtain ⟨⟨⟨episode, i⟩, found⟩, hentry, hpart⟩ := exists_of_mem_mapM hparts hpart
  obtain ⟨position, hposition, hentry⟩ := List.mem_iff_getElem.mp hentry
  simp only [List.getElem_zip, List.getElem_zipIdx, Prod.mk.injEq, zero_add] at hentry
  obtain ⟨⟨rfl, rfl⟩, rfl⟩ := hentry
  simp only [List.length_zip, List.length_zipIdx, lt_inf_iff] at hposition
  have hsize := size_action_of_episodeRows hpart
  cases episodeOutcome hpart with
  | short => simp at hrow
  | chunks hlong hstates hactions hfeatures hlength hreturns htargets =>
    obtain ⟨start, hstart, rfl⟩ := List.mem_map.mp hrow
    have hcount := length_successToGoTargets hreturns
    have hwithin := add_le_of_mem_chunkStarts (by omega) hstart
    refine .intro (List.getElem?_eq_getElem hposition.1) hretrieved hreturns ?_
      (hlength.trans hcount.symm) ?_ rfl
    · rw [chunkRow, List.getD_eq_getElem _ _ hposition.2]
      exact htargets
    · rw [chunkRow]
      dsimp only
      omega

/-- The recorded progress of an episode has no NaN and no infinity. -/
def FiniteProgress (episode : Episode K) : Prop :=
  ∀ progress ∈ episode.progress, ∀ value ∈ progress.flatten, value.isFinite = true

omit [Field K] [LinearOrder K] in
theorem FiniteProgress.exists_value {episode : Episode K} (h : FiniteProgress episode)
    {progress : Tensor (PyFloat K)} (hprogress : episode.progress = some progress) {t : ℕ}
    (ht : t < progress.flatten.length) :
    ∃ value, progress.flatten[t]? = some (.finite value) := by
  have hvalue := List.getElem?_eq_getElem ht
  have hfinite := h progress hprogress _ (List.mem_of_getElem? hvalue)
  cases hentry : progress.flatten[t] with
  | finite value => exact ⟨value, by rw [hvalue, hentry]⟩
  | posInf => simp [hentry, PyFloat.isFinite] at hfinite
  | negInf => simp [hentry, PyFloat.isFinite] at hfinite
  | nan => simp [hentry, PyFloat.isFinite] at hfinite

/-- What a target is made of: it is kept, or blended with a progress of the same step. -/
inductive TargetOutcome (torch : TensorOps K) (config : DatasetConfig K)
    (episodes : List (Episode K)) (i start : ℕ) (success : K) : PyFloat K → Prop where
  | kept {episode : Episode K} (hepisode : episodes[i]? = some episode)
      (hnone : episode.progress = none) (hmode : config.targetMode = .progressBlend) :
      TargetOutcome torch config episodes i start success (.finite success)
  | blended {progress : K} (hprogress : ProgressAt torch config episodes i start progress) :
      TargetOutcome torch config episodes i start success
        (blend config success (.finite progress))

/-- Retrieval has found a progress value for every state. -/
theorem length_getD_retrieved {episodes : List (Episode K)} {retrieved : List (List K)}
    (hmode : config.targetMode = .retrievalProgressBlend)
    (h : retrievedFor torch config episodes = .ok retrieved) {i : ℕ} {episode : Episode K}
    (hepisode : episodes[i]? = some episode) :
    retrieved[i]? = some (retrieved.getD i []) ∧
      (retrieved.getD i []).length = size episode.obs := by
  rw [retrievedFor, if_pos hmode] at h
  have hlengths := forall₂_retrievalProgressTargets h
  obtain ⟨hlt, rfl⟩ := List.getElem?_eq_some_iff.mp hepisode
  have hlt' : i < retrieved.length := hlengths.length_eq ▸ hlt
  rw [List.getD_eq_getElem _ _ hlt']
  exact ⟨List.getElem?_eq_getElem hlt', hlengths.get hlt hlt'⟩

theorem Traced.outcome {episodes : List (Episode K)} {row : DatasetRow K}
    (h : Traced torch config episodes row)
    (hmode : config.targetMode = .progressBlend ∨ config.targetMode = .retrievalProgressBlend)
    (hfinite : ∀ episode ∈ episodes, FiniteProgress episode) :
    ∃ success, SuccessAt config episodes row.episodeIndex row.frameIndex success ∧
      TargetOutcome torch config episodes row.episodeIndex row.frameIndex success row.target := by
  obtain ⟨hepisode, hretrieved, hreturns, htargets, hcount, hframe, htarget⟩ := h
  rename_i episode retrieved returns targets
  have hsuccess := List.getElem?_eq_getElem hframe
  refine ⟨_, ⟨episode, returns, hepisode, hreturns, hsuccess⟩, ?_⟩
  rw [htarget, List.getD_eq_getElem?_getD]
  rcases hmode with hmode | hmode
  · cases hprogress : episode.progress with
    | none =>
      have hkept : targets = returns.map PyFloat.finite := by
        rw [episodeTargets, hmode, hprogress] at htargets
        exact (Except.ok.inj htargets).symm
      rw [hkept, List.getElem?_map, hsuccess]
      exact .kept hepisode hprogress hmode
    | some progress =>
      rw [episodeTargets, hmode, hprogress] at htargets
      dsimp only at htargets
      split_ifs at htargets with hlength
      obtain rfl := Except.ok.inj htargets
      push Not at hlength
      obtain ⟨value, hvalue⟩ := (hfinite episode (List.mem_of_getElem? hepisode)).exists_value
        hprogress (hlength ▸ hframe)
      rw [List.getElem?_zipWith, hsuccess, hvalue]
      exact .blended (.recorded hmode hepisode hprogress hvalue)
  · obtain ⟨hvalues, hlength⟩ := length_getD_retrieved hmode hretrieved hepisode
    have hvalue := List.getElem?_eq_getElem (hlength.trans hcount ▸ hframe)
    rw [episodeTargets, hmode] at htargets
    obtain rfl := Except.ok.inj htargets
    rw [List.getElem?_zipWith, hsuccess, List.getElem?_map, hvalue]
    rw [retrievedFor, if_pos hmode] at hretrieved
    exact .blended (.retrieved hmode hretrieved hvalues hvalue)

private theorem nonneg_of_check (h : config.check = .ok ()) :
    0 ≤ config.successWeight ∧ 0 ≤ config.progressWeight := by
  rw [DatasetConfig.check] at h
  obtain ⟨-, h⟩ := guarded_eq_ok_iff.mp h
  obtain ⟨-, h⟩ := guarded_eq_ok_iff.mp h
  obtain ⟨hweights, -⟩ := guarded_eq_ok_iff.mp h
  push Not at hweights
  exact hweights

variable [IsStrictOrderedRing K]

/-- Blended targets lie between their ingredients, scaled by the share of the weights in the
divisor. -/
theorem targets_between (hmode : config.targetMode = .progressBlend ∨
      config.targetMode = .retrievalProgressBlend)
    {episodes : List (Episode K)} (hfinite : ∀ episode ∈ episodes, FiniteProgress episode)
    {dataset : Dataset K} (h : buildDataset torch config episodes = .ok dataset) :
    BlendsBetween (weightShare config) torch config episodes dataset := by
  have hcheck : config.check = .ok () := by
    obtain ⟨accepted, hcheck, -⟩ := bind_eq_ok_iff.mp h
    exact hcheck
  obtain ⟨h0, h1⟩ := nonneg_of_check hcheck
  rw [buildDataset_eq] at h
  cases hrows : buildActionChunkDataset torch config episodes with
  | error e =>
    rw [hrows] at h
    cases h
  | ok rows =>
    rw [hrows] at h
    obtain rfl := Except.ok.inj h
    intro position hposition
    have hlt : position < rows.length := by simpa [datasetOf] using hposition
    have htraced := traced_of_mem (one_le_of_check hcheck).1 hrows (List.getElem_mem hlt)
    obtain ⟨success, hsuccess, houtcome⟩ := htraced.outcome hmode hfinite
    have hentry : ∀ {α : Type} (f : DatasetRow K → α), (rows.map f)[position]? =
        some (f rows[position]) := by
      intro α f
      rw [List.getElem?_map, List.getElem?_eq_getElem hlt, Option.map_some]
    refine ⟨rows[position].episodeIndex, rows[position].frameIndex, success, ?_⟩
    rw [datasetOf, hentry, hentry, hentry]
    generalize rows[position].target = target at houtcome
    cases houtcome with
    | kept hepisode hnone hmode =>
      exact ⟨success, rfl, rfl, hsuccess, rfl, Or.inl ⟨_, hepisode, hnone, hmode, rfl⟩⟩
    | blended hprogress =>
      obtain ⟨episode, returns, -, hreturns, hvalue⟩ := id hsuccess
      obtain ⟨value, hblend, hbetween⟩ := blend_between h0 h1
        (SuccessToGo.targets_mem_unit hreturns success (List.mem_of_getElem? hvalue))
      exact ⟨value, rfl, rfl, hsuccess, congrArg some hblend, Or.inr ⟨_, hprogress, hbetween⟩⟩

/-! ## An episode that succeeds -/

def successfulEpisode (progress : ℚ) : Episode ℚ :=
  { RetrievalLeak.steadyEpisode 2 true with
    progress := some (.vector [.finite progress, .finite progress]) }

def weightless : DatasetConfig ℚ :=
  { RetrievalLeak.defaultConfig .progressBlend with successWeight := 0, progressWeight := 0 }

def exactTargets (config : DatasetConfig ℚ) (progress : ℚ) : Option (List ℚ) :=
  (buildDataset RetrievalLeak.oneAxis config [successfulEpisode progress]).toOption.map
    fun dataset => dataset.targets.map PyFloat.exact

private theorem exists_dataset {config : DatasetConfig ℚ} {progress : ℚ} {targets : List ℚ}
    (h : exactTargets config progress = some targets) :
    ∃ dataset, buildDataset RetrievalLeak.oneAxis config [successfulEpisode progress] =
      .ok dataset ∧ dataset.targets.map PyFloat.exact = targets := by
  rw [exactTargets] at h
  cases hdataset : buildDataset RetrievalLeak.oneAxis config [successfulEpisode progress] with
  | error e =>
    rw [hdataset] at h
    cases h
  | ok dataset =>
    rw [hdataset] at h
    exact ⟨dataset, rfl, Option.some.inj h⟩

private theorem finiteProgress_successfulEpisode (progress : ℚ) :
    ∀ episode ∈ [successfulEpisode progress], FiniteProgress episode := by
  intro episode hepisode recorded hrecorded value hvalue
  obtain rfl := List.mem_singleton.mp hepisode
  obtain rfl := Option.some.inj hrecorded
  have hprogress : value = .finite progress := by simpa [Tensor.flatten] using hvalue
  rw [hprogress, PyFloat.isFinite_finite]

/-- The weights 0.7 of a success and 0.3 of half of the progress. -/
theorem successfulEpisode_between :
    ∃ dataset, buildDataset RetrievalLeak.oneAxis (RetrievalLeak.defaultConfig .progressBlend)
        [successfulEpisode (1 / 2)] = .ok dataset ∧
      dataset.targets.map PyFloat.exact = [17 / 20] ∧
      BlendsBetween (weightShare (RetrievalLeak.defaultConfig .progressBlend))
        RetrievalLeak.oneAxis (RetrievalLeak.defaultConfig .progressBlend)
        [successfulEpisode (1 / 2)] dataset := by
  have htargets : exactTargets (RetrievalLeak.defaultConfig .progressBlend) (1 / 2) =
      some [17 / 20] := by decide +kernel
  obtain ⟨dataset, hdataset, hvalue⟩ := exists_dataset htargets
  exact ⟨dataset, hdataset, hvalue,
    targets_between (Or.inl rfl) (finiteProgress_successfulEpisode (1 / 2)) hdataset⟩

/-- Without weights the target is zero, although both of its ingredients are one. -/
theorem weightless_not_between :
    ∃ dataset, buildDataset RetrievalLeak.oneAxis weightless [successfulEpisode 1] = .ok dataset ∧
      ¬BlendsBetween 1 RetrievalLeak.oneAxis weightless [successfulEpisode 1] dataset := by
  have htargets : exactTargets weightless 1 = some [0] := by decide +kernel
  obtain ⟨dataset, hdataset, hzero⟩ := exists_dataset htargets
  refine ⟨dataset, hdataset, fun hbetween => ?_⟩
  have hlength : dataset.targets.length = 1 := by simpa using congrArg List.length hzero
  obtain ⟨i, start, success, value, -, -, hsuccess, hvalue, hingredients⟩ :=
    hbetween 0 (by omega)
  have hvalue : value = 0 := by
    have hentry := congrArg (·[0]?) hzero
    simpa [List.getElem?_map, hvalue] using hentry
  have hepisode : ∀ {episode}, [successfulEpisode 1][i]? = some episode →
      episode = successfulEpisode 1 := by
    intro episode h
    exact List.mem_singleton.mp (List.mem_of_getElem? h)
  obtain ⟨episode, returns, h, hreturns, hone⟩ := hsuccess
  obtain rfl := hepisode h
  have hsteady : successToGoTargets weightless.gamma (successfulEpisode 1).success.flatten =
      .ok [1, 1] := by decide +kernel
  obtain rfl := Except.ok.inj (hsteady.symm.trans hreturns)
  have hone : success = 1 := by simpa using List.mem_of_getElem? hone
  rcases hingredients with ⟨episode, h, hnone, -⟩ | ⟨progress, hprogress, hle, -⟩
  · obtain rfl := hepisode h
    cases hnone
  · cases hprogress with
    | recorded hmode h hrecorded hprogress =>
      obtain rfl := hepisode h
      obtain rfl := Option.some.inj hrecorded
      have hfull : progress = 1 := by
        simpa [Tensor.flatten] using List.mem_of_getElem? hprogress
      rw [hone, hfull, hvalue] at hle
      norm_num [clampUnit] at hle
    | retrieved hmode => cases hmode

end SmolVlaQgf.BlendedTargets
