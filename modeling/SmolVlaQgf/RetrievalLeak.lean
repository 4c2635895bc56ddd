import SmolVlaQgf.ValidationIsolation
import Mathlib.Algebra.Order.Field.Basic
import Mathlib.Data.List.GetD
import Mathlib.Data.Rat.Floor
import Mathlib.Data.Rat.Sqrt
import Mathlib.Tactic.NormNum

/-!
# Retrieved progress reaches the training rows

Where retrieved progress has a weight, a validation episode that succeeds at every step
fills the bank with ones, and the training rows of a failed episode change with it.
-/

namespace SmolVlaQgf.RetrievalLeak
open ExactFloats Tensors TaskFeatures CriticTargets CriticDataset FallibleTraversals
open ValidationIsolation

variable {K : Type}

/-! ## Accepted arguments -/

/-- The arguments pass the checks of the dataset and of its targets. -/
structure Accepted [Field K] [LinearOrder K] (config : DatasetConfig K) : Prop where
  actionHorizon : 1 ≤ config.actionHorizon
  stride : 1 ≤ config.stride
  gamma : 0 ≤ config.gamma ∧ config.gamma ≤ 1
  successWeight : 0 ≤ config.successWeight
  progressWeight : 0 ≤ config.progressWeight
  taskFeatureDim : config.taskFeatureSource = .tokens → 1 ≤ config.taskFeatureDim
  retrievalK : 1 ≤ config.retrievalK

section Ordered

variable [Field K] [LinearOrder K] {config : DatasetConfig K} {torch : TensorOps K}

theorem Accepted.check (h : Accepted config) : config.check = .ok () := by
  have hhorizon : ¬config.actionHorizon < 1 := not_lt.mpr h.actionHorizon
  have hstride : ¬config.stride < 1 := not_lt.mpr h.stride
  have hweights : ¬(config.successWeight < 0 ∨ config.progressWeight < 0) :=
    not_or.mpr ⟨not_lt.mpr h.successWeight, not_lt.mpr h.progressWeight⟩
  have htokens : ¬(config.taskFeatureSource = .tokens ∧ config.taskFeatureDim < 1) :=
    fun ⟨hsource, hdim⟩ => absurd hdim (not_lt.mpr (h.taskFeatureDim hsource))
  rw [DatasetConfig.check, if_neg hhorizon, if_neg hstride, if_neg hweights, if_neg htokens]
  rfl

/-! ## Episodes that stand still -/

/-- An episode whose states and actions stay at zero, with one success flag throughout. -/
def steadyEpisode (n : ℕ) (success : Bool) : Episode K where
  obs := .vector (List.replicate n (.finite 0))
  action := .vector (List.replicate n (.finite 0))
  success := .vector (List.replicate n success)
  progress := none
  taskKey := ⟨none, none, none⟩
  taskTokens := some (.vector [0])
  taskAttentionMask := some (.vector [true])
  taskFeatures := some (.vector [])

def steadyGrid (n : ℕ) : Grid (PyFloat K) := .column (List.replicate n (.finite 0))

def steadyValue (success : Bool) : K := if success then 1 else 0

omit [LinearOrder K] in
@[simp] theorem length_rows_steadyGrid (n : ℕ) :
    (steadyGrid n : Grid (PyFloat K)).rows.length = n := by
  rw [steadyGrid, Grid.length_rows_column, List.length_replicate]

private theorem successIndices_false (n : ℕ) : successIndices (List.replicate n false) = [] := by
  rw [successIndices, List.map_eq_nil_iff, List.filter_eq_nil_iff]
  rintro ⟨flag, i⟩ hmem
  obtain ⟨-, -, hflag⟩ := List.mem_zipIdx hmem
  simp [hflag]

private theorem successIndices_true (n : ℕ) :
    ∃ rest, successIndices (List.replicate (n + 1) true) = 0 :: rest := by
  rw [successIndices, List.replicate_succ, List.zipIdx_cons, List.filter_cons_of_pos rfl]
  exact ⟨_, rfl⟩

private theorem successToGoTargets_steady (h : Accepted config) {n : ℕ} (hn : 0 < n)
    (success : Bool) :
    successToGoTargets config.gamma (List.replicate n success) =
      .ok (List.replicate n (steadyValue success)) := by
  have hgamma : ¬(config.gamma < 0 ∨ 1 < config.gamma) :=
    not_or.mpr ⟨not_lt.mpr h.gamma.1, not_lt.mpr h.gamma.2⟩
  rw [successToGoTargets, if_neg hgamma]
  cases success with
  | false =>
    rw [successIndices_false]
    simp [steadyValue]
  | true =>
    obtain ⟨m, rfl⟩ := Nat.exists_eq_succ_of_ne_zero hn.ne'
    obtain ⟨rest, hrest⟩ := successIndices_true m
    rw [hrest]
    simp [steadyValue]

end Ordered

/-! ## Banks of ones -/

/-- A bank of states of width one whose values are all one. -/
structure UnitBank [One K] (bank : Bank K) : Prop where
  width : bank.states.width = 1
  length : bank.states.rows.length = bank.values.length
  nonempty : 0 < bank.values.length
  ones : ∀ value ∈ bank.values, value = 1

private theorem cat_of_width {S : Type} {w : ℕ} {grids : List (Grid S)} (hne : grids ≠ [])
    (hwidth : ∀ grid ∈ grids, grid.width = w) :
    ∃ grid, cat grids = .ok grid ∧ grid.width = w ∧ grid.rows = grids.flatMap (·.rows) := by
  cases grids with
  | nil => exact absurd rfl hne
  | cons first rest =>
    have hfirst : first.width = w := hwidth first List.mem_cons_self
    have hrest : ∀ grid ∈ rest, grid.width = first.width := fun grid hgrid =>
      (hwidth grid (List.mem_cons_of_mem _ hgrid)).trans hfirst.symm
    rw [cat, dif_pos hrest]
    exact ⟨_, rfl, hfirst, rfl⟩

variable [Field K] [LinearOrder K] {config : DatasetConfig K} {torch : TensorOps K}

def steadyRollout (n : ℕ) (success : Bool) : Rollout K where
  taskKey := ⟨none, none, none⟩
  states := steadyGrid n
  successes := List.replicate n success
  returns := List.replicate n (steadyValue success)

omit [LinearOrder K] in
theorem unitBank_bankOf {n : ℕ} (hn : 0 < n) {rollouts : List (Rollout K)} (hne : rollouts ≠ [])
    (hrollouts : ∀ rollout ∈ rollouts, rollout = steadyRollout n true) :
    ∃ bank, bankOf rollouts = .ok bank ∧ UnitBank bank := by
  have hreplicate : rollouts = List.replicate rollouts.length (steadyRollout n true) :=
    List.eq_replicate_of_mem hrollouts
  have hwidths : ∀ grid ∈ rollouts.map (·.states), grid.width = 1 := fun grid hgrid => by
    obtain ⟨rollout, hrollout, rfl⟩ := List.mem_map.mp hgrid
    rw [hrollouts rollout hrollout]
    rfl
  have hgrids : rollouts.map (·.states) ≠ [] := fun h => hne (List.map_eq_nil_iff.mp h)
  obtain ⟨grid, hcat, hwidth, hrows⟩ := cat_of_width hgrids hwidths
  have hpos : 0 < rollouts.length := List.length_pos_iff.mpr hne
  refine ⟨⟨grid, rollouts.flatMap (·.returns)⟩, ?_, hwidth, ?_, ?_, ?_⟩
  · rw [bankOf, hcat]
    rfl
  · rw [hrows, hreplicate]
    simp [steadyRollout]
  · rw [hreplicate]
    simp [steadyRollout, hn, hpos]
  · intro value hvalue
    obtain ⟨rollout, hrollout, hvalue⟩ := List.mem_flatMap.mp hvalue
    rw [hrollouts rollout hrollout] at hvalue
    exact List.eq_of_mem_replicate hvalue

variable [IsStrictOrderedRing K]

private theorem nearestValue_ones {values : List K} {nearest : List ℕ}
    (hones : ∀ value ∈ values, value = 1)
    (hne : 0 < nearest.length) (hbound : ∀ index ∈ nearest, index < values.length) :
    nearestValue values nearest = .ok 1 := by
  have hall : (nearest.all fun index => decide (index < values.length)) = true :=
    List.all_eq_true.mpr fun index hindex => decide_eq_true (hbound index hindex)
  have hvalues : nearest.map (fun index => values.getD index 0) = List.replicate nearest.length 1 :=
    List.eq_replicate_iff.mpr ⟨List.length_map _, fun value hvalue => by
      obtain ⟨index, hindex, rfl⟩ := List.mem_map.mp hvalue
      rw [List.getD_eq_getElem _ _ (hbound index hindex)]
      exact hones _ (List.getElem_mem _)⟩
  have hcount : (nearest.length : K) ≠ 0 := Nat.cast_ne_zero.mpr hne.ne'
  rw [nearestValue, if_pos hall, hvalues, List.sum_replicate, nsmul_one, div_self hcount]
  simp [clampUnit]

/-- The nearest of as many states as the bank has values all have value one. -/
theorem nearestValue_unit (hdocumented : torch.Documented) {k : ℤ} (hk : 1 ≤ k) {bank : Bank K}
    (hbank : UnitBank bank) {distances : List (PyFloat K)}
    (hlength : distances.length = bank.values.length) :
    nearestValue bank.values (torch.topk distances (min k.toNat bank.values.length)) = .ok 1 := by
  have hle : min k.toNat bank.values.length ≤ distances.length := hlength ▸ min_le_right _ _
  have hcount := hdocumented.length distances _ hle
  refine nearestValue_ones hbank.ones ?_ fun index hindex => ?_
  · rw [hcount]
    have hnonempty := hbank.nonempty
    omega
  · rw [← hlength]
    exact hdocumented.bound distances _ hle index hindex

/-- Against a bank of ones every state has progress one, whichever states are nearest. -/
theorem bankProgress_unit (hdocumented : torch.Documented) {k : ℤ} (hk : 1 ≤ k) {bank : Bank K}
    (hbank : UnitBank bank) (n : ℕ) :
    bankProgress torch k bank (steadyGrid n) = .ok (List.replicate n 1) := by
  have hnormalize : ∀ mean std : List (PyFloat K), ∀ states : Grid (PyFloat K), states.width = 1 →
      normalizeStates torch mean std states = .ok (states.rows.map fun row =>
        broadcast torch.div (broadcast torch.sub row mean) std) := fun mean std states hwidth => by
    rw [normalizeStates, if_pos (Or.inr hwidth)]
  have hroom : ∀ f : List (PyFloat K) → List (PyFloat K),
      ¬(bank.states.rows.map f).length < min k.toNat bank.values.length := fun f => by
    rw [List.length_map, hbank.length]
    exact not_lt.mpr (min_le_right _ _)
  rw [bankProgress]
  simp only [hnormalize _ _ _ hbank.width, hnormalize _ _ (steadyGrid n) rfl, bind, Except.bind,
    if_neg (hroom _)]
  refine (mapM_eq_ok_map (g := fun _ => 1) fun row _ => ?_).trans ?_
  · apply nearestValue_unit hdocumented hk hbank
    rw [List.length_map, List.length_map, hbank.length]
  · rw [List.map_const', List.length_map, length_rows_steadyGrid]

omit [LinearOrder K] [IsStrictOrderedRing K] in
theorem unitBank_taskBank {n : ℕ} (hn : 0 < n) {successful : List (Rollout K)} {globalBank : Bank K}
    (hglobal : UnitBank globalBank)
    (hsuccessful : ∀ rollout ∈ successful, rollout = steadyRollout n true) (taskKey : TaskKey) :
    ∃ bank, taskBank successful globalBank taskKey = .ok bank ∧ UnitBank bank := by
  rw [taskBank]
  cases hfilter : successful.filter fun rollout => decide (rollout.taskKey = taskKey) with
  | nil => exact ⟨globalBank, rfl, hglobal⟩
  | cons first rest =>
    refine unitBank_bankOf hn (List.cons_ne_nil _ _) fun rollout hrollout => ?_
    rw [← hfilter] at hrollout
    exact hsuccessful rollout (List.mem_of_mem_filter hrollout)

/-- What is retrieved for steady episodes: one if any of them succeeds, else zero. -/
theorem retrievalProgress_steady (hdocumented : torch.Documented) {k : ℤ} (hk : 1 ≤ k) {n : ℕ}
    (hn : 0 < n) (flags : List Bool) :
    retrievalProgress torch k (flags.map (steadyRollout n)) =
      .ok (flags.map fun _ => List.replicate n (steadyValue (flags.any id))) := by
  have hflag : ∀ success, (steadyRollout n success : Rollout K).successes.any id = success :=
    fun success => by simp [steadyRollout, hn.ne']
  have hmem : ∀ rollout ∈ (flags.map (steadyRollout n : Bool → Rollout K)).filter
      (fun rollout => rollout.successes.any id), rollout = steadyRollout n true :=
    fun rollout hrollout => by
      obtain ⟨hrollout, hany⟩ := List.mem_filter.mp hrollout
      obtain ⟨success, -, rfl⟩ := List.mem_map.mp hrollout
      rw [hflag] at hany
      rw [hany]
  rw [retrievalProgress]
  cases hsuccessful : (flags.map (steadyRollout n : Bool → Rollout K)).filter
      (fun rollout => rollout.successes.any id) with
  | nil =>
    have hnone : flags.any id = false := by
      rw [List.any_eq_false]
      intro success hsuccess
      have hnot := List.filter_eq_nil_iff.mp hsuccessful _ (List.mem_map_of_mem hsuccess)
      rwa [hflag] at hnot
    dsimp only
    rw [hnone, List.map_map]
    refine congrArg Except.ok (List.map_congr_left fun success _ => ?_)
    simp [steadyRollout, steadyValue]
  | cons first rest =>
    have hsome : flags.any id = true := by
      have hfirst : first ∈ (flags.map (steadyRollout n : Bool → Rollout K)).filter
          (fun rollout => rollout.successes.any id) := hsuccessful ▸ List.mem_cons_self
      obtain ⟨hfirst, hany⟩ := List.mem_filter.mp hfirst
      obtain ⟨success, hsuccess, rfl⟩ := List.mem_map.mp hfirst
      rw [hflag] at hany
      exact List.any_eq_true.mpr ⟨success, hsuccess, hany⟩
    rw [hsuccessful] at hmem
    obtain ⟨globalBank, hglobal, hunit⟩ := unitBank_bankOf hn (List.cons_ne_nil _ _) hmem
    have hprogress : ∀ rollout ∈ flags.map (steadyRollout n : Bool → Rollout K),
        (taskBank (first :: rest) globalBank rollout.taskKey).bind
          (fun bank => bankProgress torch k bank rollout.states) = .ok (List.replicate n 1) :=
      fun rollout hrollout => by
        obtain ⟨success, -, rfl⟩ := List.mem_map.mp hrollout
        obtain ⟨bank, hbank, hones⟩ := unitBank_taskBank hn hunit hmem
          (steadyRollout n success : Rollout K).taskKey
        rw [hbank]
        exact bankProgress_unit hdocumented hk hones n
    dsimp only
    rw [hglobal, hsome]
    apply (mapM_eq_ok_map hprogress).trans
    rw [List.map_map]
    rfl

theorem retrievalProgressTargets_steady (hdocumented : torch.Documented) (h : Accepted config)
    {n : ℕ} (hn : 0 < n) (flags : List Bool) :
    retrievalProgressTargets torch config.obsKey config.gamma config.retrievalK
      (flags.map (steadyEpisode n)) =
      .ok (flags.map fun _ => List.replicate n (steadyValue (flags.any id))) := by
  have hk : ¬config.retrievalK < 1 := not_lt.mpr h.retrievalK
  have hstates : ∀ episode ∈ flags.map (steadyEpisode n : Bool → Episode K),
      episode.obs.as2d config.obsKey = .ok (steadyGrid n) := fun episode hepisode => by
    obtain ⟨success, -, rfl⟩ := List.mem_map.mp hepisode
    rfl
  have hreturns : (flags.map (steadyEpisode n : Bool → Episode K)).mapM (fun episode =>
      successToGoTargets config.gamma episode.success.flatten) =
        .ok (flags.map fun success => List.replicate n (steadyValue success)) := by
    rw [mapM_eq_ok_iff, List.forall₂_map_left_iff, List.forall₂_map_right_iff, List.forall₂_same]
    exact fun success _ => successToGoTargets_steady h hn success
  have hrollouts : List.zipWith (fun (episode : Episode K) (read : Grid (PyFloat K) × List K) =>
      (⟨episode.taskKey, read.1, episode.success.flatten, read.2⟩ : Rollout K))
        (flags.map (steadyEpisode n)) (((flags.map (steadyEpisode n : Bool → Episode K)).map
          fun _ => steadyGrid n).zip (flags.map fun success =>
            List.replicate n (steadyValue success))) = flags.map (steadyRollout n) := by
    rw [List.map_map, List.zip_map', List.zipWith_map, List.zipWith_self]
    rfl
  rw [retrievalProgressTargets, if_neg hk, mapM_eq_ok_map hstates, hreturns]
  simp only [bind, Except.bind]
  rw [hrollouts]
  exact retrievalProgress_steady hdocumented h.retrievalK hn flags

/-! ## Datasets of steady episodes -/

omit [IsStrictOrderedRing K] in
/-- The task features of a steady episode do not depend on its success. -/
theorem exists_taskFeatures (torch : TensorOps K) (h : Accepted config) (n : ℕ) :
    ∃ features, ∀ success,
      episodeTaskFeatures torch config (steadyEpisode n success) = .ok features := by
  cases hsource : config.taskFeatureSource with
  | none =>
    refine ⟨none, fun success => ?_⟩
    rw [episodeTaskFeatures, hsource]
  | tokens =>
    have hdim : ¬config.taskFeatureDim < 1 := not_lt.mpr (h.taskFeatureDim hsource)
    obtain ⟨grid, hgrid⟩ : ∃ grid, hashTokenFeatures torch.sqrt (.vector [0])
        (some (.vector [true])) config.taskFeatureDim true = .ok grid := by
      rw [hashTokenFeatures, if_neg hdim]
      exact ⟨_, rfl⟩
    refine ⟨some (grid.map PyFloat.finite).squeeze, fun success => ?_⟩
    rw [episodeTaskFeatures, hsource]
    dsimp only [steadyEpisode]
    rw [hgrid]
    rfl
  | episode | vlmHidden =>
    refine ⟨some (.vector []), fun success => ?_⟩
    rw [episodeTaskFeatures, hsource]
    rfl

def steadyRow (config : DatasetConfig K) (features : Option (Tensor (PyFloat K))) (i : ℕ)
    (success : Bool) (progress : K) : DatasetRow K :=
  chunkRow config i (steadyGrid config.actionHorizon.toNat) (steadyGrid config.actionHorizon.toNat)
    (List.replicate config.actionHorizon.toNat
      (blend config (steadyValue success) (.finite progress))) features 0

omit [IsStrictOrderedRing K] in
theorem episodeRows_steady (h : Accepted config)
    (hmode : config.targetMode = .retrievalProgressBlend)
    {features : Option (Tensor (PyFloat K))} (hfeatures : ∀ success, episodeTaskFeatures torch
      config (steadyEpisode config.actionHorizon.toNat success) = .ok features)
    (i : ℕ) (success : Bool) (progress : K) :
    episodeRows torch config i (steadyEpisode config.actionHorizon.toNat success)
      (List.replicate config.actionHorizon.toNat progress) =
        .ok [steadyRow config features i success progress] := by
  have hn : 0 < config.actionHorizon.toNat := by
    have hhorizon := h.actionHorizon
    omega
  have hlong : ¬(config.actionHorizon.toNat : ℤ) < config.actionHorizon := by omega
  have hlengths : ¬(config.actionHorizon.toNat ≠ config.actionHorizon.toNat ∨
      config.actionHorizon.toNat ≠ (List.replicate config.actionHorizon.toNat success).length) := by
    simp
  have hstarts : chunkStarts config.actionHorizon.toNat config.actionHorizon.toNat
      config.stride.toNat = [0] := by
    simp [chunkStarts]
  have htargets : episodeTargets config (steadyEpisode config.actionHorizon.toNat success)
      (List.replicate config.actionHorizon.toNat progress)
      (List.replicate config.actionHorizon.toNat (steadyValue success)) =
        .ok (List.replicate config.actionHorizon.toNat
          (blend config (steadyValue success) (.finite progress))) := by
    rw [episodeTargets, hmode]
    simp
  have hobs : (steadyEpisode config.actionHorizon.toNat success : Episode K).obs.as2d
      config.obsKey = .ok (steadyGrid config.actionHorizon.toNat) := rfl
  have haction : (steadyEpisode config.actionHorizon.toNat success : Episode K).action.as2d
      config.actionKey = .ok (steadyGrid config.actionHorizon.toNat) := rfl
  have hsuccess : (steadyEpisode config.actionHorizon.toNat success : Episode K).success.flatten =
      List.replicate config.actionHorizon.toNat success := rfl
  rw [episodeRows, hobs, haction, hfeatures]
  simp only [bind, Except.bind, hsuccess, if_neg hlengths, if_neg hlong,
    successToGoTargets_steady h hn, htargets, length_rows_steadyGrid, hstarts]
  rfl

def steadyDataset (config : DatasetConfig K) (features : Option (Tensor (PyFloat K)))
    (flags : List Bool) : List (DatasetRow K) :=
  flags.zipIdx.map fun entry =>
    steadyRow config features entry.2 entry.1 (steadyValue (flags.any id))

omit [IsStrictOrderedRing K] in
theorem stackRows_steady {features : Option (Tensor (PyFloat K))} {flags : List Bool}
    (hne : flags ≠ []) : stackRows config (steadyDataset config features flags) = .ok () := by
  have hstack : ∀ shapeOf : DatasetRow K → List ℕ,
      (∀ i success progress i' success' progress', shapeOf (steadyRow config features i success
        progress) = shapeOf (steadyRow config features i' success' progress')) →
      stack ((steadyDataset config features flags).map shapeOf) = .ok () := fun shapeOf hshape => by
    have hsame : ∀ other ∈ (steadyDataset config features flags).map shapeOf,
        other = shapeOf (steadyRow config features 0 true 0) := fun other hother => by
      obtain ⟨row, hrow, rfl⟩ := List.mem_map.mp hother
      obtain ⟨entry, -, rfl⟩ := List.mem_map.mp hrow
      exact hshape _ _ _ _ _ _
    exact stack_of_same (by simpa [steadyDataset] using hne) hsame
  rw [stackRows, hstack _ fun _ _ _ _ _ _ => rfl, hstack _ fun _ _ _ _ _ _ => rfl]
  split_ifs
  · exact hstack _ fun _ _ _ _ _ _ => rfl
  · rfl

private theorem buildActionChunkDataset_steady (hdocumented : torch.Documented)
    (h : Accepted config)
    (hmode : config.targetMode = .retrievalProgressBlend) :
    ∃ features, ∀ flags : List Bool, flags ≠ [] → buildActionChunkDataset torch config
      (flags.map (steadyEpisode config.actionHorizon.toNat)) =
        .ok (steadyDataset config features flags) := by
  obtain ⟨features, hfeatures⟩ := exists_taskFeatures torch h config.actionHorizon.toNat
  have hn : 0 < config.actionHorizon.toNat := by
    have hhorizon := h.actionHorizon
    omega
  refine ⟨features, fun flags hne => ?_⟩
  have hretrieved : retrievedFor torch config
      (flags.map (steadyEpisode config.actionHorizon.toNat)) = .ok (flags.map fun _ =>
        List.replicate config.actionHorizon.toNat (steadyValue (flags.any id))) := by
    rw [retrievedFor, if_pos hmode]
    exact retrievalProgressTargets_steady hdocumented h hn flags
  have hrows : ((flags.map (steadyEpisode config.actionHorizon.toNat)).zipIdx.zip
      (flags.map fun _ =>
        List.replicate config.actionHorizon.toNat (steadyValue (flags.any id) : K))).mapM
      (fun entry => episodeRows torch config entry.1.2 entry.1.1 entry.2) =
        .ok (flags.zipIdx.map fun entry =>
          [steadyRow config features entry.2 entry.1 (steadyValue (flags.any id))]) := by
    refine mapM_eq_ok_iff.mpr (List.forall₂_iff_get.mpr ⟨by simp, fun i hi hi' => ?_⟩)
    simp only [List.get_eq_getElem, List.getElem_zip, List.getElem_zipIdx, List.getElem_map,
      zero_add]
    exact episodeRows_steady h hmode hfeatures _ _ _
  have hnonempty : (steadyDataset config features flags).isEmpty ≠ true := by
    simpa [steadyDataset] using hne
  have hcollect : collectRows torch config (flags.map (steadyEpisode config.actionHorizon.toNat))
      (flags.map fun _ =>
        List.replicate config.actionHorizon.toNat (steadyValue (flags.any id))) =
        .ok (steadyDataset config features flags) := by
    have hflatten : (flags.zipIdx.map fun entry => [steadyRow config features entry.2 entry.1
        (steadyValue (flags.any id))]).flatten = steadyDataset config features flags := by
      rw [steadyDataset, ← List.flatMap_def, ← List.map_eq_flatMap]
    rw [collectRows, hrows]
    exact congrArg Except.ok hflatten
  rw [buildActionChunkDataset, h.check, hretrieved]
  simp only [bind, Except.bind, hcollect, if_neg hnonempty, stackRows_steady hne]
  rfl

/-! ## Two steady episodes -/

section Split

variable [FloorRing K]

/-- The split that holds out the second or the first of two episodes. -/
def splitOfTwo (held : Bool) : SplitIndices := if held then ⟨[0], [1]⟩ else ⟨[1], [0]⟩

omit [IsStrictOrderedRing K] in
private theorem validationCount_two (valFraction : K) : validationCount valFraction 2 = 1 := by
  rw [validationCount]
  omega

private theorem perm_range_two {order : List ℕ} (h : order.Perm (List.range 2)) :
    order = [0, 1] ∨ order = [1, 0] := by
  obtain ⟨a, b, rfl⟩ := List.length_eq_two.mp h.length_eq
  have hnodup : a ≠ b := by simpa using h.nodup_iff.mpr List.nodup_range
  have ha : a < 2 := List.mem_range.mp (h.mem_iff.mp List.mem_cons_self)
  have hb : b < 2 :=
    List.mem_range.mp (h.mem_iff.mp (List.mem_cons_of_mem _ (List.mem_singleton_self b)))
  simp only [List.cons.injEq, and_true]
  omega

omit [IsStrictOrderedRing K] in
theorem splitIndicesByEpisode_two {valFraction : K} (hpos : 0 < valFraction)
    (hlt : valFraction < 1) {randperm : ℕ → List ℕ}
    (hperm : ∀ n, (randperm n).Perm (List.range n)) :
    ∃ held, splitIndicesByEpisode valFraction randperm [0, 1] = .ok (splitOfTwo held) := by
  have hfraction : ¬(valFraction < 0 ∨ 1 ≤ valFraction) :=
    not_or.mpr ⟨not_lt.mpr hpos.le, not_le.mpr hlt⟩
  have hunique : uniqueSorted [0, 1] = [0, 1] := by decide
  have hsplit : ¬(valFraction = 0 ∨ ([0, 1] : List ℤ).length < 2) :=
    not_or.mpr ⟨hpos.ne', by decide⟩
  have hcount : validationCount valFraction ([0, 1] : List ℤ).length = 1 :=
    validationCount_two valFraction
  have horder : randperm ([0, 1] : List ℤ).length = [0, 1] ∨
      randperm ([0, 1] : List ℤ).length = [1, 0] := perm_range_two (hperm 2)
  rw [splitIndicesByEpisode, if_neg hfraction, if_neg (List.cons_ne_nil _ _)]
  simp only [hunique, if_neg hsplit, hcount]
  rcases horder with horder | horder
  · rw [horder]
    exact ⟨false, rfl⟩
  · rw [horder]
    exact ⟨true, rfl⟩

/-! ## The training row changes -/

omit [FloorRing K] in
private theorem clampUnit_zero : clampUnit (0 : K) = 0 := by simp [clampUnit]

omit [FloorRing K] in
private theorem clampUnit_pos {value : K} (h : 0 < value) : 0 < clampUnit value := by
  rw [clampUnit]
  exact lt_min (lt_max_of_lt_left h) zero_lt_one

omit [FloorRing K] in
theorem weightFloor_pos : 0 < (weightFloor : K) := by
  rw [weightFloor]
  exact inv_pos.mpr (Nat.cast_pos.mpr (by decide))

theorem blend_one_ne_zero (hweight : 0 < config.progressWeight) :
    blend config 0 (.finite 1) ≠ blend config 0 (.finite 0) := by
  have htotal : 0 < max (config.successWeight + config.progressWeight) weightFloor :=
    lt_max_of_lt_right weightFloor_pos
  have hone : clampUnit (1 : K) = 1 := by simp [clampUnit]
  have hpos : 0 < clampUnit ((config.successWeight * 0 + config.progressWeight * 1) /
      max (config.successWeight + config.progressWeight) weightFloor) := by
    refine clampUnit_pos (div_pos ?_ htotal)
    rwa [mul_zero, mul_one, zero_add]
  intro heq
  simp only [blend, clampFloat, hone, clampUnit_zero, PyFloat.finite.injEq] at heq
  rw [heq, mul_zero, mul_zero, add_zero, zero_div, clampUnit_zero] at hpos
  exact lt_irrefl _ hpos

omit [IsStrictOrderedRing K] [FloorRing K] in
private theorem target_steadyRow (h : Accepted config) {features : Option (Tensor (PyFloat K))}
    {i : ℕ}
    {success : Bool} {progress : K} : (steadyRow config features i success progress).target =
      blend config (steadyValue success) (.finite progress) := by
  have hn : 0 < (List.replicate config.actionHorizon.toNat
      (blend config (steadyValue success) (.finite progress))).length := by
    have hhorizon := h.actionHorizon
    rw [List.length_replicate]
    omega
  rw [steadyRow, chunkRow, List.getD_eq_getElem _ _ hn, List.getElem_replicate]

omit [LinearOrder K] [IsStrictOrderedRing K] [FloorRing K] in
private theorem varied_steady (n : ℕ) (success success' : Bool) :
    Varied (steadyEpisode n success : Episode K) (steadyEpisode n success') where
  obs := rfl
  action := rfl
  success := by simp [steadyEpisode, Tensor.flatten]
  same := rfl

omit [IsStrictOrderedRing K] [FloorRing K] in
/-- The held-out episode succeeds in one list and fails in the other. -/
theorem differIn_steady (config : DatasetConfig K) (features : Option (Tensor (PyFloat K)))
    (n : ℕ) (held : Bool) :
    DifferIn (validationEpisodes (steadyDataset config features [!held, held]) (splitOfTwo held))
      ([!held, held].map (steadyEpisode n : Bool → Episode K))
      ([false, false].map (steadyEpisode n)) where
  length := rfl
  same := fun i hi => by
    cases held with
    | false =>
      cases i with
      | zero => exact absurd List.mem_cons_self hi
      | succ i => rfl
    | true =>
      cases i with
      | zero => rfl
      | succ i =>
        cases i with
        | zero => exact absurd List.mem_cons_self hi
        | succ i => rfl
  varied := fun i _ episode other hepisode hother => by
    rw [List.getElem?_map] at hepisode hother
    obtain ⟨success, -, rfl⟩ := Option.map_eq_some_iff.mp hepisode
    obtain ⟨success', -, rfl⟩ := Option.map_eq_some_iff.mp hother
    exact varied_steady n success success'

/-- The validation episode decides whether any episode succeeds. -/
theorem not_isolated (hdocumented : torch.Documented) (h : Accepted config)
    (hmode : config.targetMode = .retrievalProgressBlend) (hweight : config.progressWeight ≠ 0)
    {valFraction : K} (hpos : 0 < valFraction) (hlt : valFraction < 1) {randperm : ℕ → List ℕ}
    (hperm : ∀ n, (randperm n).Perm (List.range n)) :
    ¬Isolated torch config valFraction randperm := by
  obtain ⟨features, hbuild⟩ := buildActionChunkDataset_steady hdocumented h hmode
  obtain ⟨held, hsplit⟩ := splitIndicesByEpisode_two hpos hlt hperm
  have hchanged : ∀ i, (steadyRow config features i false (steadyValue false)).trainingRow ≠
      (steadyRow config features i false (steadyValue true)).trainingRow := fun i heq => by
    have htarget : (steadyRow config features i false (steadyValue false)).target =
        (steadyRow config features i false (steadyValue true)).target :=
      congrArg TrainingRow.target heq
    rw [target_steadyRow h, target_steadyRow h] at htarget
    exact blend_one_ne_zero (lt_of_le_of_ne h.progressWeight hweight.symm) htarget.symm
  intro hisolated
  have hrows := hisolated _ _ _ _ _ _ (hbuild [!held, held] (List.cons_ne_nil _ _))
    (hbuild [false, false] (List.cons_ne_nil _ _)) hsplit hsplit
    (differIn_steady config features _ held)
  cases held with
  | false => exact hchanged 1 (List.cons.inj hrows).1
  | true => exact hchanged 0 (List.cons.inj hrows).1

/-- Training rows do not depend on validation episodes exactly if retrieved progress is not
used, has no weight, or no episode is held out. -/
theorem training_rows_isolated_iff (hdocumented : torch.Documented) (h : Accepted config)
    {valFraction : K} (hfraction : 0 ≤ valFraction ∧ valFraction < 1) {randperm : ℕ → List ℕ}
    (hperm : ∀ n, (randperm n).Perm (List.range n)) :
    Isolated torch config valFraction randperm ↔
      config.targetMode ≠ .retrievalProgressBlend ∨ config.progressWeight = 0 ∨
        valFraction = 0 := by
  constructor
  · intro hisolated
    by_contra hleak
    push Not at hleak
    obtain ⟨hmode, hweight, hpositive⟩ := hleak
    exact not_isolated hdocumented h hmode hweight
      (lt_of_le_of_ne hfraction.1 hpositive.symm) hfraction.2 hperm hisolated
  · rintro (hmode | hweight | rfl)
    · exact isolated_of_ignoresRetrieval (Or.inl hmode) valFraction randperm
    · exact isolated_of_ignoresRetrieval (Or.inr hweight) valFraction randperm
    · exact isolated_of_valFraction_zero randperm

end Split

/-! ## States on one axis -/

def exactly (op : ℚ → ℚ → ℚ) : PyFloat ℚ → PyFloat ℚ → PyFloat ℚ
  | .finite x, .finite y => .finite (op x y)
  | _, _ => .nan

def average (values : List ℚ) : ℚ := values.sum / values.length

/-- The operations of torch on exact states of width one. -/
def oneAxis : TensorOps ℚ where
  sub := exactly (· - ·)
  div := exactly (· / ·)
  mean := fun values => .finite (average (values.map PyFloat.exact))
  std := fun values =>
    let exact := values.map PyFloat.exact
    let squares := exact.map fun value => (value - average exact) * (value - average exact)
    .finite (Rat.sqrt (squares.sum / (values.length - 1)))
  clampMinimum := fun value => .finite (max value.exact (1 / 1000000))
  cdist := fun row other => exactly (fun x y => |x - y|) (row.headD .nan) (other.headD .nan)
  topk := fun values n =>
    ((values.zipIdx.insertionSort fun x y => x.1.exact ≤ y.1.exact).take n).map Prod.snd
  sqrt := Rat.sqrt

private theorem documented_oneAxis : oneAxis.Documented where
  length := fun values n hn => by
    simpa [oneAxis] using hn
  bound := fun values n hn i hi => by
    obtain ⟨entry, hentry, rfl⟩ := List.mem_map.mp hi
    have hmem := (List.perm_insertionSort _ _).mem_iff.mp (List.mem_of_mem_take hentry)
    obtain ⟨-, hlt, -⟩ := List.mem_zipIdx hmem
    rwa [zero_add] at hlt

def defaultConfig (targetMode : TargetMode) : DatasetConfig ℚ where
  actionHorizon := 2
  stride := 1
  gamma := 99 / 100
  obsKey := "state"
  actionKey := "action_policy"
  targetMode
  progressKey := "progress_score"
  successWeight := 7 / 10
  progressWeight := 3 / 10
  retrievalK := 5
  taskFeatureSource := .none
  taskFeatureDim := 0
  taskFeatureKey := "task_features"

theorem accepted_defaultConfig (targetMode : TargetMode) : Accepted (defaultConfig targetMode) where
  actionHorizon := by norm_num [defaultConfig]
  stride := by norm_num [defaultConfig]
  gamma := by constructor <;> norm_num [defaultConfig]
  successWeight := by norm_num [defaultConfig]
  progressWeight := by norm_num [defaultConfig]
  taskFeatureDim := fun h => by cases h
  retrievalK := by norm_num [defaultConfig]

/-- With the default target mode the training rows are isolated. -/
theorem default_mode_isolated :
    Isolated oneAxis (defaultConfig .successToGo) (1 / 5) List.range :=
  (training_rows_isolated_iff documented_oneAxis (accepted_defaultConfig .successToGo)
    ⟨by norm_num, by norm_num⟩ fun _ => .refl _).mpr (Or.inl (by decide))

/-- The training targets with retrieved progress; the first of two episodes is held out. -/
def trainingTargets (episodes : List (Episode ℚ)) : Option (List ℚ) := do
  let dataset ← (buildActionChunkDataset oneAxis (defaultConfig .retrievalProgressBlend)
    episodes).toOption
  let split ← (splitIndicesByEpisode (1 / 5 : ℚ) List.range (episodeIndices dataset)).toOption
  return (rowsAt dataset split.train).map fun row => row.target.exact

/-- The target of a failed training episode is 0.3 if the validation episode succeeds and
0 if it fails. -/
theorem validation_success_changes_training :
    trainingTargets [steadyEpisode 2 true, steadyEpisode 2 false] = some [3 / 10] ∧
      trainingTargets [steadyEpisode 2 false, steadyEpisode 2 false] = some [0] ∧
      ¬∀ targetMode, Isolated oneAxis (defaultConfig targetMode) (1 / 5) List.range := by
  refine ⟨by decide +kernel, by decide +kernel, fun hall => ?_⟩
  refine not_isolated documented_oneAxis (accepted_defaultConfig .retrievalProgressBlend) rfl ?_ ?_
    ?_ (fun _ => .refl _) (hall .retrievalProgressBlend)
  · norm_num [defaultConfig]
  · norm_num
  · norm_num

end SmolVlaQgf.RetrievalLeak
