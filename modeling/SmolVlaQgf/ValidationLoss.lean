import Mathlib.Algebra.Order.Field.Rat
import SmolVlaQgf.BatchMeans

/-!
# Validation losses over batches

`_evaluate` of the visual trainer and `eval_mse` of the mixed trainer average the losses of the
batches, each of which is already a mean. The loss that selects a checkpoint is therefore the mean
over the validation samples only if these are balanced: a short last batch weighs as much as a
full one.
-/

namespace SmolVlaQgf.ValidationLoss
open BatchMeans

inductive EvaluationError where
  | batchSizeNotPositive
  | zeroStep
  | emptyCat

variable {S V A O K : Type} [Field K] [LinearOrder K]

/-- `F.mse_loss` -/
def mseLoss (predictions targets : List K) : K :=
  mean (List.zipWith (fun p t => (p - t) * (p - t)) predictions targets)

/-- `sum(losses) / max(1, len(losses))` -/
def averaged (losses : List K) : K := losses.sum / (max 1 losses.length : ℕ)

/-- `torch.cat` of vectors. -/
def cat {α : Type} (parts : List (List α)) : Except EvaluationError (List α) :=
  if parts = [] then .error .emptyCat else .ok parts.flatten

/-! ## `_evaluate` -/

structure Sample (S V A K : Type) where
  state : S
  visual : V
  action : A
  nextState : S
  nextVisual : V
  reward : K
  done : Bool

/-- The networks, which act on each sample of a batch. -/
structure Networks (S V A K : Type) where
  q : S → V → A → K
  forwardValue : S → V → K

/-- What `_evaluate` returns. -/
structure Metrics (K : Type) where
  tdLoss : K
  qMean : K
  qSuccessMean : Option K
  qFailureMean : Option K
  qSuccessFailureGap : Option K
  positiveRewardSamples : ℕ
  samples : ℕ

section Evaluate

variable (nets : Networks S V A K) (gamma : K)

def prediction (sample : Sample S V A K) : K := nets.q sample.state sample.visual sample.action

def target (sample : Sample S V A K) : K :=
  let done : K := if sample.done then 1 else 0
  sample.reward + gamma * (1 - done) * nets.forwardValue sample.nextState sample.nextVisual

def meanOf (values : List K) : Option K := if values = [] then none else some (mean values)

/-- `q_values[mask]` -/
def masked (values : List K) (mask : List Bool) : List K :=
  ((values.zip mask).filter Prod.snd).map Prod.fst

/-- `DataLoader(rows, batch_size=batch_size, shuffle=False)` -/
def loader {α : Type} (batchSize : ℤ) (rows : List α) :
    Except EvaluationError (List (List α)) :=
  if batchSize ≤ 0 then .error .batchSizeNotPositive else .ok (batches batchSize.toNat rows)

/-- `_evaluate` -/
def evaluate (rows : List (Sample S V A K)) (batchSize : ℤ) :
    Except EvaluationError (Metrics K) := do
  let loaded ← loader batchSize rows
  let losses := loaded.map fun batch =>
    mseLoss (batch.map (prediction nets)) (batch.map (target nets gamma))
  let qValues ← cat (loaded.map (List.map (prediction nets)))
  let successValues ← cat (loaded.map (List.map fun sample => decide (0 < sample.reward)))
  let successQ := masked qValues successValues
  let failureQ := masked qValues (successValues.map not)
  return {
    tdLoss := averaged losses
    qMean := mean qValues
    qSuccessMean := meanOf successQ
    qFailureMean := meanOf failureQ
    qSuccessFailureGap :=
      if successQ ≠ [] ∧ failureQ ≠ [] then some (mean successQ - mean failureQ) else none
    positiveRewardSamples := successValues.count true
    samples := qValues.length }

end Evaluate

/-! ## `eval_mse` -/

/-- A row of `mse_dataset`. -/
structure ChunkSample (O A K : Type) where
  obsFeatures : O
  actionChunk : A
  target : K

/-- The slices of `indices` at `range(0, indices.numel(), batch_size)`. -/
def indexBatches {α : Type} (batchSize : ℤ) (indices : List α) :
    Except EvaluationError (List (List α)) :=
  if batchSize = 0 then .error .zeroStep
  else .ok (if batchSize < 0 then [] else batches batchSize.toNat indices)

/-- `eval_mse` -/
def evalMse {n : ℕ} (critic : O → A → K) (mseDataset : Fin n → ChunkSample O A K) (batchSize : ℤ)
    (indices : List (Fin n)) : Except EvaluationError (Option K) := do
  if indices = [] then return none
  let loaded ← indexBatches batchSize indices
  let losses := loaded.map fun batchIndices =>
    let rows := batchIndices.map mseDataset
    mseLoss (rows.map fun row => critic row.obsFeatures row.actionChunk)
      (rows.map ChunkSample.target)
  return some (averaged losses)

/-! ## Losses of batches -/

omit [LinearOrder K] in
/-- The loss of a batch is the mean of the squared errors of its samples. -/
theorem mseLoss_map {α : Type} (predict observe : α → K) (rows : List α) :
    mseLoss (rows.map predict) (rows.map observe) =
      mean (rows.map fun row => (predict row - observe row) * (predict row - observe row)) := by
  rw [mseLoss, List.zipWith_map, List.zipWith_self]

omit [LinearOrder K] in
private theorem averaged_of_ne_nil {losses : List K} (h : losses ≠ []) :
    averaged losses = mean losses := by
  rw [averaged, max_eq_right (List.length_pos_of_ne_nil h), mean]

omit [LinearOrder K] in
theorem averaged_mseLoss {α : Type} (predict observe : α → K) {size : ℕ} (hsize : 0 < size)
    {rows : List α} (hrows : rows ≠ []) :
    averaged ((batches size rows).map fun batch =>
        mseLoss (batch.map predict) (batch.map observe)) =
      mean ((batches size (rows.map fun row =>
        (predict row - observe row) * (predict row - observe row))).map mean) := by
  have hbatches : batches size rows ≠ [] := fun h => hrows ((batches_eq_nil_iff hsize).mp h)
  rw [averaged_of_ne_nil (by simpa using hbatches), ← map_batches, List.map_map]
  refine congrArg mean (List.map_congr_left fun batch _ => ?_)
  exact mseLoss_map predict observe batch

/-! ## The validation losses -/

def tdError (nets : Networks S V A K) (gamma : K) (sample : Sample S V A K) : K :=
  (prediction nets sample - target nets gamma sample) *
    (prediction nets sample - target nets gamma sample)

def squaredError (critic : O → A → K) (row : ChunkSample O A K) : K :=
  (critic row.obsFeatures row.actionChunk - row.target) *
    (critic row.obsFeatures row.actionChunk - row.target)

section Evaluations

variable {nets : Networks S V A K} {gamma : K} {rows : List (Sample S V A K)} {batchSize : ℤ}

/-- An evaluation averages the means of the batches; the mean of the predictions is over all
samples. -/
theorem exists_metrics (nets : Networks S V A K) (gamma : K) (h : 1 ≤ batchSize)
    (hrows : rows ≠ []) :
    ∃ metrics, evaluate nets gamma rows batchSize = .ok metrics ∧
      metrics.tdLoss =
        mean ((batches batchSize.toNat (rows.map (tdError nets gamma))).map mean) ∧
      metrics.qMean = mean (rows.map (prediction nets)) ∧ metrics.samples = rows.length := by
  have hsize : 0 < batchSize.toNat := by omega
  have hbatches : batches batchSize.toNat rows ≠ [] :=
    fun hnil => hrows ((batches_eq_nil_iff hsize).mp hnil)
  have hloader : loader batchSize rows = .ok (batches batchSize.toNat rows) :=
    if_neg (not_le.mpr (by omega))
  have hcat : ∀ {β : Type} (f : Sample S V A K → β),
      cat ((batches batchSize.toNat rows).map (List.map f)) = .ok (rows.map f) := by
    intro β f
    rw [cat, if_neg (by simpa using hbatches), map_batches, flatten_batches hsize]
  rw [evaluate, hloader]
  simp only [bind, Except.bind, hcat, pure, Except.pure]
  exact ⟨_, rfl, averaged_mseLoss _ _ hsize hrows, rfl, List.length_map _⟩

omit [LinearOrder K] in
/-- The loss of the mixed trainer averages the means of the batches. -/
theorem evalMse_eq {n : ℕ} {critic : O → A → K} {mseDataset : Fin n → ChunkSample O A K}
    {indices : List (Fin n)} (h : 1 ≤ batchSize) (hindices : indices ≠ []) :
    evalMse critic mseDataset batchSize indices =
      .ok (some (mean ((batches batchSize.toNat
        (indices.map fun index => squaredError critic (mseDataset index))).map mean))) := by
  have hsize : 0 < batchSize.toNat := by omega
  have hloaded : indexBatches batchSize indices = .ok (batches batchSize.toNat indices) := by
    rw [indexBatches, if_neg (by omega), if_neg (by omega)]
  rw [evalMse, if_neg hindices, hloaded]
  simp only [bind, Except.bind, pure, Except.pure, List.map_map, Function.comp_def]
  exact congrArg (fun loss => Except.ok (some loss)) (averaged_mseLoss
    (fun index => critic (mseDataset index).obsFeatures (mseDataset index).actionChunk)
    (fun index => (mseDataset index).target) hsize hindices)

variable [IsStrictOrderedRing K]

private theorem evaluate_mean_iff (h : 1 ≤ batchSize) (hrows : rows ≠ []) :
    (∃ metrics, evaluate nets gamma rows batchSize = .ok metrics ∧
        metrics.tdLoss = mean (rows.map (tdError nets gamma))) ↔
      Balanced batchSize.toNat (rows.map (tdError nets gamma)) := by
  obtain ⟨metrics, hmetrics, hloss, -⟩ := exists_metrics nets gamma h hrows
  rw [← mean_batches_iff (by omega) (by simpa using hrows), ← hloss]
  constructor
  · rintro ⟨other, hother, hmean⟩
    rw [hmetrics, Except.ok.injEq] at hother
    rwa [hother]
  · intro hmean
    exact ⟨metrics, hmetrics, hmean⟩

private theorem evalMse_mean_iff {n : ℕ} {critic : O → A → K}
    {mseDataset : Fin n → ChunkSample O A K}
    {indices : List (Fin n)} (h : 1 ≤ batchSize) (hindices : indices ≠ []) :
    evalMse critic mseDataset batchSize indices =
        .ok (some (mean (indices.map fun index => squaredError critic (mseDataset index)))) ↔
      Balanced batchSize.toNat
        (indices.map fun index => squaredError critic (mseDataset index)) := by
  rw [evalMse_eq h hindices, Except.ok.injEq, Option.some.injEq]
  exact mean_batches_iff (by omega) (by simpa using hindices)

end Evaluations

/-- Both losses are the mean over the validation samples exactly if the squared errors of these
are balanced. -/
theorem losses_are_means_iff [IsStrictOrderedRing K] (nets : Networks S V A K) (gamma : K)
    {rows : List (Sample S V A K)} (hrows : rows ≠ []) {n : ℕ} (critic : O → A → K)
    (mseDataset : Fin n → ChunkSample O A K) {indices : List (Fin n)} (hindices : indices ≠ [])
    {batchSize : ℤ} (h : 1 ≤ batchSize) :
    ((∃ metrics, evaluate nets gamma rows batchSize = .ok metrics ∧
        metrics.tdLoss = mean (rows.map (tdError nets gamma))) ↔
      Balanced batchSize.toNat (rows.map (tdError nets gamma))) ∧
    (evalMse critic mseDataset batchSize indices =
        .ok (some (mean (indices.map fun index => squaredError critic (mseDataset index)))) ↔
      Balanced batchSize.toNat
        (indices.map fun index => squaredError critic (mseDataset index))) :=
  ⟨evaluate_mean_iff h hrows, evalMse_mean_iff h hindices⟩

/-- Networks that read the action as the value and expect nothing of the next state. -/
def actionNetworks : Networks Unit Unit ℚ ℚ where
  q := fun _ _ action => action
  forwardValue := fun _ _ => 0

def terminal (action : ℚ) : Sample Unit Unit ℚ ℚ := ⟨(), (), action, (), (), 0, true⟩

def zeroTarget (action : ℚ) : ChunkSample Unit ℚ ℚ := ⟨(), action, 0⟩

theorem four_in_twos :
    (∃ metrics, evaluate actionNetworks 0 ([0, 0, 1, 0].map terminal) 2 = .ok metrics ∧
        metrics.tdLoss = mean (([0, 0, 1, 0].map terminal).map (tdError actionNetworks 0))) ∧
      evalMse (fun _ action => action) (fun i : Fin 4 => zeroTarget i) 2 [0, 1, 2, 3] =
        .ok (some (mean ([0, 1, 2, 3].map fun i : Fin 4 =>
          squaredError (fun _ action => action) (zeroTarget i)))) := by
  have hrows : [0, 0, 1, 0].map terminal ≠ [] := by simp
  have hindices : ([0, 1, 2, 3] : List (Fin 4)) ≠ [] := List.cons_ne_nil _ _
  obtain ⟨hevaluate, hevalMse⟩ := losses_are_means_iff actionNetworks 0 hrows
    (fun _ action => action) (fun i : Fin 4 => zeroTarget i) hindices (by decide : (1 : ℤ) ≤ 2)
  exact ⟨hevaluate.mpr (Or.inr (Or.inl (by decide))), hevalMse.mpr (Or.inr (Or.inl (by decide)))⟩

/-- Of three samples in batches of two the third counts as much as the first two. -/
theorem three_in_twos :
    (¬∃ metrics, evaluate actionNetworks 0 ([0, 0, 1].map terminal) 2 = .ok metrics ∧
        metrics.tdLoss = mean (([0, 0, 1].map terminal).map (tdError actionNetworks 0))) ∧
      evalMse (fun _ action => action) (fun i : Fin 3 => zeroTarget i) 2 [0, 1, 2] ≠
        .ok (some (mean ([0, 1, 2].map fun i : Fin 3 =>
          squaredError (fun _ action => action) (zeroTarget i)))) := by
  rw [evaluate_mean_iff (by decide) (by simp), Ne, evalMse_mean_iff (by decide) (by simp)]
  constructor
  · rintro (hshort | hdvd | hmean)
    · exact absurd hshort (by decide)
    · exact absurd hdvd (by decide)
    · exact absurd hmean (by decide +kernel)
  · rintro (hshort | hdvd | hmean)
    · exact absurd hshort (by decide)
    · exact absurd hdvd (by decide)
    · exact absurd hmean (by decide +kernel)

end SmolVlaQgf.ValidationLoss
