import SmolVlaQgf.CriticDataset
import Mathlib.Algebra.BigOperators.Group.Multiset.Basic
import Mathlib.Data.Rat.Floor
import Mathlib.Data.Rat.Sqrt

/-!
# Bags of tokens

The features of a token row are a function of the multiset of its unmasked tokens, and the sums
before normalization add up over multisets. The row a critic is trained with is therefore the row
it is given at inference, where the same tokens are padded and batched.
-/

namespace SmolVlaQgf.TokenBags
open ExactFloats Tensors TaskFeatures CriticTargets CriticDataset

/-! ## Unmasked tokens -/

def unmasked (tokens : List ℤ) (mask : List Bool) : List ℤ :=
  ((tokens.zip mask).filter Prod.snd).map Prod.fst

def unmaskedRows (tokenIds : Tensor ℤ) (attentionMask : Option (Tensor Bool)) :
    Except TensorError (List (List ℤ)) := do
  let tokens ← as2dLong "token_ids" tokenIds
  let mask ← maskRows tokens attentionMask
  return (tokens.rows.zip mask).map fun entry => unmasked entry.1 entry.2

private theorem unmasked_all (tokens : List ℤ) :
    unmasked tokens (tokens.map fun _ => true) = tokens := by
  induction tokens with
  | nil => rfl
  | cons token tokens ih => exact congrArg (token :: ·) ih

theorem unmaskedRows_matrix {tokens : Grid ℤ} {mask : Grid Bool} (h : mask.shape = tokens.shape) :
    unmaskedRows (.matrix tokens) (some (.matrix mask)) =
      .ok ((tokens.rows.zip mask.rows).map fun entry => unmasked entry.1 entry.2) := by
  have hmask : maskRows tokens (some (.matrix mask)) = .ok mask.rows := by
    rw [maskRows]
    exact if_pos h
  rw [unmaskedRows, as2dLong]
  simp only [bind, Except.bind, hmask]
  rfl

theorem unmaskedRows_vector (tokens : List ℤ) (mask : List Bool)
    (h : mask.length = tokens.length) :
    unmaskedRows (.vector tokens) (some (.vector mask)) = .ok [unmasked tokens mask] := by
  have hshape : (Grid.single mask).shape = (Grid.single tokens).shape := by
    simp [Grid.shape, Grid.single, h]
  exact unmaskedRows_matrix hshape

theorem unmaskedRows_none (tokens : Grid ℤ) :
    unmaskedRows (.matrix tokens) none = .ok tokens.rows := by
  have hrows : (tokens.rows.zip (tokens.rows.map fun row => row.map fun _ => true)).map
      (fun entry => unmasked entry.1 entry.2) = tokens.rows := by
    refine List.ext_getElem (by simp) fun i hi hi' => ?_
    simp only [List.getElem_map, List.getElem_zip]
    exact unmasked_all _
  exact congrArg Except.ok hrows

/-! ## Features of a bag -/

section Bags

variable {K : Type} [Field K] [LinearOrder K] {sqrt : K → K} {featureDim : ℤ}

def bagSum (K : Type) [Field K] (featureDim : ℤ) (index : ℕ) (bag : Multiset ℤ) : K :=
  (bag.map fun token => if bucket featureDim token = index then signedMask token true else 0).sum

def bagFeatures (sqrt : K → K) (featureDim : ℤ) (normalize : Bool) (bag : Multiset ℤ) : List K :=
  let sums := (List.range featureDim.toNat).map fun index => bagSum K featureDim index bag
  if normalize then normalizeRow sqrt sums else sums

omit [LinearOrder K] in
theorem bagSum_add (featureDim : ℤ) (index : ℕ) (bag bag' : Multiset ℤ) :
    bagSum K featureDim index (bag + bag') =
      bagSum K featureDim index bag + bagSum K featureDim index bag' := by
  rw [bagSum, Multiset.map_add, Multiset.sum_add, bagSum, bagSum]

omit [LinearOrder K] in
theorem bucketSums_eq (featureDim : ℤ) (tokens : List ℤ) (mask : List Bool) :
    bucketSums featureDim tokens mask = (List.range featureDim.toNat).map fun index =>
      bagSum K featureDim index (unmasked tokens mask : Multiset ℤ) := by
  refine List.map_congr_left fun index _ => ?_
  rw [bagSum, Multiset.map_coe, Multiset.sum_coe, unmasked]
  induction tokens.zip mask with
  | nil => rfl
  | cons entry entries ih =>
    obtain ⟨token, kept⟩ := entry
    cases kept with
    | false =>
      have hnone : (if bucket featureDim token = index then signedMask token false else 0 : K) =
          0 := by
        simp [signedMask]
      simpa [hnone] using ih
    | true => simpa using ih

/-- The features of a batch are those of the bags of its rows, with the same errors. -/
theorem hashTokenFeatures_rows (sqrt : K → K) (hdim : 1 ≤ featureDim) (tokenIds : Tensor ℤ)
    (attentionMask : Option (Tensor Bool)) (normalize : Bool) :
    (hashTokenFeatures sqrt tokenIds attentionMask featureDim normalize).map Grid.rows =
      (unmaskedRows tokenIds attentionMask).map fun rows => rows.map fun row : List ℤ =>
        bagFeatures sqrt featureDim normalize (row : Multiset ℤ) := by
  rw [hashTokenFeatures, if_neg (not_lt.mpr hdim), unmaskedRows]
  cases as2dLong "token_ids" tokenIds with
  | error e => rfl
  | ok tokens =>
    simp only [bind, Except.bind]
    cases maskRows tokens attentionMask with
    | error e => rfl
    | ok mask =>
      simp only [Except.map, pure, Except.pure, List.map_map, Function.comp_def, bagFeatures,
        bucketSums_eq]
      cases normalize with
      | false => simp
      | true => simp

/-- The same calls succeed, and a row is computed from its bag alone. -/
theorem exists_features (hdim : 1 ≤ featureDim) {tokenIds : Tensor ℤ}
    {attentionMask : Option (Tensor Bool)} {rows : List (List ℤ)}
    (h : unmaskedRows tokenIds attentionMask = .ok rows) (sqrt : K → K) (normalize : Bool) :
    ∃ features, hashTokenFeatures sqrt tokenIds attentionMask featureDim normalize =
        .ok features ∧
      features.rows = rows.map fun row : List ℤ =>
        bagFeatures sqrt featureDim normalize (row : Multiset ℤ) := by
  have hrows := hashTokenFeatures_rows sqrt hdim tokenIds attentionMask normalize
  rw [h] at hrows
  cases hfeatures : hashTokenFeatures sqrt tokenIds attentionMask featureDim normalize with
  | error e =>
    rw [hfeatures] at hrows
    cases hrows
  | ok features =>
    rw [hfeatures] at hrows
    exact ⟨features, rfl, Except.ok.inj hrows⟩

/-- Two rows with the same bag of unmasked tokens have the same features, in whatever batches
they stand. -/
theorem features_of_bag (hdim : 1 ≤ featureDim) (sqrt : K → K) (normalize : Bool)
    {tokenIds tokenIds' : Tensor ℤ} {attentionMask attentionMask' : Option (Tensor Bool)}
    {rows rows' : List (List ℤ)} (h : unmaskedRows tokenIds attentionMask = .ok rows)
    (h' : unmaskedRows tokenIds' attentionMask' = .ok rows') :
    ∃ features features',
      hashTokenFeatures sqrt tokenIds attentionMask featureDim normalize = .ok features ∧
      hashTokenFeatures sqrt tokenIds' attentionMask' featureDim normalize = .ok features' ∧
      ∀ (i j : ℕ) row row', rows[i]? = some row → rows'[j]? = some row' → row.Perm row' →
        ∃ feature, features.rows[i]? = some feature ∧ features'.rows[j]? = some feature := by
  obtain ⟨features, hfeatures, hrows⟩ := exists_features hdim h sqrt normalize
  obtain ⟨features', hfeatures', hrows'⟩ := exists_features hdim h' sqrt normalize
  refine ⟨features, features', hfeatures, hfeatures', fun i j row row' hrow hrow' hperm => ?_⟩
  refine ⟨bagFeatures sqrt featureDim normalize (row : Multiset ℤ), ?_, ?_⟩
  · rw [hrows, List.getElem?_map, hrow, Option.map_some]
  · rw [hrows', List.getElem?_map, hrow', Option.map_some, Multiset.coe_eq_coe.mpr hperm]

/-! ## Training and inference -/

/-- An error of the features, or a `RuntimeError` with its text. -/
inductive BatchError where
  | features (error : TensorError)
  | runtimeError (message : String)

/-- `smolvla_text_hidden_features` of a policy model. -/
abbrev HiddenFeatures (K : Type) := Tensor ℤ → Option (Tensor Bool) → Except TensorError (Grid K)

omit [LinearOrder K] in
def checkDimension (taskFeatureDim : ℤ) (features : Except TensorError (Grid K)) :
    Except BatchError (Option (Grid K)) :=
  match features with
  | .error error => .error (.features error)
  | .ok features =>
      if (features.width : ℤ) ≠ taskFeatureDim then
        .error (.runtimeError ("Runtime task feature dimension does not match critic config: " ++
          toString features.width ++ " != " ++ toString taskFeatureDim ++ "."))
      else .ok (some features)

/-- `_task_features_from_batch`, of the tokens and the mask of a batch. -/
def taskFeaturesFromBatch (sqrt : K → K) (tokens : Option (Tensor ℤ)) (mask : Option (Tensor Bool))
    (taskFeatureDim : ℤ) (taskFeatureSource : TaskFeatureSource)
    (policyModel : Option (HiddenFeatures K)) : Except BatchError (Option (Grid K)) :=
  if taskFeatureDim ≤ 0 ∨ taskFeatureSource = .none then .ok none
  else
    match tokens with
    | none => .error (.runtimeError
        "QGF task-conditioned critic requires observation.language.tokens.")
    | some tokens =>
        match taskFeatureSource, policyModel with
        | .tokens, _ => checkDimension taskFeatureDim
            (hashTokenFeatures sqrt tokens mask taskFeatureDim true)
        | .vlmHidden, none => .error (.runtimeError
            "QGF VLM-hidden task features require a SmolVLA policy model.")
        | .vlmHidden, some hidden => checkDimension taskFeatureDim (hidden tokens mask)
        | source, _ => .error (.runtimeError
            ("Unsupported runtime task_feature_source=" ++ source.repr ++ "."))

private theorem width_of_hashTokenFeatures {tokenIds : Tensor ℤ}
    {attentionMask : Option (Tensor Bool)}
    {normalize : Bool} {features : Grid K}
    (h : hashTokenFeatures sqrt tokenIds attentionMask featureDim normalize = .ok features) :
    features.width = featureDim.toNat := by
  rw [hashTokenFeatures] at h
  obtain ⟨-, h⟩ := guarded_eq_ok_iff.mp h
  obtain ⟨tokens, -, h⟩ := bind_eq_ok_iff.mp h
  obtain ⟨mask, -, h⟩ := bind_eq_ok_iff.mp h
  obtain rfl := Except.ok.inj h
  rfl

/-- A critic is trained with the row that it is given at inference for the same tokens, in any
order, padded and batched. -/
theorem training_row_at_inference {torch : TensorOps K} {config : DatasetConfig K}
    {episode : Episode K} (hsource : config.taskFeatureSource = .tokens)
    (hdim : 1 ≤ config.taskFeatureDim) {tokens : List ℤ} {mask : List Bool}
    (htokens : episode.taskTokens = some (.vector tokens))
    (hmask : episode.taskAttentionMask = some (.vector mask))
    (hlength : mask.length = tokens.length) {tokenIds : Tensor ℤ}
    {attentionMask : Option (Tensor Bool)} {rows : List (List ℤ)}
    (hrows : unmaskedRows tokenIds attentionMask = .ok rows) {i : ℕ} {row : List ℤ}
    (hrow : rows[i]? = some row) (hperm : row.Perm (unmasked tokens mask))
    (policyModel : Option (HiddenFeatures K)) :
    ∃ feature features, episodeTaskFeatures torch config episode =
        .ok (some (.vector (feature.map PyFloat.finite))) ∧
      taskFeaturesFromBatch torch.sqrt (some tokenIds) attentionMask config.taskFeatureDim .tokens
        policyModel = .ok (some features) ∧
      features.rows[i]? = some feature := by
  obtain ⟨trained, htrained, htrainedRows⟩ :=
    exists_features hdim (unmaskedRows_vector tokens mask hlength) torch.sqrt true
  obtain ⟨features, hfeatures, hfeatureRows⟩ := exists_features hdim hrows torch.sqrt true
  refine ⟨bagFeatures torch.sqrt config.taskFeatureDim true (row : Multiset ℤ), features,
    ?_, ?_, ?_⟩
  · have hsqueeze : (trained.map PyFloat.finite).squeeze = .vector
        ((bagFeatures torch.sqrt config.taskFeatureDim true (row : Multiset ℤ)).map
          PyFloat.finite) := by
      apply Grid.squeeze_of_rows
      rw [Grid.rows_map, htrainedRows, Multiset.coe_eq_coe.mpr hperm]
      rfl
    rw [episodeTaskFeatures, hsource, htokens, hmask]
    simp only [bind, Except.bind, htrained, hsqueeze]
    rfl
  · have hpositive : ¬(config.taskFeatureDim ≤ 0 ∨ TaskFeatureSource.tokens = .none) := by
      rintro (hle | hnone)
      · omega
      · cases hnone
    have hwidth := width_of_hashTokenFeatures hfeatures
    rw [taskFeaturesFromBatch, if_neg hpositive, hfeatures]
    exact if_neg (not_not.mpr (by omega))
  · rw [hfeatureRows, List.getElem?_map, hrow, Option.map_some]

end Bags

/-- A padded row and the second row of a batch. -/
theorem padded_and_batched :
    ∃ features features' : Grid ℚ,
      hashTokenFeatures Rat.sqrt (.vector [5, 7, 0]) (some (.vector [true, true, false])) 16 true =
        .ok features ∧
      hashTokenFeatures Rat.sqrt (.matrix ⟨2, [[1, 1], [7, 5]], by simp⟩) none 16 true =
        .ok features' ∧
      features.rows[0]? = features'.rows[1]? := by
  obtain ⟨features, features', hfeatures, hfeatures', hrows⟩ :=
    features_of_bag (by omega : (1 : ℤ) ≤ 16) Rat.sqrt true
      (unmaskedRows_vector [5, 7, 0] [true, true, false] rfl)
      (unmaskedRows_none ⟨2, [[1, 1], [7, 5]], by simp⟩)
  obtain ⟨feature, hfeature, hfeature'⟩ := hrows 0 1 [5, 7] [7, 5] rfl rfl (.swap 7 5 [])
  exact ⟨features, features', hfeatures, hfeatures', hfeature.trans hfeature'.symm⟩

end SmolVlaQgf.TokenBags
