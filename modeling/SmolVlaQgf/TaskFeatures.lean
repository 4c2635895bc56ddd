import SmolVlaQgf.Tensors
import Mathlib.Algebra.Order.Field.Basic

/-!
# Hashed task tokens

`hash_token_features` adds a signed unit to one bucket for every unmasked token and
divides the row by its norm. Token arithmetic is that of 64-bit integers; features are
exact numbers, with the square root as a parameter. The code sums the units in float32,
which is exact as long as fewer than 2^24 tokens fall into a bucket.
-/

namespace SmolVlaQgf.TaskFeatures
open Tensors

def wrapInt64 (x : ℤ) : ℤ := Int.bmod x 18446744073709551616

/-- `torch.remainder(tokens * 1_000_003 + 97_531, feature_dim)` -/
def bucket (featureDim token : ℤ) : ℤ :=
  wrapInt64 (wrapInt64 (token * 1000003) + 97531) % featureDim

/-- `_as_2d_long_tensor` -/
def as2dLong (name : String) : Tensor ℤ → Except TensorError (Grid ℤ)
  | .vector values => .ok (.single values)
  | .matrix grid => .ok grid
  | .other shape _ =>
      .error (.valueError (name ++ " must be a 1D or 2D tensor, got shape " ++ shapeText shape ++
        "."))

def maskTensor : Tensor Bool → Tensor Bool
  | .vector values => .matrix (.single values)
  | mask => mask

def maskRows (tokens : Grid ℤ) : Option (Tensor Bool) → Except TensorError (List (List Bool))
  | none => .ok (tokens.rows.map fun row => row.map fun _ => true)
  | some mask =>
      match maskTensor mask with
      | .matrix grid =>
          if grid.shape = tokens.shape then .ok grid.rows
          else .error (mismatch grid.shape)
      | other => .error (mismatch other.shape)
where
  mismatch (shape : List ℕ) : TensorError :=
    .valueError ("attention_mask must have the same shape as token_ids, got " ++ shapeText shape ++
      " and " ++ shapeText tokens.shape ++ ".")

variable {K : Type} [Field K] [LinearOrder K]

/-- `sign * mask` of one token. -/
def signedMask (token : ℤ) (mask : Bool) : K :=
  if mask then
    if wrapInt64 (wrapInt64 (token * 91739) + 19993) % 2 = 0 then 1 else -1
  else 0

/-- `scatter_add_` of one row. -/
def bucketSums (featureDim : ℤ) (tokens : List ℤ) (mask : List Bool) : List K :=
  (List.range featureDim.toNat).map fun (index : ℕ) =>
    ((tokens.zip mask).map fun entry =>
      if bucket featureDim entry.1 = index then signedMask entry.1 entry.2 else 0).sum

/-- `1.0e-6` -/
def normFloor : K := ((1000000 : ℕ) : K)⁻¹

/-- The row divided by its norm, which is at least `normFloor`. -/
def normalizeRow (sqrt : K → K) (row : List K) : List K :=
  let norm := max (sqrt (row.map fun value => value * value).sum) normFloor
  if 0 < norm then row.map fun value => value / norm else row

/-- `hash_token_features` -/
def hashTokenFeatures (sqrt : K → K) (tokenIds : Tensor ℤ) (attentionMask : Option (Tensor Bool))
    (featureDim : ℤ) (normalize : Bool) : Except TensorError (Grid K) := do
  if featureDim < 1 then
    throw (.valueError "feature_dim must be >= 1.")
  let tokens ← as2dLong "token_ids" tokenIds
  let mask ← maskRows tokens attentionMask
  let features := (tokens.rows.zip mask).map fun entry => bucketSums featureDim entry.1 entry.2
  return {
    width := featureDim.toNat
    rows := if normalize then features.map (normalizeRow sqrt) else features
    rectangular := fun row hrow => by
      have hfeatures : ∀ row ∈ features, row.length = featureDim.toNat := fun row hrow => by
        obtain ⟨entry, -, rfl⟩ := List.mem_map.mp hrow
        simp [bucketSums]
      split at hrow
      · obtain ⟨feature, hfeature, rfl⟩ := List.mem_map.mp hrow
        simp only [normalizeRow]
        split <;> simp [hfeatures feature hfeature]
      · exact hfeatures row hrow }

end SmolVlaQgf.TaskFeatures
