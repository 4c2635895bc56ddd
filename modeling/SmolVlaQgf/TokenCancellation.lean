import SmolVlaQgf.TokenBags
import Mathlib.Analysis.Real.Sqrt
import Mathlib.Data.Multiset.Count

/-!
# Tokens that cancel

An odd token adds one to its bucket and an even token subtracts one. For an even dimension the
parity of a bucket is the opposite of the parity of its tokens, so nothing cancels and a row is
normalized to norm one. For an odd dimension tokens of both parities share buckets, and a row
whose buckets are all balanced is zero.
-/

namespace SmolVlaQgf.TokenCancellation
open Tensors TaskFeatures TokenBags

/-! ## Token arithmetic -/

/-- The product and the sum of the bucket stay within 64 bits. -/
def InRange (token : ℤ) : Prop := 0 ≤ token ∧ token * 1000003 + 97531 < 9223372036854775808

private theorem wrapInt64_emod_two (x : ℤ) : wrapInt64 x % 2 = x % 2 := by
  have hmod : wrapInt64 x % 18446744073709551616 = x % 18446744073709551616 := Int.bmod_emod
  omega

private theorem wrapInt64_of_lt {x : ℤ} (h0 : 0 ≤ x) (h1 : x < 9223372036854775808) :
    wrapInt64 x = x :=
  Int.bmod_eq_of_le_mul_two (by omega) (by omega)

private theorem bucket_of_inRange {token : ℤ} (h : InRange token) (featureDim : ℤ) :
    bucket featureDim token = (token * 1000003 + 97531) % featureDim := by
  obtain ⟨h0, h1⟩ := h
  have hproduct : wrapInt64 (token * 1000003) = token * 1000003 :=
    wrapInt64_of_lt (by omega) (by omega)
  rw [bucket, hproduct, wrapInt64_of_lt (by omega) h1]

/-- The multiplier and the offset of the sign are odd, so the sign is that of the parity. -/
theorem signedMask_true (K : Type) [Field K] (token : ℤ) :
    (signedMask token true : K) = if token % 2 = 1 then 1 else -1 := by
  have hparity : wrapInt64 (wrapInt64 (token * 91739) + 19993) % 2 = 0 ↔ token % 2 = 1 := by
    have hproduct : wrapInt64 (token * 91739) % 2 = token % 2 := by
      rw [wrapInt64_emod_two, Int.mul_emod]
      simp
    rw [wrapInt64_emod_two]
    omega
  simp only [signedMask, if_true, hparity]

/-- For an even dimension a bucket and its tokens have opposite parities. -/
theorem bucket_emod_two {featureDim : ℤ} (heven : featureDim % 2 = 0) {token : ℤ}
    (h : InRange token) : bucket featureDim token % 2 = (token + 1) % 2 := by
  rw [bucket_of_inRange h, Int.emod_emod_of_dvd _ (Int.dvd_of_emod_eq_zero heven)]
  omega

/-! ## Balanced buckets -/

def parityCount (featureDim : ℤ) (index : ℕ) (parity : ℤ) (tokens : List ℤ) : ℕ :=
  tokens.countP fun token => bucket featureDim token = index ∧ token % 2 = parity

def Balanced (featureDim : ℤ) (tokens : List ℤ) : Prop :=
  ∀ index < featureDim.toNat,
    parityCount featureDim index 1 tokens = parityCount featureDim index 0 tokens

instance (featureDim : ℤ) (tokens : List ℤ) : Decidable (Balanced featureDim tokens) :=
  inferInstanceAs (Decidable (∀ index < featureDim.toNat, _))

/-- The entry of a bucket before normalization. -/
def balance (featureDim : ℤ) (index : ℕ) (tokens : List ℤ) : ℤ :=
  parityCount featureDim index 1 tokens - parityCount featureDim index 0 tokens

private theorem parityCount_cons (featureDim : ℤ) (index : ℕ) (parity token : ℤ) (tokens : List ℤ) :
    parityCount featureDim index parity (token :: tokens) =
      parityCount featureDim index parity tokens +
        if bucket featureDim token = index ∧ token % 2 = parity then 1 else 0 := by
  simp only [parityCount, List.countP_cons, decide_eq_true_eq]

theorem balance_cons (featureDim : ℤ) (index : ℕ) (token : ℤ) (tokens : List ℤ) :
    balance featureDim index (token :: tokens) =
      (if bucket featureDim token = index then if token % 2 = 1 then 1 else -1 else 0) +
        balance featureDim index tokens := by
  rw [balance, parityCount_cons, parityCount_cons, balance]
  split_ifs <;> omega

private theorem bagSum_eq_balance (K : Type) [Field K] (featureDim : ℤ) (index : ℕ)
    (tokens : List ℤ) :
    bagSum K featureDim index (tokens : Multiset ℤ) = (balance featureDim index tokens : K) := by
  induction tokens with
  | nil => simp [bagSum, balance, parityCount]
  | cons token tokens ih =>
    have hcons : ((token :: tokens : List ℤ) : Multiset ℤ) = {token} + (tokens : Multiset ℤ) := rfl
    rw [hcons, bagSum_add, ih, bagSum, Multiset.map_singleton, Multiset.sum_singleton,
      signedMask_true, balance_cons, Int.cast_add]
    push_cast
    rfl

/-- For an even dimension no bucket that holds a token is balanced. -/
theorem not_balanced_of_even {featureDim : ℤ} (hdim : 1 ≤ featureDim)
    (heven : featureDim % 2 = 0) {tokens : List ℤ} (hne : tokens ≠ [])
    (h : ∀ token ∈ tokens, InRange token) : ¬Balanced featureDim tokens := by
  intro hbalanced
  obtain ⟨token, htoken⟩ := List.exists_mem_of_ne_nil tokens hne
  have hnonneg : 0 ≤ bucket featureDim token := Int.emod_nonneg _ (by omega)
  have hlt : bucket featureDim token < featureDim := Int.emod_lt_of_pos _ (by omega)
  have hindex : bucket featureDim token = (bucket featureDim token).toNat := by omega
  have hequal := hbalanced (bucket featureDim token).toNat (by omega)
  -- All tokens of the bucket have the parity of this one.
  have hparity : ∀ other ∈ tokens, bucket featureDim other = (bucket featureDim token).toNat →
      other % 2 = token % 2 := by
    intro other hother hsame
    have hfirst := bucket_emod_two heven (h token htoken)
    have hsecond := bucket_emod_two heven (h other hother)
    rw [hsame, ← hindex] at hsecond
    omega
  have hcount : ∀ parity, parity = token % 2 →
      0 < parityCount featureDim (bucket featureDim token).toNat parity tokens := by
    intro parity hp
    refine List.countP_pos_iff.mpr ⟨token, htoken, ?_⟩
    exact decide_eq_true ⟨hindex, hp.symm⟩
  have hnone : ∀ parity, parity ≠ token % 2 →
      parityCount featureDim (bucket featureDim token).toNat parity tokens = 0 := by
    intro parity hp
    refine List.countP_eq_zero.mpr fun other hother => ?_
    rw [decide_eq_true_eq]
    rintro ⟨hsame, rfl⟩
    exact hp (hparity other hother hsame)
  rcases Int.emod_two_eq_zero_or_one token with hzero | hone
  · have hpos := hcount 0 hzero.symm
    have hnot := hnone 1 (by omega)
    omega
  · have hpos := hcount 1 hone.symm
    have hnot := hnone 0 (by omega)
    omega

/-! ## Norms -/

noncomputable def rowNorm (row : List ℝ) : ℝ := √(row.map fun value => value * value).sum

private theorem normFloor_pos : (0 : ℝ) < normFloor := by
  rw [normFloor]
  exact inv_pos.mpr (Nat.cast_pos.mpr (by omega))

/-- A row that is not below the floor is divided by its norm. -/
theorem rowNorm_normalizeRow {row : List ℝ} (h : normFloor ≤ rowNorm row) :
    rowNorm (normalizeRow Real.sqrt row) = 1 := by
  have hpos : 0 < rowNorm row := lt_of_lt_of_le normFloor_pos h
  have hrow : normalizeRow Real.sqrt row = row.map fun value => value / rowNorm row := by
    rw [normalizeRow, ← rowNorm, max_eq_left h]
    exact if_pos hpos
  have hsquare : rowNorm row * rowNorm row = (row.map fun value => value * value).sum :=
    Real.mul_self_sqrt (Real.sqrt_pos.mp hpos).le
  have hsum : ((row.map fun value => value / rowNorm row).map fun value => value * value).sum =
      (row.map fun value => value * value).sum * (rowNorm row * rowNorm row)⁻¹ := by
    rw [List.map_map, ← List.sum_map_mul_right]
    refine congrArg List.sum (List.map_congr_left fun value _ => ?_)
    simp only [Function.comp_apply, div_eq_mul_inv, mul_inv]
    ring
  rw [hrow, rowNorm, hsum, ← hsquare, mul_inv_cancel₀ (mul_pos hpos hpos).ne', Real.sqrt_one]

theorem normalizeRow_of_zero {row : List ℝ} (h : ∀ value ∈ row, value = 0) :
    ∀ value ∈ normalizeRow Real.sqrt row, value = 0 := by
  intro value hvalue
  rw [normalizeRow] at hvalue
  split_ifs at hvalue
  · obtain ⟨entry, hentry, rfl⟩ := List.mem_map.mp hvalue
    rw [h entry hentry, zero_div]
  · exact h value hvalue

private theorem rowNorm_of_zero {row : List ℝ} (h : ∀ value ∈ row, value = 0) :
    rowNorm row = 0 := by
  have hsquares : ∀ square ∈ row.map fun value => value * value, square = 0 := by
    intro square hsquare
    obtain ⟨value, hvalue, rfl⟩ := List.mem_map.mp hsquare
    rw [h value hvalue, mul_zero]
  rw [rowNorm, List.sum_eq_zero hsquares, Real.sqrt_zero]

/-- A row of integers that is not zero has at least the norm one. -/
theorem one_le_rowNorm {entries : List ℤ} {entry : ℤ} (hmem : entry ∈ entries) (hne : entry ≠ 0) :
    1 ≤ rowNorm (entries.map (Int.cast : ℤ → ℝ)) := by
  have hcast : ((entries.map (Int.cast : ℤ → ℝ)).map fun value => value * value).sum =
      ((entries.map fun value => value * value).sum : ℤ) := by
    rw [Int.cast_list_sum, List.map_map, List.map_map]
    refine congrArg List.sum (List.map_congr_left fun value _ => ?_)
    simp
  have hle : entry * entry ≤ (entries.map fun value => value * value).sum := by
    refine List.single_le_sum (fun square hsquare => ?_) _ (List.mem_map.mpr ⟨entry, hmem, rfl⟩)
    obtain ⟨value, -, rfl⟩ := List.mem_map.mp hsquare
    exact mul_self_nonneg value
  have hone : 1 ≤ (entries.map fun value => value * value).sum :=
    (Int.add_one_le_of_lt (mul_self_pos.mpr hne)).trans hle
  rw [rowNorm, hcast]
  exact Real.one_le_sqrt.mpr (by exact_mod_cast hone)

/-! ## Hashed rows -/

variable {featureDim : ℤ}

/-- The entries of a row before normalization. -/
def balances (featureDim : ℤ) (tokens : List ℤ) : List ℤ :=
  (List.range featureDim.toNat).map fun index => balance featureDim index tokens

private theorem bagFeatures_eq (tokens : List ℤ) :
    bagFeatures Real.sqrt featureDim true (tokens : Multiset ℤ) =
      normalizeRow Real.sqrt ((balances featureDim tokens).map (Int.cast : ℤ → ℝ)) := by
  simp only [bagFeatures, if_true, bagSum_eq_balance, balances, List.map_map, Function.comp_def]

private theorem rowNorm_of_not_balanced {tokens : List ℤ} (h : ¬Balanced featureDim tokens) :
    rowNorm (bagFeatures Real.sqrt featureDim true (tokens : Multiset ℤ)) = 1 := by
  rw [Balanced] at h
  push Not at h
  obtain ⟨index, hlt, hne⟩ := h
  have hmem : balance featureDim index tokens ∈ balances featureDim tokens :=
    List.mem_map.mpr ⟨index, List.mem_range.mpr hlt, rfl⟩
  have hbalance : balance featureDim index tokens ≠ 0 := by
    rw [balance]
    omega
  have hfloor : (normFloor : ℝ) ≤ 1 := by
    rw [normFloor]
    exact inv_le_one_of_one_le₀ (Nat.one_le_cast.mpr (by omega))
  rw [bagFeatures_eq]
  exact rowNorm_normalizeRow (hfloor.trans (one_le_rowNorm hmem hbalance))

private theorem eq_zero_of_balanced {tokens : List ℤ} (h : Balanced featureDim tokens) :
    ∀ value ∈ bagFeatures Real.sqrt featureDim true (tokens : Multiset ℤ), value = 0 := by
  rw [bagFeatures_eq]
  refine normalizeRow_of_zero fun value hvalue => ?_
  obtain ⟨entry, hentry, rfl⟩ := List.mem_map.mp hvalue
  obtain ⟨index, hlt, rfl⟩ := List.mem_map.mp hentry
  have hequal := h index (List.mem_range.mp hlt)
  rw [balance, hequal, sub_self, Int.cast_zero]

/-- A row with unmasked tokens is normalized to norm one, always for an even dimension, and for an
odd one unless all of its buckets are balanced; then it is zero. -/
theorem hashed_norm (hdim : 1 ≤ featureDim) {tokenIds : Tensor ℤ}
    {attentionMask : Option (Tensor Bool)} {rows : List (List ℤ)}
    (h : unmaskedRows tokenIds attentionMask = .ok rows) :
    ∃ features, hashTokenFeatures Real.sqrt tokenIds attentionMask featureDim true = .ok features ∧
      ∀ (i : ℕ) tokens, rows[i]? = some tokens → tokens ≠ [] →
        (∀ token ∈ tokens, InRange token) →
        ∃ feature, features.rows[i]? = some feature ∧
          (featureDim % 2 = 0 → rowNorm feature = 1) ∧
          (¬Balanced featureDim tokens → rowNorm feature = 1) ∧
          (Balanced featureDim tokens → ∀ value ∈ feature, value = 0) := by
  obtain ⟨features, hfeatures, hrows⟩ := exists_features hdim h Real.sqrt true
  refine ⟨features, hfeatures, fun i tokens htokens hne hrange => ?_⟩
  refine ⟨bagFeatures Real.sqrt featureDim true (tokens : Multiset ℤ), ?_, fun heven => ?_,
    rowNorm_of_not_balanced, eq_zero_of_balanced⟩
  · rw [hrows, List.getElem?_map, htokens, Option.map_some]
  · exact rowNorm_of_not_balanced (not_balanced_of_even hdim heven hne hrange)

/-! ## Two rows -/

theorem sixteen_buckets :
    ∃ features, hashTokenFeatures Real.sqrt (.vector [5, 7, 0])
        (some (.vector [true, true, false])) 16 true = .ok features ∧
      ∃ feature, features.rows[0]? = some feature ∧ rowNorm feature = 1 := by
  obtain ⟨features, hfeatures, hnorms⟩ := hashed_norm (by omega : (1 : ℤ) ≤ 16)
    (unmaskedRows_vector [5, 7, 0] [true, true, false] rfl)
  obtain ⟨feature, hfeature, heven, -⟩ := hnorms 0 [5, 7] rfl (List.cons_ne_nil _ _) (by
    intro token htoken
    simp only [List.mem_cons, List.not_mem_nil, or_false] at htoken
    rcases htoken with rfl | rfl <;> constructor <;> omega)
  exact ⟨features, hfeatures, feature, hfeature, heven rfl⟩

/-- With one bucket the tokens zero and one cancel. -/
theorem zero_and_one_cancel :
    ∃ features, hashTokenFeatures Real.sqrt (.vector [0, 1]) (some (.vector [true, true])) 1 true =
        .ok features ∧
      InRange 0 ∧ InRange 1 ∧
      ∃ feature, features.rows[0]? = some feature ∧ (∀ value ∈ feature, value = 0) ∧
        rowNorm feature ≠ 1 := by
  obtain ⟨features, hfeatures, hrows⟩ := exists_features (by omega : (1 : ℤ) ≤ 1)
    (unmaskedRows_vector [0, 1] [true, true] rfl) Real.sqrt true
  have hbalanced : Balanced 1 (unmasked [0, 1] [true, true]) := by decide
  have hzero := eq_zero_of_balanced hbalanced
  refine ⟨features, hfeatures, by constructor <;> omega, by constructor <;> omega,
    bagFeatures Real.sqrt 1 true (unmasked [0, 1] [true, true] : Multiset ℤ), ?_, hzero, ?_⟩
  · rw [hrows]
    rfl
  · rw [rowNorm_of_zero hzero]
    exact zero_ne_one

end SmolVlaQgf.TokenCancellation
