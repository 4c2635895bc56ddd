import Mathlib.Data.List.Dedup
import Mathlib.Data.List.Sort
import Mathlib.Data.Rat.Floor
import SmolVlaQgf.PeriodicRepresentatives

/-!
# The frames a checkpoint is validated on

`deterministic_indices` spreads the requested number of frames over a dataset by rounding equally
spaced fractions. The spacing is at least one; if it is exactly one the fractions are integers,
and otherwise no two of them are rounded to the same frame.
-/

namespace SmolVlaQgf.ValidationFrames
open PeriodicRepresentatives

/-- The exceptions of `deterministic_indices`. -/
inductive FrameError where
  | emptyDataset
  deriving DecidableEq

def FrameError.message : FrameError → String
  | .emptyDataset => "dataset is empty"

/-- `sorted(set(values))` -/
def sortedSet (values : List ℤ) : List ℤ := values.dedup.insertionSort (· ≤ ·)

def frameCount (length count : ℤ) : ℤ := min (max 1 count) length

def frameAt (length count : ℤ) (index : ℕ) : ℤ :=
  roundHalfEven ((index * (length - 1) : ℚ) / (count - 1))

/-- `deterministic_indices` -/
def deterministicIndices (length count : ℤ) : Except FrameError (List ℤ) :=
  if length ≤ 0 then .error .emptyDataset
  else if frameCount length count = 1 then .ok [length / 2]
  else .ok (sortedSet ((List.range (frameCount length count).toNat).map
    (frameAt length (frameCount length count))))

private theorem sortedSet_of_ascending {values : List ℤ} (h : values.Pairwise (· < ·)) :
    sortedSet values = values := by
  have hnodup : values.Nodup := h.imp ne_of_lt
  rw [sortedSet, hnodup.dedup]
  exact List.Pairwise.insertionSort_eq (h.imp le_of_lt)

section Frames

variable {length count : ℤ}

/-- As many frames as the dataset has are all of them. -/
theorem frameAt_of_all (h : 2 ≤ length) (index : ℕ) : frameAt length length index = index := by
  have hne : (length - 1 : ℚ) ≠ 0 := by
    have hlt : (1 : ℚ) < length := by exact_mod_cast h
    exact (sub_pos.mpr hlt).ne'
  rw [frameAt, mul_div_assoc, div_self hne, mul_one]
  exact roundHalfEven_intCast (index : ℤ)

/-- Between fewer frames the fractions are more than one apart. -/
theorem frameAt_lt (h : 2 ≤ count) (hlt : count < length) {i j : ℕ} (hij : i < j) :
    frameAt length count i < frameAt length count j := by
  have hpos : (0 : ℚ) < count - 1 := by
    have hone : (1 : ℚ) < count := by exact_mod_cast h
    exact sub_pos.mpr hone
  have hspacing : (count - 1 : ℚ) < length - 1 := by
    have hcast : (count : ℚ) < length := by exact_mod_cast hlt
    linarith
  have hstep : (i : ℚ) + 1 ≤ j := by exact_mod_cast hij
  apply roundHalfEven_lt_of_add_one_lt
  rw [lt_div_iff₀ hpos, add_mul, div_mul_cancel₀ _ hpos.ne', one_mul]
  calc (i : ℚ) * (length - 1) + (count - 1) < i * (length - 1) + (length - 1) :=
        add_lt_add_right hspacing _
    _ = (i + 1) * (length - 1) := by ring
    _ ≤ j * (length - 1) := mul_le_mul_of_nonneg_right hstep (hpos.trans hspacing).le

private theorem frameAt_ascending (h : 2 ≤ count) (hle : count ≤ length) {i j : ℕ} (hij : i < j) :
    frameAt length count i < frameAt length count j := by
  rcases hle.lt_or_eq with hlt | rfl
  · exact frameAt_lt h hlt hij
  · rw [frameAt_of_all h, frameAt_of_all h]
    exact_mod_cast hij

private theorem frameAt_zero : frameAt length count 0 = 0 := by
  have hzero := roundHalfEven_intCast (K := ℚ) 0
  rw [Int.cast_zero] at hzero
  rw [frameAt, Nat.cast_zero, zero_mul, zero_div, hzero]

private theorem frameAt_last (h : 2 ≤ count) :
    frameAt length count (count - 1).toNat = length - 1 := by
  have hcast : (((count - 1).toNat : ℕ) : ℚ) = count - 1 := by
    have hint : (((count - 1).toNat : ℕ) : ℤ) = count - 1 := Int.toNat_of_nonneg (by omega)
    exact_mod_cast congrArg (Int.cast : ℤ → ℚ) hint
  have hne : (count - 1 : ℚ) ≠ 0 := by
    have hone : (1 : ℚ) < count := by exact_mod_cast h
    exact (sub_pos.mpr hone).ne'
  have hround := roundHalfEven_intCast (K := ℚ) (length - 1)
  push_cast at hround
  rw [frameAt, hcast, mul_div_cancel_left₀ _ hne, hround]

end Frames

/-- What a selection of frames should be. -/
structure Spread (length count : ℤ) (indices : List ℤ) : Prop where
  ascending : indices.Pairwise (· < ·)
  count : (indices.length : ℤ) = min (max 1 count) length
  range : ∀ index ∈ indices, 0 ≤ index ∧ index ≤ length - 1
  ends : 2 ≤ indices.length → 0 ∈ indices ∧ length - 1 ∈ indices

private theorem spread_middle {length count : ℤ} (h : 1 ≤ length)
    (hone : frameCount length count = 1) :
    Spread length count [length / 2] := by
  constructor
  · exact List.pairwise_singleton _ _
  · exact hone.symm
  · intro index hindex
    rw [List.mem_singleton] at hindex
    omega
  · intro htwo
    simp at htwo

private theorem spread_frames {length count : ℤ} (htwo : 2 ≤ frameCount length count) :
    Spread length count ((List.range (frameCount length count).toNat).map
      (frameAt length (frameCount length count))) := by
  have hle : frameCount length count ≤ length := min_le_right _ _
  have hlast : ((frameCount length count - 1).toNat) < (frameCount length count).toNat := by omega
  have hzero : 0 < (frameCount length count).toNat := by omega
  constructor
  · rw [List.pairwise_map]
    exact List.pairwise_lt_range.imp fun hij => frameAt_ascending htwo hle hij
  · rw [List.length_map, List.length_range, Int.toNat_of_nonneg (by omega), frameCount]
  · intro index hindex
    obtain ⟨i, hi, rfl⟩ := List.mem_map.mp hindex
    rw [List.mem_range] at hi
    constructor
    · rcases Nat.eq_zero_or_pos i with rfl | hpos
      · exact frameAt_zero.ge
      · exact (frameAt_zero.symm.le.trans_lt (frameAt_ascending htwo hle hpos)).le
    · rw [← frameAt_last htwo]
      rcases Nat.lt_or_ge i (frameCount length count - 1).toNat with hlt | hge
      · exact (frameAt_ascending htwo hle hlt).le
      · obtain rfl : i = (frameCount length count - 1).toNat := by omega
        exact le_rfl
  · intro _
    exact ⟨List.mem_map.mpr ⟨0, List.mem_range.mpr hzero, frameAt_zero⟩,
      List.mem_map.mpr ⟨_, List.mem_range.mpr hlast, frameAt_last htwo⟩⟩

/-- The requested number of frames, clamped to the dataset, from its first to its last. -/
theorem deterministicIndices_spread {length : ℤ} (h : 1 ≤ length) (count : ℤ) :
    ∃ indices, deterministicIndices length count = .ok indices ∧ Spread length count indices := by
  rw [deterministicIndices, if_neg (by omega)]
  by_cases hone : frameCount length count = 1
  · exact ⟨_, if_pos hone, spread_middle h hone⟩
  · have htwo : 2 ≤ frameCount length count := by
      have hle : 1 ≤ frameCount length count := le_min (le_max_left _ _) h
      omega
    have hspread := spread_frames htwo
    refine ⟨_, if_neg hone, ?_⟩
    rw [sortedSet_of_ascending hspread.ascending]
    exact hspread

example : deterministicIndices 6 3 = .ok [0, 2, 5] := by decide +kernel

theorem three_of_six_frames :
    ∃ indices, deterministicIndices 6 3 = .ok indices ∧ Spread 6 3 indices :=
  deterministicIndices_spread (by decide) 3

end SmolVlaQgf.ValidationFrames
