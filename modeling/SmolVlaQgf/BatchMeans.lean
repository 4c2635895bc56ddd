import Mathlib.Algebra.BigOperators.Group.List.Basic
import Mathlib.Algebra.Order.Field.Basic
import Mathlib.Data.List.Basic
import Mathlib.Tactic.LinearCombination
import Mathlib.Tactic.Ring

/-!
# Means over batches

A list cut into consecutive batches of one size, the last of which may be shorter. The mean of the
means of the batches weighs the entries of a short last batch more than the others, so it is the
mean of the list exactly if there is no such batch beside a full one or its mean is that of the
other entries.
-/

namespace SmolVlaQgf.BatchMeans

/-! ## Batches -/

section Batches

variable {α : Type}

def batch (size : ℕ) (xs : List α) (k : ℕ) : List α := (xs.drop (k * size)).take size

def batches (size : ℕ) (xs : List α) : List (List α) :=
  (List.range ((xs.length + size - 1) / size)).map (batch size xs)

def fullPart (size : ℕ) (xs : List α) : List α := xs.take (xs.length / size * size)

def lastPart (size : ℕ) (xs : List α) : List α := xs.drop (xs.length / size * size)

variable {size : ℕ} {xs : List α}

theorem length_fullPart (size : ℕ) (xs : List α) :
    (fullPart size xs).length = xs.length / size * size := by
  rw [fullPart, List.length_take, min_eq_left (Nat.div_mul_le_self _ _)]

theorem length_lastPart (size : ℕ) (xs : List α) :
    (lastPart size xs).length = xs.length % size := by
  rw [lastPart, List.length_drop, Nat.mod_eq_sub_div_mul]

theorem fullPart_append_lastPart (size : ℕ) (xs : List α) :
    fullPart size xs ++ lastPart size xs = xs := List.take_append_drop _ _

theorem batch_last (hsize : 0 < size) (xs : List α) :
    batch size xs (xs.length / size) = lastPart size xs := by
  apply List.take_of_length_le
  rw [← lastPart, length_lastPart]
  exact (Nat.mod_lt _ hsize).le

theorem length_batch {k : ℕ} (h : k < xs.length / size) : (batch size xs k).length = size := by
  have hle : (k + 1) * size ≤ xs.length :=
    (Nat.mul_le_mul_right size h).trans (Nat.div_mul_le_self _ _)
  rw [Nat.succ_mul] at hle
  rw [batch, List.length_take, List.length_drop]
  omega

theorem batches_of_dvd (hsize : 0 < size) (h : size ∣ xs.length) :
    batches size xs = (List.range (xs.length / size)).map (batch size xs) := by
  obtain ⟨m, hm⟩ := h
  have hcount : (xs.length + size - 1) / size = xs.length / size := by
    rw [hm, Nat.mul_div_cancel_left m hsize, Nat.add_sub_assoc hsize, Nat.mul_add_div hsize,
      Nat.div_eq_of_lt (Nat.sub_lt hsize Nat.one_pos), Nat.add_zero]
  rw [batches, hcount]

theorem batches_of_not_dvd (hsize : 0 < size) (h : ¬size ∣ xs.length) :
    batches size xs =
      (List.range (xs.length / size)).map (batch size xs) ++ [lastPart size xs] := by
  have hrest : 0 < xs.length % size := Nat.pos_of_ne_zero fun h0 => h (Nat.dvd_of_mod_eq_zero h0)
  have hlt := Nat.mod_lt xs.length hsize
  have hcount : (xs.length + size - 1) / size = xs.length / size + 1 := by
    have hsplit : xs.length + size - 1 =
        size * (xs.length / size + 1) + (xs.length % size - 1) := by
      have hdiv := Nat.div_add_mod xs.length size
      rw [Nat.mul_succ]
      omega
    have hless : xs.length % size - 1 < size := by omega
    rw [hsplit, Nat.mul_add_div hsize, Nat.div_eq_of_lt hless, Nat.add_zero]
  rw [batches, hcount, List.range_succ, List.map_append, List.map_singleton, batch_last hsize]

theorem flatten_first_batches (size : ℕ) (xs : List α) (m : ℕ) :
    ((List.range m).map (batch size xs)).flatten = xs.take (m * size) := by
  induction m with
  | zero => simp
  | succ m ih =>
    rw [List.range_succ, List.map_append, List.flatten_append, ih, Nat.succ_mul, List.take_add]
    simp [batch]

theorem flatten_batches (hsize : 0 < size) (xs : List α) : (batches size xs).flatten = xs := by
  by_cases h : size ∣ xs.length
  · rw [batches_of_dvd hsize h, flatten_first_batches, Nat.div_mul_cancel h, List.take_length]
  · rw [batches_of_not_dvd hsize h, List.flatten_append, flatten_first_batches,
      List.flatten_singleton]
    exact fullPart_append_lastPart size xs

theorem batches_eq_nil_iff (hsize : 0 < size) : batches size xs = [] ↔ xs = [] := by
  constructor
  · intro h
    rw [← flatten_batches hsize xs, h, List.flatten_nil]
  · rintro rfl
    rw [batches, List.length_nil, Nat.zero_add, Nat.div_eq_of_lt (Nat.sub_lt hsize Nat.one_pos)]
    rfl

theorem map_batches {β : Type} (f : α → β) (size : ℕ) (xs : List α) :
    (batches size xs).map (List.map f) = batches size (xs.map f) := by
  rw [batches, batches, List.map_map, List.length_map]
  refine List.map_congr_left fun k _ => ?_
  rw [Function.comp_apply, batch, batch, List.map_take, List.map_drop]

end Batches

/-! ## Means -/

section Means

variable {K : Type} [Field K] [LinearOrder K] [IsStrictOrderedRing K] {size : ℕ} {xs : List K}

omit [LinearOrder K] [IsStrictOrderedRing K] in
def mean (xs : List K) : K := xs.sum / xs.length

/-- There is no short last batch beside a full one, or it has the mean of the other entries. -/
def Balanced (size : ℕ) (xs : List K) : Prop :=
  xs.length ≤ size ∨ size ∣ xs.length ∨ mean (lastPart size xs) = mean (fullPart size xs)

omit [LinearOrder K] [IsStrictOrderedRing K] in
theorem sum_mean_first_batches {m : ℕ} (h : m ≤ xs.length / size) :
    (((List.range m).map (batch size xs)).map mean).sum = (xs.take (m * size)).sum / size := by
  induction m with
  | zero => simp
  | succ m ih =>
    rw [List.range_succ, List.map_append, List.map_append, List.sum_append,
      ih (Nat.le_of_succ_le h), Nat.succ_mul, List.take_add, List.sum_append, add_div]
    have hmean : mean (batch size xs m) = (batch size xs m).sum / size := by
      rw [mean, length_batch (Nat.lt_of_succ_le h)]
    rw [List.map_singleton, List.map_singleton, List.sum_singleton, hmean, batch]

omit [LinearOrder K] [IsStrictOrderedRing K] in
theorem sum_mean_fullPart (size : ℕ) (xs : List K) :
    (((List.range (xs.length / size)).map (batch size xs)).map mean).sum =
      (fullPart size xs).sum / size :=
  sum_mean_first_batches le_rfl

/-- Two means weighed by full batches and by entries. -/
theorem weighted_eq_iff {m full rest a b : K} (hm : 0 < m) (hrest : 0 < rest) (hlt : rest < full) :
    (a * m + b) / (m + 1) = (a * (m * full) + b * rest) / (m * full + rest) ↔ b = a := by
  have hpos : 0 < full := hrest.trans hlt
  have hleft : m + 1 ≠ 0 := (add_pos hm one_pos).ne'
  have hright : m * full + rest ≠ 0 := (add_pos (mul_pos hm hpos) hrest).ne'
  rw [div_eq_div_iff hleft hright]
  constructor
  · intro h
    have hzero : m * (full - rest) * (b - a) = 0 := by linear_combination h
    rcases mul_eq_zero.mp hzero with hfactor | hfactor
    · exact absurd hfactor (mul_pos hm (sub_pos.mpr hlt)).ne'
    · exact sub_eq_zero.mp hfactor
  · rintro rfl
    ring

omit [LinearOrder K] [IsStrictOrderedRing K] in
theorem sum_eq_mean_mul [CharZero K] (hxs : xs ≠ []) : xs.sum = mean xs * xs.length := by
  have hne : (xs.length : K) ≠ 0 := by
    exact_mod_cast (List.length_pos_of_ne_nil hxs).ne'
  rw [mean, div_mul_cancel₀ _ hne]

theorem sum_fullPart (hsize : 0 < size) (hsome : 0 < xs.length / size) :
    (fullPart size xs).sum = mean (fullPart size xs) * ((xs.length / size : ℕ) * size) := by
  have hne : fullPart size xs ≠ [] := by
    rw [← List.length_pos_iff, length_fullPart]
    exact Nat.mul_pos hsome hsize
  rw [sum_eq_mean_mul hne, length_fullPart, Nat.cast_mul]

/-- The mean of the batches weighs each of them alike. -/
theorem mean_batches_of_not_dvd (hsize : 0 < size) (hdvd : ¬size ∣ xs.length)
    (hsome : 0 < xs.length / size) :
    mean ((batches size xs).map mean) =
      (mean (fullPart size xs) * (xs.length / size : ℕ) + mean (lastPart size xs)) /
        ((xs.length / size : ℕ) + 1) := by
  have hne : (size : K) ≠ 0 := by exact_mod_cast hsize.ne'
  rw [batches_of_not_dvd hsize hdvd, List.map_append, mean, List.sum_append, sum_mean_fullPart,
    sum_fullPart hsize hsome, ← mul_assoc, mul_div_cancel_right₀ _ hne, List.map_singleton,
    List.sum_singleton, List.length_append, List.length_map, List.length_map, List.length_range,
    List.length_singleton, Nat.cast_add, Nat.cast_one]

/-- The mean of the list weighs each entry alike. -/
theorem mean_of_parts (hsize : 0 < size) (hdvd : ¬size ∣ xs.length)
    (hsome : 0 < xs.length / size) :
    mean xs = (mean (fullPart size xs) * ((xs.length / size : ℕ) * size) +
      mean (lastPart size xs) * (xs.length % size : ℕ)) /
        ((xs.length / size : ℕ) * size + (xs.length % size : ℕ)) := by
  have hne : lastPart size xs ≠ [] := by
    rw [← List.length_pos_iff, length_lastPart]
    exact Nat.pos_of_ne_zero fun h0 => hdvd (Nat.dvd_of_mod_eq_zero h0)
  have hlength : (xs.length : K) = (xs.length / size : ℕ) * size + (xs.length % size : ℕ) := by
    exact_mod_cast (Nat.div_add_mod' xs.length size).symm
  have hsum : xs.sum = (fullPart size xs).sum + (lastPart size xs).sum := by
    rw [← List.sum_append, fullPart_append_lastPart]
  rw [mean, hsum, sum_fullPart hsize hsome, sum_eq_mean_mul hne, length_lastPart, hlength]

/-- The mean of the means of the batches is the mean of the list exactly if the list is
balanced. -/
theorem mean_batches_iff (hsize : 0 < size) (hxs : xs ≠ []) :
    mean ((batches size xs).map mean) = mean xs ↔ Balanced size xs := by
  have hlength : 0 < xs.length := List.length_pos_of_ne_nil hxs
  have hsplit := Nat.div_add_mod xs.length size
  by_cases hdvd : size ∣ xs.length
  · refine iff_of_true ?_ (Or.inr (Or.inl hdvd))
    have hfull : fullPart size xs = xs := by
      rw [fullPart, Nat.div_mul_cancel hdvd, List.take_length]
    have hcast : ((xs.length / size : ℕ) : K) * size = xs.length := by
      exact_mod_cast Nat.div_mul_cancel hdvd
    rw [batches_of_dvd hsize hdvd, mean, sum_mean_fullPart, hfull, List.length_map, List.length_map,
      List.length_range, div_div, mul_comm, hcast, mean]
  · have hrest : 0 < xs.length % size :=
      Nat.pos_of_ne_zero fun h0 => hdvd (Nat.dvd_of_mod_eq_zero h0)
    have hless := Nat.mod_lt xs.length hsize
    rcases Nat.eq_zero_or_pos (xs.length / size) with hnone | hsome
    · -- A single short batch is the whole list.
      have hle : xs.length ≤ size := by
        rw [hnone] at hsplit
        omega
      refine iff_of_true ?_ (Or.inl hle)
      have hall : lastPart size xs = xs := by rw [lastPart, hnone, Nat.zero_mul, List.drop_zero]
      rw [batches_of_not_dvd hsize hdvd, hnone, hall]
      simp [mean]
    · have hlong : ¬xs.length ≤ size := by
        have hmul := Nat.le_mul_of_pos_right size hsome
        omega
      rw [Balanced, or_iff_right hlong, or_iff_right hdvd, mean_batches_of_not_dvd hsize hdvd hsome,
        mean_of_parts hsize hdvd hsome]
      exact weighted_eq_iff (by exact_mod_cast hsome) (by exact_mod_cast hrest)
        (by exact_mod_cast hless)

end Means

end SmolVlaQgf.BatchMeans
