import Mathlib.Data.List.Lex
import Mathlib.Data.Nat.Digits.Lemmas
import Mathlib.Order.Lattice
import SmolVlaQgf.PeriodicRepresentatives

/-!
# Decimal text

The decimal forms that formatted strings and file names are made of: plain and
zero-padded naturals, signed integers and fixed-point numbers. Padded numbers of
one width are ordered as their values are, and only sign, point and digit
characters occur in any of these texts.
-/

namespace SmolVlaQgf.DecimalText
open PeriodicRepresentatives

def digitChar (d : ℕ) : Char := Char.ofNat (48 + d)

theorem digitChar_toNat {d : ℕ} (h : d < 10) : (digitChar d).toNat = 48 + d := by
  interval_cases d <;> rfl

theorem digitChar_lt_iff {d e : ℕ} (hd : d < 10) (he : e < 10) :
    digitChar d < digitChar e ↔ d < e := by
  rw [Char.lt_def, UInt32.lt_iff_toNat_lt]
  change (digitChar d).toNat < (digitChar e).toNat ↔ d < e
  rw [digitChar_toNat hd, digitChar_toNat he]
  omega

theorem digitChar_inj {d e : ℕ} (hd : d < 10) (he : e < 10) :
    digitChar d = digitChar e ↔ d = e := by
  constructor
  · intro h
    have h' := congrArg Char.toNat h
    rw [digitChar_toNat hd, digitChar_toNat he] at h'
    omega
  · rintro rfl
    rfl

/-- The ASCII digits, as the character class `[0-9]`. -/
def isDigit (c : Char) : Bool := '0' ≤ c && c ≤ '9'

theorem isDigit_digitChar {d : ℕ} (h : d < 10) : isDigit (digitChar d) = true := by
  interval_cases d <;> rfl

/-- `str(n)` of a natural number. -/
def decimal (n : ℕ) : List Char :=
  if n = 0 then ['0'] else (Nat.digits 10 n).reverse.map digitChar

/-- `str(n)` of an integer. -/
def decimalInt (n : ℤ) : List Char :=
  if n < 0 then '-' :: decimal n.natAbs else decimal n.natAbs

/-- Exactly `width` digits, the most significant first. -/
def paddedDecimal : ℕ → ℕ → List Char
  | 0, _ => []
  | width + 1, n => digitChar (n / 10 ^ width % 10) :: paddedDecimal width n

/-- The format `0width` of a natural number: padded, but never truncated. -/
def zeroFilled (width n : ℕ) : List Char :=
  if n < 10 ^ width then paddedDecimal width n else decimal n

def digitsValue (text : List Char) : ℕ := text.foldl (fun value c => 10 * value + (c.toNat - 48)) 0

variable {K : Type*} [Field K] [LinearOrder K] [FloorRing K]

/-- The format `.digitsf` of an exact number, rounded half to even. -/
def fixedPoint (digits : ℕ) (x : K) : List Char :=
  let scaled := (roundHalfEven (|x| * 10 ^ digits)).toNat
  let magnitude := decimal (scaled / 10 ^ digits) ++ '.' :: paddedDecimal digits scaled
  if x < 0 then '-' :: magnitude else magnitude

/-- The format `+.digitsf`: the sign is always written. -/
def signedFixedPoint (digits : ℕ) (x : K) : List Char :=
  if x < 0 then fixedPoint digits x else '+' :: fixedPoint digits x

/-! ## Characters -/

theorem isDigit_of_mem_decimal {n : ℕ} {c : Char} (h : c ∈ decimal n) : isDigit c = true := by
  rw [decimal] at h
  split at h
  · obtain rfl : c = '0' := by simpa using h
    rfl
  · obtain ⟨d, hd, rfl⟩ := List.mem_map.mp h
    exact isDigit_digitChar (Nat.digits_lt_base (by omega) (List.mem_reverse.mp hd))

theorem isDigit_of_mem_paddedDecimal {width n : ℕ} {c : Char} (h : c ∈ paddedDecimal width n) :
    isDigit c = true := by
  induction width with
  | zero => simp [paddedDecimal] at h
  | succ width ih =>
    rcases List.mem_cons.mp h with rfl | h
    · exact isDigit_digitChar (Nat.mod_lt _ (by omega))
    · exact ih h

theorem mem_fixedPoint {digits : ℕ} {x : K} {c : Char} (h : c ∈ fixedPoint digits x) :
    c = '-' ∨ c = '.' ∨ isDigit c = true := by
  have hmagnitude : ∀ n m : ℕ, c ∈ decimal n ++ '.' :: paddedDecimal digits m →
      c = '.' ∨ isDigit c = true := by
    intro n m hc
    rcases List.mem_append.mp hc with hc | hc
    · exact Or.inr (isDigit_of_mem_decimal hc)
    · rcases List.mem_cons.mp hc with rfl | hc
      · exact Or.inl rfl
      · exact Or.inr (isDigit_of_mem_paddedDecimal hc)
  simp only [fixedPoint] at h
  split at h
  · rcases List.mem_cons.mp h with rfl | h
    · exact Or.inl rfl
    · exact Or.inr (hmagnitude _ _ h)
  · exact Or.inr (hmagnitude _ _ h)

/-! ## Padded numbers -/

@[simp] theorem length_paddedDecimal (width n : ℕ) : (paddedDecimal width n).length = width := by
  induction width with
  | zero => rfl
  | succ width ih => simp [paddedDecimal, ih]

/-- Padded numbers of one width compare as their values do. -/
theorem paddedDecimal_lt_iff (width m n : ℕ) :
    paddedDecimal width m < paddedDecimal width n ↔ m % 10 ^ width < n % 10 ^ width := by
  induction width with
  | zero => simp [paddedDecimal, Nat.mod_one]
  | succ width ih =>
    have hm : m / 10 ^ width % 10 < 10 := Nat.mod_lt _ (by omega)
    have hn : n / 10 ^ width % 10 < 10 := Nat.mod_lt _ (by omega)
    have hrm : m % 10 ^ width < 10 ^ width := Nat.mod_lt _ (by positivity)
    have hrn : n % 10 ^ width < 10 ^ width := Nat.mod_lt _ (by positivity)
    simp only [paddedDecimal, List.cons_lt_cons_iff, ih, digitChar_lt_iff hm hn,
      digitChar_inj hm hn, Nat.mod_pow_succ]
    generalize m / 10 ^ width % 10 = a at *
    generalize n / 10 ^ width % 10 = b at *
    generalize m % 10 ^ width = r at *
    generalize n % 10 ^ width = s at *
    constructor
    · rintro (hab | ⟨rfl, hrs⟩)
      · nlinarith
      · omega
    · intro h
      rcases lt_trichotomy a b with hab | rfl | hab
      · exact Or.inl hab
      · exact Or.inr ⟨rfl, by omega⟩
      · exfalso
        nlinarith

private theorem digitsValue_cons (c : Char) (text : List Char) :
    digitsValue (c :: text) = (c.toNat - 48) * 10 ^ text.length + digitsValue text := by
  have hfold : ∀ (text : List Char) (start : ℕ),
      text.foldl (fun value c => 10 * value + (c.toNat - 48)) start =
        start * 10 ^ text.length + digitsValue text := by
    intro text
    induction text with
    | nil => simp [digitsValue]
    | cons d text ih =>
      intro start
      have h0 := ih (10 * 0 + (d.toNat - 48))
      have h1 := ih (10 * start + (d.toNat - 48))
      simp only [digitsValue, List.foldl_cons, List.length_cons, pow_succ] at *
      rw [h0, h1]
      ring
  simpa [digitsValue] using hfold text (c.toNat - 48)

theorem digitsValue_paddedDecimal (width n : ℕ) :
    digitsValue (paddedDecimal width n) = n % 10 ^ width := by
  induction width with
  | zero => simp [paddedDecimal, digitsValue, Nat.mod_one]
  | succ width ih =>
    rw [paddedDecimal, digitsValue_cons, digitChar_toNat (Nat.mod_lt _ (by omega)), ih,
      length_paddedDecimal, Nat.mod_pow_succ, Nat.add_sub_cancel_left]
    ring

/-- A number of more than `width` digits. -/
theorem lt_length_decimal {width n : ℕ} (h : 10 ^ width ≤ n) : width < (decimal n).length := by
  have hpos : n ≠ 0 := by
    have hpower : 0 < 10 ^ width := Nat.pow_pos (by omega)
    omega
  rw [decimal, if_neg hpos, List.length_map, List.length_reverse]
  exact (Nat.lt_digits_length_iff (by omega) n).mpr h

theorem digitChar_of_isDigit {c : Char} (h : isDigit c = true) :
    c.toNat - 48 < 10 ∧ digitChar (c.toNat - 48) = c := by
  simp only [isDigit, Bool.and_eq_true, decide_eq_true_eq, Char.le_def, UInt32.le_iff_toNat_le] at h
  have hlow : 48 ≤ c.toNat := h.1
  have hhigh : c.toNat ≤ 57 := h.2
  refine ⟨by omega, ?_⟩
  rw [digitChar, Nat.add_sub_cancel' hlow, Char.ofNat_toNat]

theorem digitsValue_lt {text : List Char} (h : ∀ c ∈ text, isDigit c = true) :
    digitsValue text < 10 ^ text.length := by
  induction text with
  | nil => simp [digitsValue]
  | cons c text ih =>
    obtain ⟨hc, htext⟩ := List.forall_mem_cons.mp h
    have hlt := ih htext
    have hdigit := (digitChar_of_isDigit hc).1
    rw [digitsValue_cons, List.length_cons, pow_succ]
    nlinarith

theorem paddedDecimal_digitsValue {text : List Char} (h : ∀ c ∈ text, isDigit c = true) (n : ℕ) :
    paddedDecimal text.length (n * 10 ^ text.length + digitsValue text) = text := by
  induction text generalizing n with
  | nil => rfl
  | cons c text ih =>
    obtain ⟨hc, htext⟩ := List.forall_mem_cons.mp h
    obtain ⟨hlt, hchar⟩ := digitChar_of_isDigit hc
    have hrest := digitsValue_lt htext
    have hvalue : n * 10 ^ (c :: text).length + digitsValue (c :: text) =
        (n * 10 + (c.toNat - 48)) * 10 ^ text.length + digitsValue text := by
      rw [digitsValue_cons, List.length_cons, pow_succ]
      ring
    have hdigit : (n * 10 ^ (c :: text).length + digitsValue (c :: text)) /
        10 ^ text.length % 10 = c.toNat - 48 := by
      rw [hvalue, Nat.add_comm, Nat.add_mul_div_right _ _ (by positivity),
        Nat.div_eq_of_lt hrest, Nat.zero_add]
      omega
    rw [List.length_cons, paddedDecimal, ← List.length_cons (a := c), hdigit, hchar, hvalue,
      ih htext]

/-! ## Plain numbers -/

theorem digitsValue_digitChars {digits : List ℕ} (h : ∀ d ∈ digits, d < 10) :
    digitsValue (digits.reverse.map digitChar) = Nat.ofDigits 10 digits := by
  induction digits with
  | nil => rfl
  | cons d digits ih =>
    obtain ⟨hd, hdigits⟩ := List.forall_mem_cons.mp h
    have hrest := ih hdigits
    rw [digitsValue] at hrest
    rw [digitsValue, List.reverse_cons, List.map_append, List.foldl_append, hrest,
      List.map_singleton,
      List.foldl_cons, List.foldl_nil, digitChar_toNat hd, Nat.ofDigits_cons]
    omega

theorem digitsValue_decimal (n : ℕ) : digitsValue (decimal n) = n := by
  rw [decimal]
  split_ifs with hzero
  · rw [hzero]
    rfl
  · rw [digitsValue_digitChars fun d hd => Nat.digits_lt_base (by omega) hd, Nat.ofDigits_digits]

theorem decimal_injective : Function.Injective decimal := by
  intro m n h
  rw [← digitsValue_decimal m, h, digitsValue_decimal]

theorem mem_decimalInt {n : ℤ} {c : Char} (h : c ∈ decimalInt n) : c = '-' ∨ isDigit c = true := by
  rw [decimalInt] at h
  split_ifs at h
  · exact (List.mem_cons.mp h).imp id isDigit_of_mem_decimal
  · exact Or.inr (isDigit_of_mem_decimal h)

theorem decimalInt_injective : Function.Injective decimalInt := by
  have hsign : ∀ (n : ℕ) (text : List Char), decimal n ≠ '-' :: text := by
    intro n text htext
    have hdigit : isDigit '-' = true := isDigit_of_mem_decimal (htext ▸ List.mem_cons_self)
    cases hdigit
  intro m n h
  rw [decimalInt, decimalInt] at h
  split_ifs at h with hm hn hn
  · have habs := decimal_injective (List.cons.inj h).2
    omega
  · exact absurd h.symm (hsign _ _)
  · exact absurd h (hsign _ _)
  · have habs := decimal_injective h
    omega

end SmolVlaQgf.DecimalText
