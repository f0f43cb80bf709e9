import BatchSync.Number.Integer
import BatchSync.Number.Numeral
import Mathlib.Data.Rat.Floor
import Mathlib.Tactic.Positivity

/-!
# Whole parts of doubles

A finite double stands for an exact fraction (`value`). Its integer part is that number rounded towards
zero (`truncate_eq`), whether the fraction is dropped among the doubles first (`truncate_towardZero`) or
not. Whether the integer part fits in 64 bits can be read off the order of the bits alone
(`fitsInt64_truncate_iff`): the magnitude 2 ^ 63 is the bound on both sides, which a negative number may
reach and a positive one may not.
-/

namespace BatchSync.Binary64

/-- The number that a finite double stands for. -/
def value (x : Binary64) : ℚ :=
  (if x.isNegative then -1 else 1) * ((x.significand : ℚ) * 2 ^ x.exponent)

/-- The integer part of the magnitude of a finite double. -/
def wholeMagnitude (x : Binary64) : Nat := x.ratio.1 / x.ratio.2

/-- The bits of the magnitude 2 ^ 63. -/
def int64Magnitude : Nat := 1086 * implicitBit

/-! ## Powers of two -/

theorem implicitBit_eq {k : Nat} (most : k ≤ 52) :
    implicitBit = Nat.pow 2 k * Nat.pow 2 (52 - k) :=
  calc implicitBit = Nat.pow 2 (k + (52 - k)) := by rw [Nat.add_sub_cancel' most]; rfl
    _ = Nat.pow 2 k * Nat.pow 2 (52 - k) := Nat.pow_add 2 k (52 - k)

/-- Dropping what a division leaves over does not change the quotient. -/
theorem sub_mod_div {m d : Nat} (pos : 0 < d) : (m - m % d) / d = m / d := by
  have whole : m - m % d = d * (m / d) := by
    have := Nat.div_add_mod m d
    omega
  rw [whole, Nat.mul_div_cancel_left _ pos]

theorem cast_two_pow (n : Nat) : ((Nat.pow 2 n : Nat) : ℚ) = 2 ^ n := by
  rw [Nat.pow_eq]
  push_cast
  rfl

/-! ## Fields -/

section Fields

variable (x : Binary64)

theorem magnitude_lt : x.magnitude < signedWordLimit := Nat.mod_lt _ (by decide)

theorem toNat_ofMagnitude {negative : Bool} {m : Nat} (lt : m < signedWordLimit) :
    (ofMagnitude negative m).bits.toNat = if negative then signedWordLimit + m else m := by
  have double : wordLimit = signedWordLimit + signedWordLimit := rfl
  unfold ofMagnitude
  rw [toNat_ofNat_eq_mod]
  apply Nat.mod_eq_of_lt
  split <;> omega

theorem magnitude_ofMagnitude {negative : Bool} {m : Nat} (lt : m < signedWordLimit) :
    (ofMagnitude negative m).magnitude = m := by
  rw [magnitude, toNat_ofMagnitude lt]
  split
  · rw [Nat.add_mod_left, Nat.mod_eq_of_lt lt]
  · exact Nat.mod_eq_of_lt lt

theorem isNegative_ofMagnitude {negative : Bool} {m : Nat} (lt : m < signedWordLimit) :
    (ofMagnitude negative m).isNegative = negative := by
  rw [isNegative, toNat_ofMagnitude lt]
  cases negative with
  | false => exact decide_eq_false (Nat.not_le.mpr lt)
  | true => exact decide_eq_true (Nat.le_add_right _ _)

theorem magnitude_eq : x.magnitude = x.biased * implicitBit + x.magnitude % implicitBit :=
  (Nat.div_add_mod' x.magnitude implicitBit).symm

theorem fraction_lt : x.magnitude % implicitBit < implicitBit := Nat.mod_lt _ (by decide)

theorem isFinite_eq : x.isFinite = decide (x.biased < 2047) :=
  decide_eq_decide.mpr (Nat.div_lt_iff_lt_mul (by decide)).symm

theorem level_eq : x.level = x.biased - 1 := rfl

theorem significand_lt : x.significand < 2 * implicitBit := by
  have fields := x.magnitude_eq
  have fraction := x.fraction_lt
  unfold significand
  split
  · rename_i subnormal
    rw [subnormal, Nat.zero_mul, Nat.zero_add] at fields
    omega
  · omega

variable {x}

theorem significand_eq (normal : 0 < x.biased) :
    x.significand = x.magnitude % implicitBit + implicitBit := if_neg (Nat.ne_of_gt normal)

end Fields

/-! ## The exact value -/

/-- Numerator and denominator of the magnitude. -/
theorem ratio_div (x : Binary64) :
    (x.ratio.1 : ℚ) / x.ratio.2 = (x.significand : ℚ) * 2 ^ x.exponent := by
  unfold ratio
  split
  · rename_i large
    have exponent : x.exponent = ((x.level - 1074 : Nat) : Int) := by
      unfold Binary64.exponent
      omega
    rw [exponent, zpow_natCast, Nat.cast_mul, cast_two_pow, Nat.cast_one, div_one]
  · rename_i small
    have exponent : x.exponent = -((1074 - x.level : Nat) : Int) := by
      unfold Binary64.exponent
      omega
    rw [exponent, zpow_neg, zpow_natCast, cast_two_pow, div_eq_mul_inv]

theorem value_eq (x : Binary64) :
    x.value = if x.isNegative then -((x.ratio.1 : ℚ) / x.ratio.2)
      else (x.ratio.1 : ℚ) / x.ratio.2 := by
  unfold value
  rw [ratio_div]
  split
  · rw [neg_one_mul]
  · rw [one_mul]

theorem floor_ratio (x : Binary64) : ⌊(x.ratio.1 : ℚ) / x.ratio.2⌋ = (x.wholeMagnitude : Int) := by
  rw [Rat.floor_natCast_div_natCast]
  exact (Int.natCast_ediv ..).symm

/-- The integer part of a number, with its sign. -/
theorem truncate_eq_signed (x : Binary64) : x.truncate = signed x.isNegative x.wholeMagnitude := by
  unfold truncate signed wholeMagnitude
  rw [Int.natCast_ediv]

/-- The integer part is the exact value, rounded towards zero. -/
theorem truncate_eq (x : Binary64) :
    x.truncate = if x.value < 0 then ⌈x.value⌉ else ⌊x.value⌋ := by
  have notNegative : (0 : ℚ) ≤ (x.ratio.1 : ℚ) / x.ratio.2 := by positivity
  rw [truncate_eq_signed, value_eq]
  cases sign : x.isNegative with
  | false =>
    rw [if_neg Bool.false_ne_true, if_neg (not_lt.mpr notNegative), floor_ratio]
    rfl
  | true =>
    rw [if_pos rfl]
    split
    · rw [Int.ceil_neg, floor_ratio]
      rfl
    · rename_i zero
      have none : (x.ratio.1 : ℚ) / x.ratio.2 = 0 :=
        le_antisymm (neg_nonneg.mp (not_lt.mp zero)) notNegative
      have whole := floor_ratio x
      rw [none, Int.floor_zero] at whole
      rw [none, neg_zero, Int.floor_zero, signed, if_pos rfl, ← whole, neg_zero]

/-! ## The integer part of a magnitude -/

section Magnitude

variable {x : Binary64}

/-- A number below one has no integer part. -/
theorem wholeMagnitude_of_lt_one (small : x.biased < 1023) : x.wholeMagnitude = 0 := by
  have level : ¬1074 ≤ x.level := by
    rw [level_eq]
    omega
  unfold wholeMagnitude ratio
  rw [if_neg level]
  refine Nat.div_eq_of_lt (Nat.lt_of_lt_of_le x.significand_lt ?_)
  have power : Nat.pow 2 53 ≤ Nat.pow 2 (1074 - x.level) :=
    Nat.pow_le_pow_right (by decide) (by rw [level_eq]; omega)
  exact power

/-- From one to 2 ^ 52, the integer part is what the significand holds above its fraction. -/
theorem wholeMagnitude_of_fraction {k : Nat} (one : 0 < k) (most : k ≤ 52)
    (eq : x.biased + k = 1075) :
    x.wholeMagnitude = x.magnitude / Nat.pow 2 k % Nat.pow 2 (52 - k) + Nat.pow 2 (52 - k) := by
  have level : ¬1074 ≤ x.level ∧ 1074 - x.level = k := by
    rw [level_eq]
    omega
  unfold wholeMagnitude ratio
  rw [if_neg level.1, level.2, significand_eq (by omega), implicitBit_eq most]
  have weight : 0 < Nat.pow 2 k := Nat.two_pow_pos k
  show (x.magnitude % (Nat.pow 2 k * Nat.pow 2 (52 - k)) + Nat.pow 2 k * Nat.pow 2 (52 - k)) /
    Nat.pow 2 k = _
  rw [Nat.add_mul_div_left _ _ weight, Nat.mod_mul_right_div_self]

/-- From 2 ^ 52 on, the integer part is all there is. -/
theorem wholeMagnitude_of_large (large : 1075 ≤ x.biased) :
    x.wholeMagnitude =
      (x.magnitude % implicitBit + implicitBit) * Nat.pow 2 (x.biased - 1075) := by
  have level : 1074 ≤ x.level ∧ x.level - 1074 = x.biased - 1075 := by
    rw [level_eq]
    omega
  unfold wholeMagnitude ratio
  rw [if_pos level.1, level.2, significand_eq (by omega)]
  exact Nat.div_one _

end Magnitude

/-! ## Dropping the fraction -/

section TowardZero

variable (x : Binary64)

theorem towardZero_of_lt_one {x : Binary64} (small : x.biased < 1023) :
    x.towardZero = zero x.isNegative := if_pos small

theorem towardZero_of_large {x : Binary64} (large : 1075 ≤ x.biased) : x.towardZero = x := by
  unfold towardZero
  rw [if_neg (by omega), if_pos large]

/-- Between one and 2 ^ 52, the quotient by the weight of the fraction stays. -/
theorem towardZero_of_fraction {x : Binary64} {k : Nat} (one : 0 < k) (most : k ≤ 52)
    (eq : x.biased + k = 1075) :
    x.towardZero.magnitude / Nat.pow 2 k = x.magnitude / Nat.pow 2 k ∧
      x.towardZero.isNegative = x.isNegative := by
  have weight : 1075 - x.biased = k := by omega
  have lt : x.magnitude - x.magnitude % Nat.pow 2 k < signedWordLimit :=
    Nat.lt_of_le_of_lt (Nat.sub_le _ _) x.magnitude_lt
  unfold towardZero
  rw [if_neg (by omega), if_neg (by omega), weight, magnitude_ofMagnitude lt,
    isNegative_ofMagnitude lt]
  exact ⟨sub_mod_div (Nat.two_pow_pos k), rfl⟩

theorem biased_towardZero_of_fraction {x : Binary64} {k : Nat} (one : 0 < k) (most : k ≤ 52)
    (eq : x.biased + k = 1075) : x.towardZero.biased = x.biased := by
  unfold biased
  rw [implicitBit_eq most, ← Nat.div_div_eq_div_mul, ← Nat.div_div_eq_div_mul,
    (towardZero_of_fraction one most eq).1]

/-- How a number lies to its fraction: below one, or with some bits of it, or with none. -/
theorem exists_fraction (x : Binary64) :
    x.biased < 1023 ∨ 1075 ≤ x.biased ∨ ∃ k, 0 < k ∧ k ≤ 52 ∧ x.biased + k = 1075 := by
  by_cases small : x.biased < 1023
  · exact .inl small
  · by_cases large : 1075 ≤ x.biased
    · exact .inr (.inl large)
    · exact .inr (.inr ⟨1075 - x.biased, by omega, by omega, by omega⟩)

theorem isNegative_towardZero : x.towardZero.isNegative = x.isNegative := by
  rcases x.exists_fraction with small | large | ⟨k, one, most, eq⟩
  · rw [towardZero_of_lt_one small]
    exact isNegative_ofMagnitude (by decide)
  · rw [towardZero_of_large large]
  · exact (towardZero_of_fraction one most eq).2

theorem biased_zero (negative : Bool) : (zero negative).biased = 0 := by
  unfold biased zero
  rw [magnitude_ofMagnitude (by decide), Nat.zero_div]

theorem isFinite_towardZero : x.towardZero.isFinite = x.isFinite := by
  rw [isFinite_eq, isFinite_eq, decide_eq_decide]
  rcases x.exists_fraction with small | large | ⟨k, one, most, eq⟩
  · rw [towardZero_of_lt_one small, biased_zero]
    omega
  · rw [towardZero_of_large large]
  · rw [biased_towardZero_of_fraction one most eq]

theorem wholeMagnitude_towardZero : x.towardZero.wholeMagnitude = x.wholeMagnitude := by
  rcases x.exists_fraction with small | large | ⟨k, one, most, eq⟩
  · rw [wholeMagnitude_of_lt_one small, towardZero_of_lt_one small]
    exact wholeMagnitude_of_lt_one (by rw [biased_zero]; decide)
  · rw [towardZero_of_large large]
  · have same := biased_towardZero_of_fraction one most eq
    rw [wholeMagnitude_of_fraction one most eq, wholeMagnitude_of_fraction one most (same ▸ eq),
      (towardZero_of_fraction one most eq).1]

/-- Dropping the fraction first changes nothing in the integer part. -/
theorem truncate_towardZero : x.towardZero.truncate = x.truncate := by
  rw [truncate_eq_signed, truncate_eq_signed, isNegative_towardZero, wholeMagnitude_towardZero]

end TowardZero

/-! ## The range of 64 bits -/

section Range

variable {x : Binary64}

/-- Below 2 ^ 52 no integer part reaches 2 ^ 53. -/
theorem wholeMagnitude_lt_of_small (small : x.biased < 1075) :
    x.wholeMagnitude < 2 * implicitBit := by
  have level : ¬1074 ≤ x.level := by
    rw [level_eq]
    omega
  unfold wholeMagnitude ratio
  rw [if_neg level]
  exact Nat.lt_of_le_of_lt (Nat.div_le_self _ _) x.significand_lt

/-- The integer part of a magnitude lies to 2 ^ 63 as its bits lie to those of 2 ^ 63. -/
theorem wholeMagnitude_range (x : Binary64) :
    (x.wholeMagnitude < signedWordLimit ↔ x.magnitude < int64Magnitude) ∧
      (x.wholeMagnitude ≤ signedWordLimit ↔ x.magnitude ≤ int64Magnitude) := by
  have fields := x.magnitude_eq
  have fraction := x.fraction_lt
  have limit : signedWordLimit = 2048 * implicitBit := by decide
  unfold int64Magnitude
  rw [limit]
  -- The bits are compared as exponent and fraction; 1086 is the exponent of 2 ^ 63.
  have weight : implicitBit = 4503599627370496 := rfl
  rw [weight] at fields fraction ⊢
  rcases Nat.lt_or_ge x.biased 1075 with small | large
  · have := wholeMagnitude_lt_of_small small
    omega
  have whole := wholeMagnitude_of_large large
  rw [weight] at whole
  rcases Nat.lt_trichotomy x.biased 1086 with below | reached | above
  · have power : Nat.pow 2 (x.biased - 1075) ≤ 1024 :=
      show _ ≤ Nat.pow 2 10 from Nat.pow_le_pow_right (by decide) (by omega)
    have := Nat.mul_le_mul_left (x.magnitude % 4503599627370496 + 4503599627370496) power
    omega
  · have power : Nat.pow 2 (x.biased - 1075) = 2048 := by rw [reached]
    rw [power] at whole
    omega
  · have power : 4096 ≤ Nat.pow 2 (x.biased - 1075) :=
      show Nat.pow 2 12 ≤ _ from Nat.pow_le_pow_right (by decide) (by omega)
    have := Nat.mul_le_mul_left (x.magnitude % 4503599627370496 + 4503599627370496) power
    omega

/-- The integer part fits in 64 bits just if the number is at -2 ^ 63 or above it, and below 2 ^ 63,
in the order of the bits. -/
theorem fitsInt64_truncate_iff (x : Binary64) :
    fitsInt64 x.truncate = true ↔
      -(int64Magnitude : Int) ≤ x.place ∧ x.place < (int64Magnitude : Int) := by
  have range := wholeMagnitude_range x
  have positive : 0 < int64Magnitude ∧ 0 < signedWordLimit := by decide
  unfold fitsInt64 place
  rw [Bool.and_eq_true, decide_eq_true_eq, decide_eq_true_eq, truncate_eq_signed]
  unfold signed
  split <;> omega

end Range

end BatchSync.Binary64
