import BatchSync.Proofs.Column.Integers
import BatchSync.Proofs.Number.Rounding

/-!
# Integers as doubles

An integer is narrowed to a double through its 64 leading bits. They are rounded first, and the double
that they make is then multiplied by what was cut off, which is exact unless it overflows. Because the
last of the leading bits tells of lower ones, the integer and its leading bits lie on the same side of
every even number (`le_leadingBits_iff`); so an integer narrows to an infinity just if its magnitude is
not below the limit for magnitudes of any kind (`ofInteger_cases`). No conversion to a double fails for
that.
-/

namespace BatchSync

open BatchSync.Binary64 (twoPow twoPow_eq twoPow_add twoPow_le twoPow_pos overflowLimit
  twoPow_lt_overflowLimit overflowLimit_le_twoPow)

/-! ## Leading bits -/

section LeadingBits

variable {n : Nat}

theorem bitLength_bounds (some_n : n ≠ 0) :
    twoPow (bitLength n - 1) ≤ n ∧ n < twoPow (bitLength n) := by
  unfold bitLength
  rw [if_neg some_n, twoPow_eq, twoPow_eq]
  exact ⟨Nat.log2_self_le some_n, Nat.lt_log2_self⟩

theorem ne_zero_of_large (large : ¬bitLength n ≤ 64) : n ≠ 0 := by
  rintro rfl
  exact large (Nat.zero_le _)

theorem leadingBits_of_le (small : bitLength n ≤ 64) : leadingBits n = n := if_pos small

/-- An integer and its leading bits lie on the same side of an even number. -/
theorem le_leadingBits_iff (large : ¬bitLength n ≤ 64) {k : Nat} (even : k % 2 = 0) :
    k ≤ leadingBits n ↔ k * twoPow (bitLength n - 64) ≤ n := by
  rw [← Nat.le_div_iff_mul_le (twoPow_pos _), twoPow_eq]
  unfold leadingBits
  rw [if_neg large]
  dsimp only
  generalize n / Nat.pow 2 (bitLength n - 64) = head
  -- The last bit is set only where it was not, which passes no even number.
  split
  · split <;> omega
  · exact Iff.rfl

/-- There are 64 leading bits. -/
theorem leadingBits_bounds (large : ¬bitLength n ≤ 64) :
    signedWordLimit ≤ leadingBits n ∧ leadingBits n < wordLimit := by
  obtain ⟨least, lt⟩ := bitLength_bounds (ne_zero_of_large large)
  have lower : signedWordLimit = twoPow 63 := (twoPow_eq 63).symm
  have upper : wordLimit = twoPow 64 := (twoPow_eq 64).symm
  have exponent : 63 + (bitLength n - 64) = bitLength n - 1 := by omega
  constructor
  · rw [le_leadingBits_iff large rfl, lower, ← twoPow_add, exponent]
    exact least
  · rw [← Nat.not_le, le_leadingBits_iff large rfl, upper, ← twoPow_add,
      Nat.add_sub_cancel' (Nat.le_of_not_le large)]
    exact Nat.not_le.mpr lt

/-- The highest bit of a number of 64 bits. -/
theorem log2_word {head : Nat} (least : signedWordLimit ≤ head) (lt : head < wordLimit) :
    head ≠ 0 ∧ head.log2 = 63 := by
  have some_head : head ≠ 0 := Nat.ne_of_gt (Nat.lt_of_lt_of_le (by decide) least)
  exact ⟨some_head, (Nat.log2_eq_iff some_head).mpr ⟨least, lt⟩⟩

theorem bitLength_leadingBits (large : ¬bitLength n ≤ 64) : bitLength (leadingBits n) = 64 := by
  obtain ⟨least, lt⟩ := leadingBits_bounds large
  obtain ⟨some_head, log⟩ := log2_word least lt
  rw [bitLength, if_neg some_head, log]

end LeadingBits

namespace Binary64

/-! ## Rounding the leading bits -/

section Word

variable {negative : Bool} {head : Nat}

theorem levelOf_word (least : signedWordLimit ≤ head) (lt : head < wordLimit) :
    levelOf head 1 = 1085 := by
  obtain ⟨_, log⟩ := log2_word least lt
  have one : Nat.log2 1 = 0 := by decide
  have weight : 1 * twoPow (1085 - 1074) * implicitBit = signedWordLimit := by
    rw [twoPow_eq]
    rfl
  rw [levelOf_eq, log, one]
  simp only [Nat.reduceAdd, Nat.reduceSub]
  rw [unitsAt_of_le head 1 (by decide), if_neg (by decide), if_neg]
  rw [Nat.not_lt, weight]
  exact least

/-- The leading bits are rounded to fifty-three of them. -/
theorem roundedUnits_word (least : signedWordLimit ≤ head) (lt : head < wordLimit) :
    roundedUnits head 1 = divNearestEven head 2048 := by
  have power : twoPow (1085 - 1074) = 2048 := twoPow_eq 11
  rw [roundedUnits, levelOf_word least lt, unitsAt_of_le head 1 (by decide), power]

/-- Between the least and the greatest number of fifty-three bits, or one more. -/
theorem divNearestEven_word (least : signedWordLimit ≤ head) (lt : head < wordLimit) :
    implicitBit ≤ divNearestEven head 2048 ∧ divNearestEven head 2048 ≤ 2 * implicitBit :=
  ⟨le_divNearestEven (by decide) least, divNearestEven_le (by decide) (Nat.le_of_lt lt)⟩

/-- The leading bits are still as many, or one more, after they are rounded. -/
theorem rounded_word (least : signedWordLimit ≤ head) (lt : head < wordLimit) :
    twoPow 63 ≤ divNearestEven head 2048 * 2048 ∧ divNearestEven head 2048 * 2048 ≤ twoPow 64 := by
  obtain ⟨lower, upper⟩ := divNearestEven_word least lt
  rw [twoPow_eq, twoPow_eq]
  exact ⟨Nat.mul_le_mul_right 2048 lower, Nat.mul_le_mul_right 2048 upper⟩

theorem ratio_nearest_word (least : signedWordLimit ≤ head) (lt : head < wordLimit) :
    (nearest negative head 1).ratio = (divNearestEven head 2048 * 2048, 1) := by
  obtain ⟨some_head, _⟩ := log2_word least lt
  have power : twoPow (1085 - 1074) = 2048 := twoPow_eq 11
  have bounds := divNearestEven_word least lt
  have finite : 1085 * implicitBit + divNearestEven head 2048 < infiniteMagnitude :=
    Nat.lt_of_le_of_lt (Nat.add_le_add_left bounds.2 _) (by decide)
  have magnitude : (nearest negative head 1).magnitude =
      1085 * implicitBit + divNearestEven head 2048 := by
    rw [nearest_eq some_head, levelOf_word least lt, roundedUnits_word least lt,
      Nat.min_eq_left (Nat.le_of_lt finite),
      magnitude_ofMagnitude (Nat.lt_trans finite infiniteMagnitude_lt)]
  rw [ratio_of_magnitude (by decide) bounds.1 bounds.2 magnitude, power]

end Word

section OfInteger

variable {m : Nat}

/-- An integer of as many bits as the limit. The limit is half a unit, in which leading bits are rounded,
below a power of two. -/
theorem rounded_lt_iff_of_top (top : bitLength m = 1024) :
    divNearestEven (leadingBits m) 2048 * 2048 * twoPow (1024 - 64) < overflowLimit ↔
      m < overflowLimit := by
  have reached : 18446744073709550592 ≤ leadingBits m ↔ _ := le_leadingBits_iff (by omega) rfl
  have roundedUp : 2 * implicitBit ≤ divNearestEven (leadingBits m) 2048 ↔ _ :=
    le_divNearestEven_iff (by decide) rfl
  have unit : implicitBit = 4503599627370496 := rfl
  have power : twoPow 10 = 1024 := twoPow_eq 10
  have limit : overflowLimit = 18446744073709550592 * twoPow (1024 - 64) := by
    rw [overflowLimit, twoPow_add 10 960, power, ← Nat.mul_assoc]
  rw [top] at reached
  rw [limit, Nat.mul_lt_mul_right (twoPow_pos _), ← Nat.not_le, ← Nat.not_le, ← reached, not_iff_not]
  rw [unit] at roundedUp
  omega

/-- What the leading bits are rounded to lies on the same side of the limit as the integer. -/
theorem rounded_lt_iff (large : ¬bitLength m ≤ 64) :
    divNearestEven (leadingBits m) 2048 * 2048 * twoPow (bitLength m - 64) < overflowLimit ↔
      m < overflowLimit := by
  obtain ⟨least, lt⟩ := bitLength_bounds (ne_zero_of_large large)
  obtain ⟨head_least, head_lt⟩ := leadingBits_bounds large
  obtain ⟨rounded_least, rounded_most⟩ := rounded_word head_least head_lt
  rcases Nat.lt_trichotomy (bitLength m) 1024 with low | top | high
  · have limit : twoPow (bitLength m) < overflowLimit := twoPow_lt_overflowLimit (by omega)
    refine iff_of_true ?_ (Nat.lt_trans lt limit)
    calc divNearestEven (leadingBits m) 2048 * 2048 * twoPow (bitLength m - 64)
        ≤ twoPow 64 * twoPow (bitLength m - 64) := Nat.mul_le_mul_right _ rounded_most
      _ = twoPow (bitLength m) := by rw [← twoPow_add, Nat.add_sub_cancel' (Nat.le_of_not_le large)]
      _ < overflowLimit := limit
  · rw [top]
    exact rounded_lt_iff_of_top top
  · have limit : overflowLimit ≤ twoPow (bitLength m - 1) := overflowLimit_le_twoPow (by omega)
    have exponent : 63 + (bitLength m - 64) = bitLength m - 1 := by omega
    refine iff_of_false (Nat.not_lt.mpr ?_) (Nat.not_lt.mpr (Nat.le_trans limit least))
    calc overflowLimit ≤ twoPow (bitLength m - 1) := limit
      _ = twoPow 63 * twoPow (bitLength m - 64) := by rw [← twoPow_add, exponent]
      _ ≤ divNearestEven (leadingBits m) 2048 * 2048 * twoPow (bitLength m - 64) :=
        Nat.mul_le_mul_right _ rounded_least

theorem lt_overflowLimit (small : bitLength m ≤ 64) : m < overflowLimit := by
  by_cases none : m = 0
  · subst none
    exact Nat.lt_of_le_of_lt (Nat.zero_le _) (twoPow_lt_overflowLimit (Nat.zero_le _))
  · exact Nat.lt_trans (bitLength_bounds none).2 (twoPow_lt_overflowLimit (by omega))

theorem isNegative_ofInteger (n : Int) : (ofInteger n).isNegative = decide (n < 0) := by
  unfold ofInteger
  dsimp only
  split
  · exact isNegative_ofMagnitude infiniteMagnitude_lt
  · exact isNegative_nearest

/-- An integer of at most 64 bits is rounded as it is, and what it is rounded to is rounded once more. -/
theorem ofInteger_of_small {n : Int} (small : bitLength n.natAbs ≤ 64) :
    ofInteger n = nearest (decide (n < 0)) (nearest (decide (n < 0)) n.natAbs 1).ratio.1
      (nearest (decide (n < 0)) n.natAbs 1).ratio.2 := by
  unfold ofInteger
  dsimp only
  rw [leadingBits_of_le small, Nat.sub_self, if_neg (Nat.not_lt_zero _)]
  exact congrArg (nearest _ · _) (Nat.mul_one _)

theorem ofInteger_of_large {n : Int} (large : ¬bitLength n.natAbs ≤ 64) :
    ofInteger n = if 1024 < bitLength n.natAbs - 64 then infinity (decide (n < 0))
      else nearest (decide (n < 0))
        (divNearestEven (leadingBits n.natAbs) 2048 * 2048 * twoPow (bitLength n.natAbs - 64)) 1 := by
  obtain ⟨head_least, head_lt⟩ := leadingBits_bounds large
  unfold ofInteger
  dsimp only
  rw [bitLength_leadingBits large, ratio_nearest_word head_least head_lt, ← twoPow_eq]

/-- An integer whose magnitude is below the limit narrows to a finite double. -/
theorem isFinite_ofInteger {n : Int} (below : n.natAbs < overflowLimit) :
    (ofInteger n).isFinite = true := by
  by_cases small : bitLength n.natAbs ≤ 64
  · have once : (nearest (decide (n < 0)) n.natAbs 1).isFinite = true :=
      isFinite_nearest Nat.one_ne_zero (Nat.mul_one _ ▸ below)
    obtain ⟨some_den, lt⟩ := ratio_lt_of_isFinite once
    rw [ofInteger_of_small small]
    exact isFinite_nearest some_den lt
  · have near : ¬1024 < bitLength n.natAbs - 64 := by
      intro far
      have least := (bitLength_bounds (ne_zero_of_large small)).1
      have limit : overflowLimit ≤ twoPow (bitLength n.natAbs - 1) := overflowLimit_le_twoPow (by omega)
      omega
    rw [ofInteger_of_large small, if_neg near]
    refine isFinite_nearest Nat.one_ne_zero ?_
    rw [Nat.mul_one]
    exact (rounded_lt_iff small).mpr below

/-- Any other integer narrows to an infinity. -/
theorem ofInteger_eq_infinity {n : Int} (beyond : overflowLimit ≤ n.natAbs) :
    ofInteger n = infinity (decide (n < 0)) := by
  have large : ¬bitLength n.natAbs ≤ 64 := fun small =>
    Nat.not_lt.mpr beyond (lt_overflowLimit small)
  rw [ofInteger_of_large large]
  split
  · rfl
  · refine nearest_eq_infinity Nat.one_ne_zero ?_
    rw [Nat.mul_one, ← Nat.not_lt, rounded_lt_iff large]
    exact Nat.not_lt.mpr beyond

end OfInteger

end Binary64

namespace Column

/-- An integer of any size is converted to a double of its own sign. The double is finite if the magnitude
of the integer is below the middle between the largest finite number and the first power of two that is
none, and otherwise it is an infinity: the conversion never fails. -/
theorem integers_narrow_to_doubles (n : Int) : ∃ x,
    (Column.long n).asDouble = .ok (some x) ∧ x.isNegative = decide (n < 0) ∧
      if n.natAbs < overflowLimit then x.isFinite = true
      else x = Binary64.infinity (decide (n < 0)) := by
  refine ⟨Binary64.ofInteger n, rfl, Binary64.isNegative_ofInteger n, ?_⟩
  split
  · rename_i below
    exact Binary64.isFinite_ofInteger below
  · rename_i beyond
    exact Binary64.ofInteger_eq_infinity (Nat.not_lt.mp beyond)

/-- The first power of two that is no double is converted to an infinity, and not refused. -/
theorem two_pow_1024_is_not_refused :
    ¬ ∀ n : Int,
      (∃ x, (Column.long n).asDouble = .ok (some x) ∧ x.isFinite = true) ∨
        (Column.long n).asDouble = .error ⟨.long, .double, some s!"{shown n} is out of range"⟩ := by
  intro finite_or_refused
  have infinite : Binary64.ofInteger (twoPow 1024 : Nat) = Binary64.infinity false := by
    have beyond : overflowLimit ≤ (twoPow 1024 : Int).natAbs :=
      Nat.le_trans (overflowLimit_le_twoPow (Nat.le_refl 1024)) (Nat.le_of_eq (Int.natAbs_natCast _).symm)
    rw [Binary64.ofInteger_eq_infinity beyond, decide_eq_false (Int.not_lt.mpr (Int.natCast_nonneg _))]
  have converted : (Column.long (twoPow 1024 : Nat)).asDouble = .ok (some (Binary64.infinity false)) :=
    infinite ▸ rfl
  rcases finite_or_refused (twoPow 1024 : Nat) with ⟨x, finite, isFinite⟩ | refused
  · rw [converted] at finite
    cases finite
    exact absurd isFinite (by decide)
  · rw [converted] at refused
    cases refused

end Column

end BatchSync
