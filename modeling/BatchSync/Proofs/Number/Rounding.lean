import BatchSync.Proofs.Number.WholeParts

/-!
# Rounding to doubles

A quotient is rounded to a whole number of units, which are as fine as fifty-three bits allow
(`levelOf_bounds`). At the largest of the levels there are finite numbers, fifty-three bits are just too
few for what is rounded up to their bound. So a quotient is rounded to a finite number just if it lies
below the middle between the largest finite number and that bound (`isFinite_nearest`), and to an
infinity otherwise (`nearest_eq_infinity`).
-/

namespace BatchSync.Binary64

/-! ## Quotients to the nearest -/

section Quotients

variable {num den k : Nat}

theorem le_divNearestEven (pos : 0 < den) (le : k * den ≤ num) : k ≤ divNearestEven num den := by
  have floor : k ≤ num / den := (Nat.le_div_iff_mul_le pos).mpr le
  unfold divNearestEven
  dsimp only
  split <;> omega

theorem divNearestEven_le (pos : 0 < den) (le : num ≤ k * den) : divNearestEven num den ≤ k := by
  have parts := Nat.div_add_mod num den
  unfold divNearestEven
  dsimp only
  split
  · -- What is rounded up leaves something over.
    rename_i up
    have rest : 0 < num % den := by omega
    have less : den * (num / den) < den * k := by
      rw [Nat.mul_comm den k]
      omega
    exact Nat.lt_of_mul_lt_mul_left less
  · exact Nat.div_le_of_le_mul (Nat.mul_comm k den ▸ le)

/-- An even number is reached from half a unit below it. -/
theorem le_divNearestEven_iff (pos : 0 < den) (even : k % 2 = 0) :
    k ≤ divNearestEven num den ↔ 2 * (k * den) ≤ 2 * num + den := by
  have parts := Nat.div_add_mod num den
  have rest := Nat.mod_lt num pos
  unfold divNearestEven
  dsimp only
  generalize num / den = q at parts ⊢
  generalize num % den = r at parts rest ⊢
  rw [Nat.mul_comm den q] at parts
  rcases Nat.lt_trichotomy k (q + 1) with below | rfl | above
  · have shifted := Nat.mul_le_mul_right den (Nat.le_of_lt_succ below)
    split <;> omega
  · have next := Nat.succ_mul q den
    rw [Nat.succ_eq_add_one] at next
    split <;> omega
  · have shifted := Nat.mul_le_mul_right den (Nat.succ_le_of_lt above)
    rw [Nat.succ_mul, Nat.succ_mul] at shifted
    split <;> omega

end Quotients

/-! ## Units -/

/-- A power of two that is not computed. -/
@[irreducible] def twoPow (n : Nat) : Nat := Nat.pow 2 n

theorem twoPow_eq (n : Nat) : twoPow n = Nat.pow 2 n := by unfold twoPow; rfl

theorem twoPow_pos (n : Nat) : 0 < twoPow n := twoPow_eq n ▸ Nat.two_pow_pos n

theorem twoPow_add (m n : Nat) : twoPow (m + n) = twoPow m * twoPow n := by
  rw [twoPow_eq, twoPow_eq, twoPow_eq]
  exact Nat.pow_add 2 m n

theorem twoPow_le {m n : Nat} (le : m ≤ n) : twoPow m ≤ twoPow n := by
  rw [twoPow_eq, twoPow_eq]
  exact Nat.pow_le_pow_right (by decide) le

theorem mul_twoPow_add (k m n : Nat) : k * twoPow (m + n) = twoPow m * (twoPow n * k) := by
  rw [twoPow_add, Nat.mul_comm, Nat.mul_assoc]

/-- A quotient in units of a level: numerator and denominator of how many there are in it. -/
def unitsAt (level num den : Nat) : Nat × Nat :=
  if 1074 ≤ level then (num, den * Nat.pow 2 (level - 1074))
  else (num * Nat.pow 2 (1074 - level), den)

section Units

variable (level num den : Nat)

variable {level} in
theorem unitsAt_of_le (large : 1074 ≤ level) :
    unitsAt level num den = (num, den * twoPow (level - 1074)) := by
  rw [unitsAt, if_pos large, twoPow_eq]

/-- Both are those of the least level, less a common factor. -/
theorem exists_unitsAt : ∃ c, 0 < c ∧ (unitsAt level num den).1 * c = num * twoPow 1074 ∧
    (unitsAt level num den).2 * c = den * twoPow level := by
  unfold unitsAt
  rw [← twoPow_eq, ← twoPow_eq]
  split
  · rename_i large
    refine ⟨twoPow 1074, twoPow_pos _, rfl, ?_⟩
    rw [Nat.mul_assoc, ← twoPow_add, Nat.sub_add_cancel large]
  · rename_i small
    refine ⟨twoPow level, twoPow_pos _, ?_, rfl⟩
    rw [Nat.mul_assoc, ← twoPow_add, Nat.sub_add_cancel (by omega)]

variable {level num den}

theorem unitsAt_lt_iff (k : Nat) :
    (unitsAt level num den).1 < (unitsAt level num den).2 * k ↔
      num * twoPow 1074 < den * twoPow level * k := by
  obtain ⟨c, pos, above, below⟩ := exists_unitsAt level num den
  rw [← above, ← below, Nat.mul_right_comm]
  exact (Nat.mul_lt_mul_right pos).symm

theorem unitsAt_pos (pos : 0 < den) : 0 < (unitsAt level num den).2 := by
  unfold unitsAt
  split
  · exact Nat.mul_pos pos (Nat.two_pow_pos _)
  · exact pos

end Units

/-! ## Levels -/

section Levels

variable {num den : Nat}

theorem levelOf_eq (num den : Nat) : levelOf num den =
    if num.log2 + 1022 - den.log2 = 0 then 0
    else if (unitsAt (num.log2 + 1022 - den.log2) num den).1 <
        (unitsAt (num.log2 + 1022 - den.log2) num den).2 * implicitBit then
      num.log2 + 1022 - den.log2 - 1
    else num.log2 + 1022 - den.log2 := rfl

/-! The leading bits of numerator and denominator bound the quotient but for one bit. -/

theorem mul_lt_of_log2 {l : Nat} (some_den : den ≠ 0) (le : num.log2 + 1075 ≤ den.log2 + l) :
    num * twoPow 1074 < den * twoPow l :=
  calc num * twoPow 1074 < twoPow (num.log2 + 1) * twoPow 1074 :=
        Nat.mul_lt_mul_of_pos_right (twoPow_eq _ ▸ Nat.lt_log2_self) (twoPow_pos 1074)
    _ = twoPow (num.log2 + 1 + 1074) := (twoPow_add _ _).symm
    _ ≤ twoPow (den.log2 + l) := twoPow_le le
    _ = twoPow den.log2 * twoPow l := twoPow_add _ _
    _ ≤ den * twoPow l := Nat.mul_le_mul_right _ (twoPow_eq _ ▸ Nat.log2_self_le some_den)

theorem mul_le_of_log2 {l : Nat} (some_num : num ≠ 0) (le : den.log2 + l + 1 ≤ num.log2 + 1074) :
    den * twoPow l ≤ num * twoPow 1074 :=
  calc den * twoPow l ≤ twoPow (den.log2 + 1) * twoPow l :=
        Nat.mul_le_mul_right _ (Nat.le_of_lt (twoPow_eq _ ▸ Nat.lt_log2_self))
    _ = twoPow (den.log2 + 1 + l) := (twoPow_add _ _).symm
    _ ≤ twoPow (num.log2 + 1074) := twoPow_le (by omega)
    _ = twoPow num.log2 * twoPow 1074 := twoPow_add _ _
    _ ≤ num * twoPow 1074 := Nat.mul_le_mul_right _ (twoPow_eq _ ▸ Nat.log2_self_le some_num)

/-- At its level a quotient has no more than fifty-three bits, and no fewer but at the least level. -/
theorem levelOf_bounds (some_num : num ≠ 0) (some_den : den ≠ 0) :
    num * twoPow 1074 < den * twoPow (levelOf num den + 53) ∧
      (0 < levelOf num den → den * twoPow (levelOf num den + 52) ≤ num * twoPow 1074) := by
  have unit : implicitBit = twoPow 52 := (twoPow_eq 52).symm
  have fewer_iff (l : Nat) : (unitsAt l num den).1 < (unitsAt l num den).2 * implicitBit ↔
      num * twoPow 1074 < den * twoPow (l + 52) := by
    rw [unitsAt_lt_iff, unit, Nat.mul_assoc den, ← twoPow_add]
  simp only [levelOf_eq, fewer_iff]
  generalize high_eq : num.log2 + 1022 - den.log2 = high
  split
  · exact ⟨mul_lt_of_log2 some_den (by omega), fun pos => absurd pos (Nat.lt_irrefl 0)⟩
  split
  · rename_i notLeast fewer
    have level : high - 1 + 53 = high + 52 := by omega
    rw [level]
    exact ⟨fewer, fun _ => mul_le_of_log2 some_num (by omega)⟩
  · rename_i notFewer
    exact ⟨mul_lt_of_log2 some_den (by omega), fun _ => Nat.not_lt.mp notFewer⟩

end Levels

/-! ## Nearest doubles -/

/-- The magnitude (2 ^ 54 - 1) * 2 ^ 970, in the middle between the largest finite number and the first
power of two that is none. From it on, magnitudes are rounded to an infinity. -/
def overflowLimit : Nat := 18014398509481983 * twoPow 970

section Nearest

variable {negative : Bool} {num den : Nat}

/-- How many units of its level a quotient is rounded to. -/
def roundedUnits (num den : Nat) : Nat :=
  divNearestEven (unitsAt (levelOf num den) num den).1 (unitsAt (levelOf num den) num den).2

theorem nearest_eq (some_num : num ≠ 0) : nearest negative num den =
    ofMagnitude negative (min (levelOf num den * implicitBit + roundedUnits num den) infiniteMagnitude) := by
  unfold nearest roundedUnits unitsAt
  rw [if_neg some_num]
  dsimp only
  split <;> rfl

theorem infiniteMagnitude_lt : infiniteMagnitude < signedWordLimit := by decide

theorem isNegative_nearest : (nearest negative num den).isNegative = negative := by
  by_cases none_num : num = 0
  · unfold nearest
    rw [if_pos none_num]
    exact isNegative_ofMagnitude (by decide)
  · rw [nearest_eq none_num]
    exact isNegative_ofMagnitude (Nat.lt_of_le_of_lt (Nat.min_le_right _ _) infiniteMagnitude_lt)

theorem roundedUnits_le (some_num : num ≠ 0) (some_den : den ≠ 0) :
    roundedUnits num den ≤ 2 * implicitBit := by
  have pos := Nat.pos_of_ne_zero some_den
  have double : twoPow 53 = 2 * implicitBit := twoPow_eq 53
  have lt := (levelOf_bounds some_num some_den).1
  rw [twoPow_add, ← Nat.mul_assoc, ← unitsAt_lt_iff, double, Nat.mul_comm] at lt
  exact divNearestEven_le (unitsAt_pos pos) (Nat.le_of_lt lt)

theorem le_roundedUnits (some_num : num ≠ 0) (some_den : den ≠ 0) (level : 0 < levelOf num den) :
    implicitBit ≤ roundedUnits num den := by
  have pos := Nat.pos_of_ne_zero some_den
  have unit : twoPow 52 = implicitBit := twoPow_eq 52
  have le := (levelOf_bounds some_num some_den).2 level
  rw [twoPow_add, ← Nat.mul_assoc, ← Nat.not_lt, ← unitsAt_lt_iff, unit, Nat.mul_comm, Nat.not_lt] at le
  exact le_divNearestEven (unitsAt_pos pos) le

theorem twoPow_lt_overflowLimit {n : Nat} (le : n ≤ 1023) : twoPow n < overflowLimit := by
  have power : twoPow 53 = 9007199254740992 := twoPow_eq 53
  have half := twoPow_pos 970
  have most : twoPow n ≤ twoPow (53 + 970) := twoPow_le le
  rw [twoPow_add, power] at most
  unfold overflowLimit
  omega

theorem overflowLimit_le_twoPow {n : Nat} (le : 1024 ≤ n) : overflowLimit ≤ twoPow n := by
  have power : twoPow 54 = 18014398509481984 := twoPow_eq 54
  have least : twoPow (54 + 970) ≤ twoPow n := twoPow_le le
  rw [twoPow_add, power] at least
  unfold overflowLimit
  omega

theorem overflowLimit_mul (k : Nat) : overflowLimit * k = 18014398509481983 * (twoPow 970 * k) :=
  Nat.mul_assoc ..

/-- Below the level of the largest finite numbers, a quotient lies below the limit. -/
theorem lt_limit_of_level (some_num : num ≠ 0) (some_den : den ≠ 0) (low : levelOf num den < 2045) :
    num < overflowLimit * den := by
  have small : num * twoPow 1074 < den * twoPow 1023 * twoPow 1074 :=
    calc num * twoPow 1074 < den * twoPow (levelOf num den + 53) := (levelOf_bounds some_num some_den).1
      _ ≤ den * twoPow (1023 + 1074) := Nat.mul_le_mul_left _ (twoPow_le (by omega))
      _ = den * twoPow 1023 * twoPow 1074 := by rw [twoPow_add 1023 1074, Nat.mul_assoc]
  calc num < den * twoPow 1023 := Nat.lt_of_mul_lt_mul_right small
    _ ≤ den * overflowLimit :=
      Nat.mul_le_mul_left _ (Nat.le_of_lt (twoPow_lt_overflowLimit (Nat.le_refl 1023)))
    _ = overflowLimit * den := Nat.mul_comm _ _

/-- Above it, the quotient does not. -/
theorem limit_le_of_level (some_num : num ≠ 0) (some_den : den ≠ 0) (high : 2045 < levelOf num den) :
    overflowLimit * den ≤ num := by
  have large : den * twoPow 1024 * twoPow 1074 ≤ num * twoPow 1074 :=
    calc den * twoPow 1024 * twoPow 1074 = den * twoPow (1024 + 1074) := by
          rw [twoPow_add 1024 1074, Nat.mul_assoc]
      _ ≤ den * twoPow (levelOf num den + 52) := Nat.mul_le_mul_left _ (twoPow_le (by omega))
      _ ≤ num * twoPow 1074 := (levelOf_bounds some_num some_den).2 (by omega)
  calc overflowLimit * den = den * overflowLimit := Nat.mul_comm _ _
    _ ≤ den * twoPow 1024 := Nat.mul_le_mul_left _ (overflowLimit_le_twoPow (Nat.le_refl 1024))
    _ ≤ num := Nat.le_of_mul_le_mul_right large (twoPow_pos 1074)

/-- At it, the limit is where fifty-three bits become too few. -/
theorem roundedUnits_lt_iff (some_den : den ≠ 0) (top : levelOf num den = 2045) :
    roundedUnits num den < 2 * implicitBit ↔ num < overflowLimit * den := by
  have rounded : roundedUnits num den = divNearestEven num (den * twoPow (1 + 970)) := by
    rw [roundedUnits, top, unitsAt_of_le _ _ (by decide)]
  have reached : 2 * implicitBit ≤ divNearestEven num (den * twoPow (1 + 970)) ↔ _ :=
    le_divNearestEven_iff (Nat.mul_pos (Nat.pos_of_ne_zero some_den) (twoPow_pos (1 + 970))) rfl
  have power : twoPow 1 = 2 := twoPow_eq 1
  have unit : implicitBit = 4503599627370496 := rfl
  rw [← rounded, mul_twoPow_add, power] at reached
  rw [overflowLimit_mul, ← Nat.not_le, reached, unit]
  generalize twoPow 970 * den = half
  omega

/-- The bits that a quotient is rounded to are those of a finite number just below the limit. -/
theorem magnitude_lt_iff (some_num : num ≠ 0) (some_den : den ≠ 0) :
    levelOf num den * implicitBit + roundedUnits num den < infiniteMagnitude ↔
      num < overflowLimit * den := by
  have most := roundedUnits_le some_num some_den
  have least := le_roundedUnits some_num some_den
  have atTop (top : levelOf num den = 2045) := roundedUnits_lt_iff some_den top
  have unit : implicitBit = 4503599627370496 := rfl
  unfold infiniteMagnitude
  rw [unit] at most least atTop ⊢
  rcases Nat.lt_trichotomy (levelOf num den) 2045 with low | top | high
  · refine iff_of_true ?_ (lt_limit_of_level some_num some_den low)
    omega
  · rw [← atTop top, top]
    omega
  · refine iff_of_false ?_ (Nat.not_lt.mpr (limit_le_of_level some_num some_den high))
    omega

/-- A quotient below the limit is rounded to a finite number. -/
theorem isFinite_nearest (some_den : den ≠ 0) (below : num < overflowLimit * den) :
    (nearest negative num den).isFinite = true := by
  unfold isFinite
  by_cases none_num : num = 0
  · subst none_num
    show decide ((ofMagnitude negative 0).magnitude < infiniteMagnitude) = true
    rw [magnitude_ofMagnitude (by decide)]
    decide
  · have lt := (magnitude_lt_iff none_num some_den).mpr below
    rw [nearest_eq none_num, Nat.min_eq_left (Nat.le_of_lt lt),
      magnitude_ofMagnitude (Nat.lt_trans lt infiniteMagnitude_lt)]
    exact decide_eq_true lt

/-- From the limit on, a quotient is rounded to an infinity. -/
theorem nearest_eq_infinity (some_den : den ≠ 0) (beyond : overflowLimit * den ≤ num) :
    nearest negative num den = infinity negative := by
  have limit : 0 < overflowLimit * den := by
    rw [overflowLimit_mul]
    exact Nat.mul_pos (by decide) (Nat.mul_pos (twoPow_pos 970) (Nat.pos_of_ne_zero some_den))
  have some_num : num ≠ 0 := Nat.ne_of_gt (Nat.lt_of_lt_of_le limit beyond)
  have le := Nat.not_lt.mp fun lt => Nat.not_lt.mpr beyond ((magnitude_lt_iff some_num some_den).mp lt)
  rw [nearest_eq some_num, Nat.min_eq_right le]
  rfl

end Nearest

/-! ## Exact values of what has been rounded -/

/-- A finite number lies below the limit. -/
theorem ratio_lt_of_isFinite {x : Binary64} (finite : x.isFinite = true) :
    x.ratio.2 ≠ 0 ∧ x.ratio.1 < overflowLimit * x.ratio.2 := by
  have significand := x.significand_lt
  have pos := twoPow_pos 970
  have unit : implicitBit = 4503599627370496 := rfl
  rw [isFinite_eq, decide_eq_true_eq] at finite
  rw [overflowLimit_mul]
  unfold ratio
  rw [level_eq, ← twoPow_eq, ← twoPow_eq]
  split
  · have most : twoPow (x.biased - 1 - 1074) ≤ twoPow (1 + 970) :=
      twoPow_le (by omega)
    have le := Nat.mul_le_mul (Nat.le_sub_one_of_lt significand) most
    have power : twoPow 1 = 2 := twoPow_eq 1
    rw [twoPow_add, power, unit] at le
    refine ⟨Nat.one_ne_zero, ?_⟩
    dsimp only
    omega
  · have den := twoPow_pos (1074 - (x.biased - 1))
    have half := Nat.mul_pos pos den
    refine ⟨Nat.ne_of_gt den, ?_⟩
    dsimp only
    omega

/-- A number of whole units, of which there are fifty-three bits or just too many for them. -/
theorem ratio_of_magnitude {x : Binary64} {level units : Nat} (whole : 1074 ≤ level)
    (least : implicitBit ≤ units) (most : units ≤ 2 * implicitBit)
    (magnitude : x.magnitude = level * implicitBit + units) :
    x.ratio = (units * twoPow (level - 1074), 1) := by
  have fields := x.magnitude_eq
  have fraction := x.fraction_lt
  have unit : implicitBit = 4503599627370496 := rfl
  unfold ratio
  rw [level_eq, ← twoPow_eq, ← twoPow_eq]
  rw [unit] at least most magnitude fields fraction
  by_cases full : units = 2 * implicitBit
  · have biased : x.biased = level + 2 := by omega
    have none : x.magnitude % implicitBit = 0 := by
      rw [unit]
      omega
    have exponent : level + 2 - 1 - 1074 = 1 + (level - 1074) := by omega
    have power : twoPow 1 = 2 := twoPow_eq 1
    rw [significand_eq (by omega), none, biased, if_pos (by omega), exponent, twoPow_add, full,
      power, Nat.zero_add, ← Nat.mul_assoc, Nat.mul_comm implicitBit]
  · have biased : x.biased = level + 1 := by omega
    have rest : x.magnitude % implicitBit + implicitBit = units := by
      rw [unit]
      omega
    rw [significand_eq (by omega), rest, biased, if_pos (by omega), Nat.add_sub_cancel]

end BatchSync.Binary64
