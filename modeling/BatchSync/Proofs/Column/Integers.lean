import BatchSync.Column.Conversion
import BatchSync.Proofs.Number.Decimals
import BatchSync.Proofs.Number.WholeParts

/-!
# Integers of 64 bits and of any size

A column is converted to an integer of 64 bits and to one of any size on ways of their own. A double is
looked at among the doubles first, where the greatest integer of 64 bits is rounded up to one out of
range; `wholeInt64?_eq` says that this is the range of its integer part all the same. So the two agree on
all columns but dates (`integer_conversions_agree`), and an integer is a scaled decimal as far as
mantissas go.
-/

namespace BatchSync.Column

open BatchSync.Binary64 (int64Magnitude)

/-! ## The range among the doubles -/

theorem place_leastInt64 : leastInt64.place = -(int64Magnitude : Int) := by decide

theorem place_greatestInt64 : greatestInt64.place = (int64Magnitude : Int) := by decide

theorem isNaN_of_isFinite {x : Binary64} (finite : x.isFinite = true) : x.isNaN = false := by
  unfold Binary64.isFinite at finite
  unfold Binary64.isNaN
  rw [decide_eq_true_eq] at finite
  exact decide_eq_false (Nat.lt_asymm finite)

/-- The two bounds among the doubles are the range of the integer part. -/
theorem bounds_eq_fitsInt64 {x : Binary64} (finite : x.isFinite = true) :
    (leastInt64.le x && x.lt greatestInt64) = fitsInt64 x.truncate := by
  have number := isNaN_of_isFinite finite
  have least : leastInt64.isNaN = false := by decide
  have greatest : greatestInt64.isNaN = false := by decide
  rw [Bool.eq_iff_iff, Binary64.fitsInt64_truncate_iff, Bool.and_eq_true, Binary64.le, Binary64.lt,
    number, least, greatest, place_leastInt64, place_greatestInt64]
  simp

/-- The range that a double is looked at for is that of its integer part. -/
theorem wholeInt64?_eq (x : Binary64) :
    wholeInt64? x = (wholePart? x.towardZero).bind int64? := by
  unfold wholeInt64? wholePart?
  dsimp only
  cases finite : x.towardZero.isFinite with
  | false => simp
  | true =>
    rw [Bool.true_and, bounds_eq_fitsInt64 finite]
    rfl

/-- The integer part of a double of any size is its exact value, rounded towards zero. -/
theorem wholePart?_towardZero (x : Binary64) :
    wholePart? x.towardZero =
      if x.isFinite then some (if x.value < 0 then ⌈x.value⌉ else ⌊x.value⌋) else none := by
  unfold wholePart?
  rw [Binary64.isFinite_towardZero, Binary64.truncate_towardZero, Binary64.truncate_eq]

/-! ## What conversions give -/

theorem fitsInt64_iff (n : Int) :
    fitsInt64 n = true ↔ -(signedWordLimit : Int) ≤ n ∧ n < signedWordLimit := by
  unfold fitsInt64
  rw [Bool.and_eq_true, decide_eq_true_eq, decide_eq_true_eq]

theorem bind_int64?_eq_some_iff {n? : Option Int} {n : Int} :
    n?.bind int64? = some n ↔ n? = some n ∧ fitsInt64 n = true := by
  cases n? with
  | none => simp
  | some m =>
    rw [Option.bind_some, int64?]
    split
    · rename_i fits
      exact ⟨fun eq => ⟨eq, Option.some.inj eq ▸ fits⟩, fun h => h.1⟩
    · rename_i large
      exact ⟨nofun, fun h => absurd h.2 (Option.some.inj h.1 ▸ large)⟩

theorem orInvalid_eq_ok_iff {α : Type} {c : Column} {target : ConversionTarget} {reason : String}
    {a? : Option α} {a : α} : c.orInvalid target reason a? = .ok (some a) ↔ a? = some a := by
  cases a? with
  | none => exact ⟨nofun, nofun⟩
  | some b => simp [orInvalid]

/-- A text is one integer for both conversions. -/
theorem asLong_string_eq_ok_iff (s : String) (n : Int) :
    (Column.string s).asLong = .ok (some n) ↔
      (readWhole? s.toList).bind int64? = some n := by
  unfold asLong
  dsimp only
  cases readWhole? s.toList with
  | none => exact orInvalid_eq_ok_iff
  | some m => exact orInvalid_eq_ok_iff

/-- A column is an integer of 64 bits just if it is one of any size that fits. -/
theorem asLong_eq_ok_iff {c : Column} (notDate : c.kind ≠ .date) (n : Int) :
    c.asLong = .ok (some n) ↔ c.asBigInteger = .ok (some n) ∧ fitsInt64 n = true := by
  cases c with
  | null => exact ⟨nofun, nofun⟩
  | long m =>
    have any : (Column.long m).asBigInteger = .ok (some n) ↔ some m = some n := by
      simp [asBigInteger]
    rw [any, ← bind_int64?_eq_some_iff]
    exact orInvalid_eq_ok_iff
  | double x =>
    unfold asLong asBigInteger
    dsimp only
    rw [orInvalid_eq_ok_iff, orInvalid_eq_ok_iff, wholeInt64?_eq, bind_int64?_eq_some_iff]
  | string s =>
    rw [asLong_string_eq_ok_iff, bind_int64?_eq_some_iff]
    unfold asBigInteger
    rw [orInvalid_eq_ok_iff]
  | bool b =>
    have fits : fitsInt64 (if b then 1 else 0) = true := by cases b <;> decide
    show Except.ok (some _) = _ ↔ Except.ok (some _) = _ ∧ _
    exact ⟨fun eq => ⟨eq, Option.some.inj (Except.ok.inj eq) ▸ fits⟩, fun h => h.1⟩
  | date millis type => exact absurd rfl notDate
  | bytes b => exact ⟨nofun, nofun⟩

/-- A double without an integer part fails both conversions. -/
theorem fails_of_not_isFinite {x : Binary64} (notFinite : x.isFinite = false) :
    (∃ e, (Column.double x).asBigInteger = .error e) ∧ ∃ e, (Column.double x).asLong = .error e := by
  have none : wholePart? x.towardZero = none := by rw [wholePart?_towardZero, notFinite]; rfl
  unfold asBigInteger asLong
  dsimp only
  rw [wholeInt64?_eq, none]
  exact ⟨⟨_, rfl⟩, ⟨_, rfl⟩⟩

theorem asBigInteger_of_isFinite {x : Binary64} (finite : x.isFinite = true) :
    (Column.double x).asBigInteger = .ok (some (if x.value < 0 then ⌈x.value⌉ else ⌊x.value⌋)) := by
  unfold asBigInteger
  dsimp only
  rw [wholePart?_towardZero, finite]
  rfl

/-- The conversions of columns to integers agree. A column other than a date is an integer of 64 bits
just if it is one of any size in their range; for a double this is its exact value rounded towards zero,
and neither for NaN and the infinities; and an integer is a scaled decimal, with its own value and
nothing behind the point, just if its magnitude has at most 96 bits. -/
theorem integer_conversions_agree :
    (∀ c : Column, c.kind ≠ .date → ∀ n : Int,
      c.asLong = .ok (some n) ↔
        c.asBigInteger = .ok (some n) ∧ -(signedWordLimit : Int) ≤ n ∧ n < signedWordLimit) ∧
    (∀ x : Binary64,
      (x.isFinite = true →
        (Column.double x).asBigInteger =
          .ok (some (if x.value < 0 then ⌈x.value⌉ else ⌊x.value⌋))) ∧
      (x.isFinite = false →
        (∃ e, (Column.double x).asBigInteger = .error e) ∧
          ∃ e, (Column.double x).asLong = .error e)) ∧
    ∀ n : Int,
      (Column.long n).asBigDecimal =
        if n.natAbs ≤ Nat.pow 2 96 - 1 then .ok (some ⟨decide (n < 0), n.natAbs, 0⟩)
        else .error ⟨.long, .bigDecimal, some (shown n ++ " is out of range")⟩ := by
  refine ⟨fun c notDate n => ?_, fun x => ⟨asBigInteger_of_isFinite, fails_of_not_isFinite⟩,
    fun n => ?_⟩
  · rw [asLong_eq_ok_iff notDate, fitsInt64_iff]
  · have mantissa : n.natAbs ≤ Nat.pow 2 96 - 1 ↔ n.natAbs < ScaledDecimal.mantissaLimit :=
      Nat.le_sub_one_iff_lt (by decide)
    unfold asBigDecimal
    dsimp only
    rw [ScaledDecimal.read?_integerText]
    by_cases fits : n.natAbs < ScaledDecimal.mantissaLimit
    · rw [if_pos fits, if_pos (mantissa.mpr fits)]
      rfl
    · rw [if_neg fits, if_neg (mt mantissa.mp fits)]
      rfl

/-- The least integer of 64 bits is a double, and it is the same integer on both ways. NaN is none. -/
theorem integer_conversions_agree_least :
    (Column.double leastInt64).kind ≠ .date ∧
      (Column.double leastInt64).asLong = .ok (some (-9223372036854775808)) ∧
      leastInt64.isFinite = true ∧
      (∃ n, (Column.double leastInt64).asBigInteger = .ok (some n)) ∧
      Binary64.isFinite ⟨0x7FF8000000000000⟩ = false ∧
      ∃ e, (Column.double ⟨0x7FF8000000000000⟩).asLong = .error e :=
  have all := integer_conversions_agree
  have whole : (Column.double leastInt64).asBigInteger = .ok (some (-9223372036854775808)) := by decide
  ⟨by decide, (all.1 _ (by decide) _).mpr ⟨whole, by decide, by decide⟩, by decide,
    ⟨_, (all.2.1 leastInt64).1 (by decide)⟩, by decide, ((all.2.1 _).2 (by decide)).2⟩

end BatchSync.Column
