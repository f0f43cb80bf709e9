import BatchSync.Proofs.Column.RoundTrips
import BatchSync.Proofs.Number.Fractions

/-!
# Integers from numerals with a fraction

A text of digits with a fraction is no integer, so that a column reads it as a scaled decimal and drops
the fraction of that. But the decimal has been rounded before. Where the fraction has more digits than
the decimal keeps and rounding carries through all of them, the integer is one too large
(`Column.integers_of_pointed_numerals`).
-/

namespace BatchSync

open BatchSync.Text BatchSync.Calendar

/-- Blanks around a text that ends with a digit are trimmed. -/
theorem trim_blanks {before cs ds after : List Char} (blankBefore : ∀ c ∈ before, isBlank c = true)
    (begins : ∀ rest, trimLeft (cs ++ rest) = cs ++ rest) (digit : ∀ c ∈ ds, isDigit c = true)
    (ne : ds ≠ []) (blankAfter : ∀ c ∈ after, isBlank c = true) :
    trim (before ++ (cs ++ ds ++ after)) = cs ++ ds := by
  have leading : trimLeft (before ++ (cs ++ ds ++ after)) = cs ++ ds ++ after := by
    rw [List.append_assoc, ← begins (ds ++ after)]
    exact (List.dropWhile_append_of_pos blankBefore).trans (by
      change trimLeft (trimLeft _) = _
      rw [begins, begins])
  have trailing : trimLeft (after.reverse ++ (cs ++ ds).reverse) = (cs ++ ds).reverse := by
    have digits := trimLeft_append cs.reverse (fun c mem => digit c (List.mem_reverse.mp mem))
      (List.reverse_ne_nil_iff.mpr ne)
    rw [List.reverse_append, ← digits]
    exact (List.dropWhile_append_of_pos fun c mem => blankAfter c (List.mem_reverse.mp mem)).trans (by
      change trimLeft (trimLeft _) = _
      rw [digits, digits])
  rw [trim, leading, List.reverse_append, trailing, List.reverse_reverse]

/-- A numeral with a fraction: a sign or none, digits, a point and digits, with blanks around it. -/
structure PointedNumeral where
  before : List Char
  sign : List Char
  whole : List Char
  fraction : List Char
  after : List Char
  isBlank_before : ∀ c ∈ before, isBlank c = true
  isSign : sign = [] ∨ sign = ['+'] ∨ sign = ['-']
  isDigit_whole : ∀ c ∈ whole, isDigit c = true
  whole_ne_nil : whole ≠ []
  isDigit_fraction : ∀ c ∈ fraction, isDigit c = true
  fraction_ne_nil : fraction ≠ []
  isBlank_after : ∀ c ∈ after, isBlank c = true

namespace PointedNumeral

open ScaledDecimal

variable (p : PointedNumeral)

/-- The numeral without the blanks. -/
def numeral : List Char := p.sign ++ (p.whole ++ ['.']) ++ p.fraction

/-- The numeral as it is written. -/
def text : String := String.ofList (p.before ++ (p.numeral ++ p.after))

/-- Whether there is a minus sign. -/
def negative : Bool := decide (p.sign = ['-'])

/-- The magnitude of the integer before the point. -/
def wholeNumber : Nat := readDigits p.whole

/-- The magnitude of the integer that is read. -/
def roundedWhole : Nat := p.wholeNumber + carry p.wholeNumber p.fraction

theorem splitSign_numeral : splitSign p.numeral = (p.negative, p.whole ++ '.' :: p.fraction) := by
  have begins : ∀ rest, splitSign (p.whole ++ rest) = (false, p.whole ++ rest) := by
    intro rest
    obtain ⟨c, cs, eq⟩ := List.exists_cons_of_ne_nil p.whole_ne_nil
    have digit := p.isDigit_whole c (eq ▸ List.mem_cons_self)
    have minus := ne_of_test digit (by decide : isDigit '-' = false)
    have plus := ne_of_test digit (by decide : isDigit '+' = false)
    rw [eq]
    simp [splitSign, minus, plus]
  unfold numeral negative
  rcases p.isSign with sign | sign | sign
  · rw [sign, List.nil_append, List.append_assoc, begins]
    rfl
  · rw [sign, List.append_assoc, List.append_assoc]
    rfl
  · rw [sign, List.append_assoc, List.append_assoc]
    rfl

theorem trim_text : trim p.text.toList = p.numeral := by
  have begins : ∀ rest, trimLeft (p.sign ++ (p.whole ++ ['.']) ++ rest) =
      p.sign ++ (p.whole ++ ['.']) ++ rest := by
    intro rest
    rcases p.isSign with sign | sign | sign
    · rw [sign, List.nil_append, List.append_assoc]
      exact trimLeft_append _ p.isDigit_whole p.whole_ne_nil
    · rw [sign]
      exact trimLeft_cons_of_not_isBlank rfl
    · rw [sign]
      exact trimLeft_cons_of_not_isBlank rfl
  unfold text
  rw [String.toList_ofList]
  exact trim_blanks p.isBlank_before begins p.isDigit_fraction p.fraction_ne_nil p.isBlank_after

/-- The point keeps the numeral from being an integer. -/
theorem readInteger?_numeral : readInteger? p.numeral = none := by
  unfold readInteger?
  rw [p.splitSign_numeral]
  dsimp only
  obtain ⟨c, cs, eq⟩ := List.exists_cons_of_ne_nil p.whole_ne_nil
  have point : (cs ++ '.' :: p.fraction).all (fun c => isDigit c || c == '_') = false := by
    rw [List.all_append, List.all_cons]
    simp [isDigit, digitValue?]
  rw [eq, List.cons_append, readGroupedDigits?, point, Bool.and_false]
  rfl

/-- There is no mark of an exponent in the numeral. -/
theorem readScientific?_numeral : readScientific? p.numeral = none := by
  refine readScientific?_of_no_mark fun c mem => ?_
  simp only [numeral, List.mem_append, List.mem_singleton] at mem
  rcases mem with (sign | whole | rfl) | fraction
  · rcases p.isSign with eq | eq | eq
    · rw [eq] at sign
      cases sign
    · rw [eq, List.mem_singleton] at sign
      subst sign
      rfl
    · rw [eq, List.mem_singleton] at sign
      subst sign
      rfl
  · exact isExponentMark_of_isDigit (p.isDigit_whole c whole)
  · rfl
  · exact isExponentMark_of_isDigit (p.isDigit_fraction c fraction)

/-- Of the digits, the whole number is read with the carry of the fraction. -/
theorem read?_digits : (Progress.read? ⟨0, 0, false, false⟩ (p.whole ++ '.' :: p.fraction)).map wholeOf =
    if p.roundedWhole < mantissaLimit then some p.roundedWhole else none := by
  have started : (false || !p.whole.isEmpty) = true := by
    rw [List.isEmpty_eq_false_iff.mpr p.whole_ne_nil]
    rfl
  rw [Progress.read?_digits_append p.isDigit_whole _ mantissaLimit_pos, ← readDigits_eq_from, started]
  split
  · rename_i fits
    exact Progress.read?_fraction fits p.isDigit_fraction
  · rename_i large
    have larger : ¬p.roundedWhole < mantissaLimit := fun lt =>
      large (Nat.lt_of_le_of_lt (Nat.le_add_right _ _) lt)
    rw [if_neg larger]
    rfl

theorem truncate_ofParts (negative : Bool) (m places : Nat) :
    (ofParts negative m places).truncate = signed negative (wholeOf (m, places)) := by
  unfold ofParts truncate wholeOf
  cases m with
  | zero => cases negative <;> simp [signed]
  | succ m => simp

/-- The integer part of the decimal that the numeral is read as. -/
theorem readPositional?_numeral : (readPositional? p.numeral).map truncate =
    if p.roundedWhole < mantissaLimit then some (signed p.negative p.roundedWhole) else none := by
  have digits := p.read?_digits
  unfold readPositional?
  rw [p.splitSign_numeral]
  dsimp only
  cases read : Progress.read? ⟨0, 0, false, false⟩ (p.whole ++ '.' :: p.fraction) with
  | none =>
    rw [read] at digits
    split at digits
    · cases digits
    · rename_i large
      rw [if_neg large]
      rfl
  | some parts =>
    rw [read] at digits
    split at digits
    · rename_i fits
      show some (ofParts _ _ _).truncate = _
      rw [truncate_ofParts, Option.some.inj digits, if_pos fits]
    · cases digits

/-- The integer that the numeral is read as. -/
theorem readWhole?_text : readWhole? p.text.toList =
    if p.roundedWhole < mantissaLimit then some (signed p.negative p.roundedWhole) else none := by
  unfold readWhole? ScaledDecimal.read?
  rw [p.trim_text, p.readInteger?_numeral, ← p.readPositional?_numeral]
  dsimp only
  rw [p.readScientific?_numeral]
  cases readPositional? p.numeral with
  | none => rfl
  | some d => rfl

end PointedNumeral

namespace Column

open ScaledDecimal (mantissaLimit maxScale)

/-- A numeral with a fraction is converted to the integer before its point, or to one that is larger by
one in magnitude if rounding carries through all digits of the fraction that the decimal keeps; or the
conversion fails, if that is no mantissa or is out of range. The fraction is dropped and nothing else if
the decimal keeps all digits. -/
theorem integers_of_pointed_numerals (p : PointedNumeral) :
    (Column.string p.text).asBigInteger =
      (if p.roundedWhole < mantissaLimit then .ok (some (signed p.negative p.roundedWhole))
        else .error ⟨.string, .bigInteger, some s!"'{p.text}' is not a number"⟩) ∧
    (Column.string p.text).asLong =
      (if p.roundedWhole < mantissaLimit then
        if fitsInt64 (signed p.negative p.roundedWhole) then
          .ok (some (signed p.negative p.roundedWhole))
        else .error ⟨.string, .long, some s!"'{p.text}' is out of range"⟩
      else .error ⟨.string, .long, some s!"'{p.text}' is not a number"⟩) ∧
    p.wholeNumber ≤ p.roundedWhole ∧ p.roundedWhole ≤ p.wholeNumber + 1 ∧
    (p.fraction.length ≤ maxScale → readDigits (p.whole ++ p.fraction) < mantissaLimit →
      p.roundedWhole = p.wholeNumber) := by
  refine ⟨?_, ?_, Nat.le_add_right _ _, ?_, fun places fits => ?_⟩
  · unfold asBigInteger
    dsimp only
    rw [p.readWhole?_text]
    split
    · rfl
    · rfl
  · have read := p.readWhole?_text
    split at read
    · rename_i fits
      rw [asLong_of_readWhole? read, if_pos fits]
    · rename_i large
      unfold asLong
      dsimp only
      rw [read, if_neg large]
      rfl
  · exact Nat.add_le_add_left (ScaledDecimal.carry_le_one _ _) _
  · rw [readDigits_eq_from, readDigitsFrom_append] at fits
    have none_carried : ScaledDecimal.carry p.wholeNumber p.fraction = 0 :=
      ScaledDecimal.carry_of_fits places fits
    unfold PointedNumeral.roundedWhole
    rw [none_carried, Nat.add_zero]

/-- A negative numeral with blanks on both sides. -/
def minusTwelve : PointedNumeral where
  before := [' ', '\t']
  sign := ['-']
  whole := ['1', '2']
  fraction := ['7', '5']
  after := ['\n']
  isBlank_before := List.all_eq_true.mp rfl
  isSign := .inr (.inr rfl)
  isDigit_whole := List.all_eq_true.mp rfl
  whole_ne_nil := nofun
  isDigit_fraction := List.all_eq_true.mp rfl
  fraction_ne_nil := nofun
  isBlank_after := List.all_eq_true.mp rfl

/-- It is converted to its integer part, towards zero. -/
theorem integers_of_pointed_numerals_minusTwelve :
    minusTwelve.text = " \t-12.75\n" ∧ minusTwelve.fraction.length ≤ maxScale ∧
      readDigits (minusTwelve.whole ++ minusTwelve.fraction) < mantissaLimit ∧
      (Column.string minusTwelve.text).asBigInteger = .ok (some (-12)) ∧
      (Column.string minusTwelve.text).asLong = .ok (some (-12)) := by
  have places : minusTwelve.fraction.length ≤ maxScale := by decide
  have fits : readDigits (minusTwelve.whole ++ minusTwelve.fraction) < mantissaLimit := by decide
  obtain ⟨big, long, _, _, exact⟩ := integers_of_pointed_numerals minusTwelve
  rw [exact places fits] at big long
  exact ⟨by decide, places, fits, big.trans (by decide), long.trans (by decide)⟩

/-- Nought and twenty-nine nines behind the point. -/
def nearlyOne : PointedNumeral where
  before := []
  sign := []
  whole := ['0']
  fraction := List.replicate 29 '9'
  after := []
  isBlank_before := List.forall_mem_nil _
  isSign := .inl rfl
  isDigit_whole := List.all_eq_true.mp rfl
  whole_ne_nil := nofun
  isDigit_fraction := List.all_eq_true.mp rfl
  fraction_ne_nil := nofun
  isBlank_after := List.forall_mem_nil _

/-- All places there are are kept, the first digit behind them rounds up, and this carries. -/
theorem roundedWhole_nearlyOne : nearlyOne.roundedWhole = 1 := by
  have kept : ScaledDecimal.keptPlaces 0 (List.replicate 29 '9') = 28 :=
    Nat.findGreatest_eq (by decide : ScaledDecimal.Takes 0 (List.replicate 29 '9') 28)
  have nines : allNines (List.replicate 28 '9') = true := by decide
  have carried : ScaledDecimal.carry 0 (List.replicate 29 '9') = 1 := by
    unfold ScaledDecimal.carry
    rw [kept]
    exact if_pos ⟨by decide, .inl nines⟩
  have whole : nearlyOne.wholeNumber = 0 := rfl
  have fraction : nearlyOne.fraction = List.replicate 29 '9' := rfl
  rw [PointedNumeral.roundedWhole, whole, fraction, carried]

/-- A number below one is converted to one. -/
theorem nearly_one_is_not_truncated :
    ¬ ∀ p : PointedNumeral, ∀ n : Int,
      (Column.string p.text).asBigInteger = .ok (some n) ∨
        (Column.string p.text).asLong = .ok (some n) →
      n = signed p.negative p.wholeNumber := by
  intro truncates
  have read : readWhole? nearlyOne.text.toList = some 1 := by
    rw [nearlyOne.readWhole?_text, roundedWhole_nearlyOne]
    exact if_pos (by decide)
  have converted : (Column.string nearlyOne.text).asBigInteger = .ok (some 1) := by
    unfold asBigInteger
    dsimp only
    rw [read]
    rfl
  exact absurd (truncates nearlyOne 1 (.inl converted)) (by decide)

end Column

end BatchSync
