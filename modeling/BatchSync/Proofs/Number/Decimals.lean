import BatchSync.Number.ScaledDecimal
import BatchSync.Proofs.Calendar.Reading
import Mathlib.Data.List.TakeWhile

/-!
# Integers as scaled decimals

Reading digits as the mantissa of a scaled decimal. The mantissa only grows, so a run of digits is read
just if its number is below the bound of mantissas (`Progress.read?_digits_append`). The decimal text of
an integer is therefore read back as that integer, with scale zero, or not at all
(`read?_integerText`): without an exponent there is no other way to read it.
-/

namespace BatchSync

open BatchSync.Text BatchSync.Calendar

/-- The number that a run of digits denotes behind the digits of another number. -/
def readDigitsFrom (n : Nat) (cs : List Char) : Nat :=
  cs.foldl (fun n c => 10 * n + (c.toNat - 48)) n

theorem readDigits_eq_from (cs : List Char) : readDigits cs = readDigitsFrom 0 cs := rfl

/-- More digits do not make a number smaller. -/
theorem le_readDigitsFrom (n : Nat) (cs : List Char) : n ≤ readDigitsFrom n cs := by
  induction cs generalizing n with
  | nil => exact Nat.le_refl n
  | cons c cs ih =>
    have rest := ih (10 * n + (c.toNat - 48))
    show n ≤ readDigitsFrom (10 * n + (c.toNat - 48)) cs
    omega

theorem digitValue?_of_isDigit {c : Char} (digit : isDigit c = true) :
    digitValue? c = some (c.toNat - 48) := by
  unfold isDigit digitValue? at digit
  unfold digitValue?
  split at digit
  · rename_i inRange
    exact if_pos inRange
  · cases digit

/-- A number has no sign in front. -/
theorem splitSign_of_digits {ds : List Char} (digit : ∀ c ∈ ds, isDigit c = true) :
    splitSign ds = (false, ds) := by
  cases ds with
  | nil => rfl
  | cons c ds =>
    have first := digit c List.mem_cons_self
    have minus := ne_of_test first (by decide : isDigit '-' = false)
    have plus := ne_of_test first (by decide : isDigit '+' = false)
    simp [splitSign, minus, plus]

theorem splitSign_integerText (n : Int) :
    splitSign (integerText n) = (decide (n < 0), digits n.natAbs) := by
  unfold integerText
  split
  · rename_i negative
    rw [decide_eq_true negative]
    rfl
  · rename_i notNegative
    rw [decide_eq_false notNegative]
    exact splitSign_of_digits isDigit_of_mem_digits

theorem trim_integerText (n : Int) : trim (integerText n) = integerText n := by
  have all : ∀ c ∈ digits n.natAbs, isDigit c = true := isDigit_of_mem_digits
  have ne := digits_ne_nil n.natAbs
  unfold integerText
  split
  · have begins : trimLeft (['-'] ++ digits n.natAbs) = ['-'] ++ digits n.natAbs :=
      trimLeft_cons_of_not_isBlank rfl
    exact trim_append begins all ne
  · have begins : trimLeft ([] ++ digits n.natAbs) = [] ++ digits n.natAbs := by
      rw [List.nil_append, ← List.append_nil (digits n.natAbs), trimLeft_append [] all ne]
    exact trim_append begins all ne

namespace ScaledDecimal

theorem mantissaLimit_pos : 0 < mantissaLimit := by decide

/-- Digits before the point are read as long as their number is a mantissa. -/
theorem Progress.read?_digits_append {ds : List Char} (digit : ∀ c ∈ ds, isDigit c = true)
    (rest : List Char) {m : Nat} {started : Bool} (fits : m < mantissaLimit) :
    Progress.read? ⟨m, 0, false, started⟩ (ds ++ rest) =
      if readDigitsFrom m ds < mantissaLimit then
        Progress.read? ⟨readDigitsFrom m ds, 0, false, started || !ds.isEmpty⟩ rest
      else none := by
  induction ds generalizing m started with
  | nil => simp [readDigitsFrom, fits]
  | cons c ds ih =>
    have value := digitValue?_of_isDigit (digit c List.mem_cons_self)
    have next : m * 10 + (c.toNat - 48) = 10 * m + (c.toNat - 48) := by omega
    have read : readDigitsFrom m (c :: ds) = readDigitsFrom (10 * m + (c.toNat - 48)) ds := rfl
    rw [List.cons_append, Progress.read?, if_neg (fun h => Bool.false_ne_true h.1), value, read]
    dsimp only
    rw [next]
    by_cases goesOn : 10 * m + (c.toNat - 48) < mantissaLimit
    · rw [if_pos goesOn, if_neg Bool.false_ne_true,
        ih (fun c mem => digit c (List.mem_cons_of_mem _ mem)) goesOn]
      simp
    · -- What is too large stays too large.
      have grown := le_readDigitsFrom (10 * m + (c.toNat - 48)) ds
      rw [if_neg goesOn, if_neg Bool.false_ne_true, if_neg (by omega)]

theorem readPositional?_integerText (n : Int) :
    readPositional? (integerText n) =
      if n.natAbs < mantissaLimit then some ⟨decide (n < 0), n.natAbs, 0⟩ else none := by
  have started : (digits n.natAbs).isEmpty = false :=
    List.isEmpty_eq_false_iff.mpr (digits_ne_nil n.natAbs)
  have read : Progress.read? ⟨0, 0, false, false⟩ (digits n.natAbs) =
      if n.natAbs < mantissaLimit then some (n.natAbs, 0) else none := by
    rw [← List.append_nil (digits n.natAbs),
      Progress.read?_digits_append isDigit_of_mem_digits [] mantissaLimit_pos,
      ← readDigits_eq_from, readDigits_digits, started]
    rfl
  unfold readPositional?
  rw [splitSign_integerText]
  dsimp only
  rw [read]
  split
  · have sign : (decide (n < 0) && n.natAbs != 0) = decide (n < 0) := by
      by_cases negative : n < 0
      · have : n.natAbs ≠ 0 := by omega
        simp [this]
      · simp [negative]
    show some (ofParts _ _ _) = _
    rw [ofParts, sign]
  · rfl

/-- No exponent is read in a text without a mark for one. -/
theorem readScientific?_of_no_mark {cs : List Char}
    (plain : ∀ c ∈ cs, isExponentMark c = false) : readScientific? cs = none := by
  have all : cs.dropWhile (!isExponentMark ·) = [] :=
    List.dropWhile_eq_nil_iff.mpr fun c mem => by rw [plain c mem]; rfl
  unfold readScientific?
  rw [all]

theorem isExponentMark_of_isDigit {c : Char} (digit : isDigit c = true) :
    isExponentMark c = false := by
  have lower := ne_of_test digit (by decide : isDigit 'e' = false)
  have upper := ne_of_test digit (by decide : isDigit 'E' = false)
  simp [isExponentMark, lower, upper]

/-- The text of an integer is read as that integer, with scale zero, just if its magnitude is a
mantissa. -/
theorem read?_integerText (n : Int) :
    read? (integerText n) =
      if n.natAbs < mantissaLimit then some ⟨decide (n < 0), n.natAbs, 0⟩ else none := by
  have plain : ∀ c ∈ integerText n, isExponentMark c = false := by
    have all : ∀ c ∈ digits n.natAbs, isExponentMark c = false :=
      fun c mem => isExponentMark_of_isDigit (isDigit_of_mem_digits c mem)
    unfold integerText
    split
    · exact List.forall_mem_cons.mpr ⟨rfl, all⟩
    · exact all
  unfold read?
  rw [trim_integerText]
  dsimp only
  rw [readPositional?_integerText, readScientific?_of_no_mark plain]
  by_cases fits : n.natAbs < mantissaLimit
  · rw [if_pos fits]
  · rw [if_neg fits]

end ScaledDecimal

end BatchSync
