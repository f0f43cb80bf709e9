import BatchSync.Number.Binary64
import BatchSync.Number.Digits
import BatchSync.Text.Blank

/-!
# Numerals

Reading integers of any size, words of 32 bits and binary64 numbers from text that has been trimmed.
Integers may group their digits with `_` after the first one; binary64 numerals may not, and may be
in scientific notation or name an infinity or a NaN.
-/

namespace BatchSync

open BatchSync.Text

/-- An optional sign at the start of a text. -/
def splitSign : List Char → Bool × List Char
  | '-' :: cs => (true, cs)
  | '+' :: cs => (false, cs)
  | cs => (false, cs)

/-- An integer with the given sign. -/
def signed (negative : Bool) (n : Nat) : Int := if negative then -(n : Int) else n

/-- Reads digits with `_` between or after them; the first character has to be a digit. -/
def readGroupedDigits? : List Char → Option Nat
  | c :: cs =>
    if isDigit c && cs.all (fun c => isDigit c || c == '_') then
      some (readDigits ((c :: cs).filter isDigit))
    else none
  | [] => none

/-- Reads an integer of any size: a sign or none, then grouped digits. A sign may not follow a
sign. -/
def readInteger? (cs : List Char) : Option Int :=
  let (negative, rest) := splitSign cs
  (readGroupedDigits? rest).map (signed negative)

/-- Reads a run of digits that fits in the given number of bits, after a plus sign or none. -/
def readUnsigned? (bits : Nat) (cs : List Char) : Option Nat :=
  let rest := match cs with
    | '+' :: rest => rest
    | _ => cs
  if rest ≠ [] ∧ rest.all isDigit ∧ readDigits rest < Nat.pow 2 bits then some (readDigits rest) else none

/-! ## Binary64 numerals -/

/-- Splits a text after its leading digits. -/
def spanDigits (cs : List Char) : List Char × List Char :=
  (cs.takeWhile isDigit, cs.dropWhile isDigit)

/-- The exponent of a numeral, which follows the letter `e`: a sign or none and at least one
digit. -/
def readExponent? : List Char → Option Int
  | [] => some 0
  | c :: cs =>
    if c = 'e' ∨ c = 'E' then
      let (negative, ds) := splitSign cs
      if ds ≠ [] ∧ ds.all isDigit then some (signed negative (readDigits ds)) else none
    else none

/-- Reads a decimal numeral: digits with at most one point, at least one digit in all, and an
exponent or none. -/
def readDecimalNumeral? (negative : Bool) (cs : List Char) : Option Binary64 := do
  let (whole, rest) := spanDigits cs
  let (fraction, rest) := match rest with
    | '.' :: rest => spanDigits rest
    | _ => ([], rest)
  if whole = [] ∧ fraction = [] then none
  else
    let exponent ← readExponent? rest
    return Binary64.ofDecimal negative (readDigits (whole ++ fraction)) (exponent - fraction.length)

/-- Reads a binary64 number, rounding to the nearest one. -/
def readBinary64? (cs : List Char) : Option Binary64 :=
  let (negative, rest) := splitSign cs
  if eqIgnoringAsciiCase rest ['n', 'a', 'n'] then some Binary64.nan
  else if eqIgnoringAsciiCase rest ['i', 'n', 'f'] ∨
      eqIgnoringAsciiCase rest ['i', 'n', 'f', 'i', 'n', 'i', 't', 'y'] then
    some (Binary64.infinity negative)
  else readDecimalNumeral? negative rest

end BatchSync
