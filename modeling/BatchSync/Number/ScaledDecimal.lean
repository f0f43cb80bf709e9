import BatchSync.Number.Numeral

/-!
# Scaled decimals

Decimals with a mantissa of 96 bits and a scale of at most 28 places, and how they are read. Digits
after the point that do not fit are rounded by the first of them alone, a half going up, and whatever
follows it is not looked at; digits before the point that do not fit are an error. A text that is no
positional decimal may be in scientific notation, which moves the scale or multiplies the mantissa.
-/

namespace BatchSync

open BatchSync.Text

/-- The number `± mantissa / 10 ^ scale`. -/
structure ScaledDecimal where
  negative : Bool
  mantissa : Nat
  scale : Nat
  deriving DecidableEq

namespace ScaledDecimal

/-- The bound of mantissas. -/
def mantissaLimit : Nat := Nat.pow 2 96

/-- The greatest scale. -/
def maxScale : Nat := 28

/-- A decimal, whose sign is dropped if it is zero. -/
def ofParts (negative : Bool) (mantissa scale : Nat) : ScaledDecimal :=
  ⟨negative && mantissa != 0, mantissa, scale⟩

/-- The value without its fraction. -/
def truncate (d : ScaledDecimal) : Int := signed d.negative (d.mantissa / Nat.pow 10 d.scale)

/-- The text of a decimal, which shows as many places as its scale. -/
def text (d : ScaledDecimal) : List Char :=
  let ds := paddedDigits (d.scale + 1) d.mantissa
  let whole := ds.take (ds.length - d.scale)
  let fraction := ds.drop (ds.length - d.scale)
  let body := if d.scale = 0 then whole else whole ++ '.' :: fraction
  if d.negative then '-' :: body else body

/-! ## Positional decimals -/

/-- What has been read of a positional decimal. -/
structure Progress where
  mantissa : Nat
  scale : Nat
  /-- Whether the point has been read. -/
  pointed : Bool
  /-- Whether a digit has been read. -/
  started : Bool

/-- Rounds off what does not fit, by the first character of it. Separators and a second point count
as a zero there. -/
def Progress.roundOff? (p : Progress) (c : Char) : Option (Nat × Nat) := do
  let digit ← match digitValue? c with
    | some d => some d
    | none => if c = '_' ∨ c = '.' then some 0 else none
  if digit < 5 then some (p.mantissa, p.scale)
  else if p.mantissa + 1 < mantissaLimit then some (p.mantissa + 1, p.scale)
  else if p.scale = 0 then none
  else some ((p.mantissa + 5) / 10, p.scale - 1)

/-- Reads the characters after the sign. Answers mantissa and scale. -/
def Progress.read? (p : Progress) : List Char → Option (Nat × Nat)
  | [] => if p.started then some (p.mantissa, p.scale) else none
  | c :: cs =>
    if p.pointed ∧ maxScale ≤ p.scale then p.roundOff? c
    else
      match digitValue? c with
      | some d =>
        let next := p.mantissa * 10 + d
        if next < mantissaLimit then
          read? ⟨next, if p.pointed then p.scale + 1 else 0, p.pointed, true⟩ cs
        else if p.pointed then p.roundOff? c else none
      | none =>
        if c = '.' ∧ ¬p.pointed then read? { p with pointed := true } cs
        else if c = '_' ∧ p.started then read? p cs
        else none

/-- Reads a positional decimal. -/
def readPositional? (cs : List Char) : Option ScaledDecimal := do
  let (negative, rest) := splitSign cs
  let (mantissa, scale) ← Progress.read? ⟨0, 0, false, false⟩ rest
  return ofParts negative mantissa scale

/-! ## Scientific notation -/

/-- The same number with another scale, if the scale is within bounds. -/
def withScale? (d : ScaledDecimal) (scale : Nat) : Option ScaledDecimal :=
  if scale ≤ maxScale then some { d with scale } else none

/-- Drops the fewest digits, but no more than there are after the point, so that the mantissa fits.
What is dropped is rounded to the nearest, a tie going to the even one. -/
def fit? (negative : Bool) (mantissa scale : Nat) : Option ScaledDecimal :=
  (List.range (scale + 1)).findSome? fun drop =>
    let rounded := Binary64.divNearestEven mantissa (Nat.pow 10 drop)
    if rounded < mantissaLimit then some (ofParts negative rounded (scale - drop)) else none

/-- The product with a whole number. The product of zero has scale zero. -/
def timesNat? (d : ScaledDecimal) (n : Nat) : Option ScaledDecimal :=
  if d.mantissa * n = 0 then some (ofParts false 0 0) else fit? d.negative (d.mantissa * n) d.scale

/-- The same value without zeros at the end of its fraction. -/
def normalize (d : ScaledDecimal) : ScaledDecimal :=
  if d.mantissa = 0 then ofParts false 0 0
  else
    (List.range d.scale).foldl
      (fun d _ => if d.scale ≠ 0 ∧ d.mantissa % 10 = 0 then ⟨d.negative, d.mantissa / 10, d.scale - 1⟩
        else d) d

/-- The greatest power of ten that one multiplication applies. -/
def powerStep : Nat := 19

/-- The product with a power of ten, in steps. -/
def timesPower? (d : ScaledDecimal) (exponent : Nat) : Option ScaledDecimal := do
  let first := min exponent powerStep
  let d ← d.timesNat? (Nat.pow 10 first)
  if exponent ≤ powerStep then d else d.timesNat? (Nat.pow 10 (exponent - first))

/-- Applies the exponent of a scientific numeral. -/
def applyExponent? (d : ScaledDecimal) (cs : List Char) : Option ScaledDecimal :=
  match cs with
  | '-' :: cs => do
    let exponent ← readUnsigned? 32 cs
    d.withScale? (d.scale + exponent)
  | _ => do
    let exponent ← readUnsigned? 32 cs
    if exponent ≤ d.scale then d.withScale? (d.scale - exponent)
    else if maxScale < exponent then none
    else (← d.timesPower? exponent).normalize

/-- Whether a character begins an exponent. -/
def isExponentMark (c : Char) : Bool := c == 'e' || c == 'E'

/-- Reads a decimal in scientific notation: a positional decimal, the letter `e`, an exponent. -/
def readScientific? (cs : List Char) : Option ScaledDecimal :=
  match cs.dropWhile (!isExponentMark ·) with
  | _ :: exponent => do
    (← readPositional? (cs.takeWhile (!isExponentMark ·))).applyExponent? exponent
  | [] => none

/-- Reads a decimal, positional or scientific, from a text with blanks around it. -/
def read? (cs : List Char) : Option ScaledDecimal :=
  let cs := trim cs
  match readPositional? cs with
  | some d => some d
  | none => readScientific? cs

end ScaledDecimal

/-- Reads an integer from a text with blanks around it: an integer of any size, or a decimal whose
fraction is dropped. -/
def readWhole? (cs : List Char) : Option Int :=
  match readInteger? (trim cs) with
  | some n => some n
  | none => (ScaledDecimal.read? cs).map ScaledDecimal.truncate

end BatchSync
