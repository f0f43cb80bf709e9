import BatchSync.Number.Word

/-!
# Binary64 numbers

The double-precision numbers, kept as their 64 bits, with exact arithmetic: every operation is
carried out on whole numbers and rounded once, to the nearest number and on a tie to the one whose
last bit is zero (`nearest`). A finite number is `± significand * 2 ^ exponent`.
-/

namespace BatchSync

/-- A double-precision number: sign, eleven bits of exponent, fifty-two bits of fraction. -/
structure Binary64 where
  bits : UInt64
  deriving DecidableEq

namespace Binary64

/-! ## Decoding -/

/-- Whether the sign bit is set. -/
def isNegative (x : Binary64) : Bool := decide (signedWordLimit ≤ x.bits.toNat)

/-- All bits but the sign. The order of magnitudes is the order of these numbers. -/
def magnitude (x : Binary64) : Nat := x.bits.toNat % signedWordLimit

/-- The weight of the bit that a significand has before its fraction of fifty-two bits. -/
def implicitBit : Nat := 4503599627370496

/-- The bits of an infinite magnitude. -/
def infiniteMagnitude : Nat := 2047 * implicitBit

/-- Whether the bits stand for no number. -/
def isNaN (x : Binary64) : Bool := decide (infiniteMagnitude < x.magnitude)

/-- Whether the number is one of the two infinities. -/
def isInfinite (x : Binary64) : Bool := decide (x.magnitude = infiniteMagnitude)

/-- Whether the bits stand for a finite number. -/
def isFinite (x : Binary64) : Bool := decide (x.magnitude < infiniteMagnitude)

/-- The exponent field. -/
def biased (x : Binary64) : Nat := x.magnitude / implicitBit

/-- The whole number that the magnitude of a finite number is a multiple of two to some power of. -/
def significand (x : Binary64) : Nat :=
  if x.biased = 0 then x.magnitude else x.magnitude % implicitBit + implicitBit

/-- How far the exponent lies above the least one, which is -1074. -/
def level (x : Binary64) : Nat := x.biased - 1

/-- The exponent of a finite number. -/
def exponent (x : Binary64) : Int := x.level - 1074

/-- The magnitude of a finite number as numerator and denominator. -/
def ratio (x : Binary64) : Nat × Nat :=
  if 1074 ≤ x.level then (x.significand * Nat.pow 2 (x.level - 1074), 1)
  else (x.significand, Nat.pow 2 (1074 - x.level))

/-! ## Making numbers -/

/-- The number with the given sign and magnitude bits. -/
def ofMagnitude (negative : Bool) (magnitude : Nat) : Binary64 :=
  ⟨UInt64.ofNat (if negative then signedWordLimit + magnitude else magnitude)⟩

/-- The number that stands for "not a number". -/
def nan : Binary64 := ⟨0x7ff8000000000000⟩

/-- An infinity. -/
def infinity (negative : Bool) : Binary64 := ofMagnitude negative infiniteMagnitude

/-- A zero, which has a sign. -/
def zero (negative : Bool) : Binary64 := ofMagnitude negative 0

/-- The quotient of two numbers rounded to the nearest whole number, a tie going to the even one. -/
def divNearestEven (num den : Nat) : Nat :=
  let q := num / den
  let r := num % den
  if den < 2 * r ∨ (2 * r = den ∧ q % 2 = 1) then q + 1 else q

/-- The level, counted from the exponent -1074, at which a quotient has fifty-three bits, or zero
if it has fewer at the least exponent. -/
def levelOf (num den : Nat) : Nat :=
  let high := num.log2 + 1022 - den.log2
  if high = 0 then 0
  else
    -- at this level the quotient has fifty-two or fifty-three bits
    let scaled :=
      if 1074 ≤ high then (num, den * Nat.pow 2 (high - 1074))
      else (num * Nat.pow 2 (1074 - high), den)
    if scaled.1 < scaled.2 * implicitBit then high - 1 else high

/-- The number nearest to a quotient, a tie going to the one whose last bit is zero. Magnitudes
from half a unit above the largest finite one become infinite. -/
def nearest (negative : Bool) (num den : Nat) : Binary64 :=
  if num = 0 then zero negative
  else
    let level := levelOf num den
    let rounded :=
      if 1074 ≤ level then divNearestEven num (den * Nat.pow 2 (level - 1074))
      else divNearestEven (num * Nat.pow 2 (1074 - level)) den
    ofMagnitude negative (min (level * implicitBit + rounded) infiniteMagnitude)

/-- The number nearest to a natural number. -/
def ofNat (n : Nat) : Binary64 := nearest false n 1

/-- The number nearest to an integer. -/
def ofInt (n : Int) : Binary64 := nearest (decide (n < 0)) n.natAbs 1

/-- The number nearest to `± digits * 10 ^ exponent`. A value that is far out of range is decided
by its size alone. -/
def ofDecimal (negative : Bool) (digits : Nat) (exponent : Int) : Binary64 :=
  if digits = 0 then zero negative
  else if 310 < exponent then infinity negative
  else
    let size : Int := digits.log2 / 3 + 1
    if exponent + size < -330 then zero negative
    else if 0 ≤ exponent then nearest negative (digits * Nat.pow 10 exponent.toNat) 1
    else nearest negative digits (Nat.pow 10 (-exponent).toNat)

/-! ## Order -/

/-- The place of a number in the order, in which both zeros share one place. -/
def place (x : Binary64) : Int := if x.isNegative then -(x.magnitude : Int) else x.magnitude

/-- Equality of numbers: the zeros are equal, and nothing equals a NaN. -/
def equals (x y : Binary64) : Bool := !x.isNaN && !y.isNaN && x.place == y.place

/-- Strictly less; false if one side is a NaN. -/
def lt (x y : Binary64) : Bool := !x.isNaN && !y.isNaN && decide (x.place < y.place)

/-- Less or equal; false if one side is a NaN. -/
def le (x y : Binary64) : Bool := !x.isNaN && !y.isNaN && decide (x.place ≤ y.place)

/-! ## Arithmetic -/

/-- Whether the number is one of the two zeros. -/
def isZero (x : Binary64) : Bool := decide (x.magnitude = 0)

/-- The number with the other sign. -/
def neg (x : Binary64) : Binary64 := ofMagnitude (!x.isNegative) x.magnitude

/-- The product, rounded. -/
def mul (x y : Binary64) : Binary64 :=
  let negative := x.isNegative != y.isNegative
  if x.isNaN || y.isNaN then nan
  else if x.isInfinite || y.isInfinite then
    if x.isZero || y.isZero then nan else infinity negative
  else
    let (a, b) := x.ratio
    let (c, d) := y.ratio
    nearest negative (a * c) (b * d)

/-- The quotient, rounded. -/
def div (x y : Binary64) : Binary64 :=
  let negative := x.isNegative != y.isNegative
  if x.isNaN || y.isNaN then nan
  else if x.isInfinite then if y.isInfinite then nan else infinity negative
  else if y.isInfinite then zero negative
  else if y.isZero then if x.isZero then nan else infinity negative
  else
    let (a, b) := x.ratio
    let (c, d) := y.ratio
    nearest negative (a * d) (b * c)

/-- The numerator of a finite number over the given denominator, with its sign. -/
def signedOver (x : Binary64) (den : Nat) : Int :=
  let (a, b) := x.ratio
  let n : Int := a * den / b
  if x.isNegative then -n else n

/-- The sum, rounded. A sum of zeros is negative only if both are. -/
def add (x y : Binary64) : Binary64 :=
  if x.isNaN || y.isNaN then nan
  else if x.isInfinite then
    if y.isInfinite && x.isNegative != y.isNegative then nan else x
  else if y.isInfinite then y
  else
    let den := x.ratio.2 * y.ratio.2
    let sum := x.signedOver den + y.signedOver den
    if sum = 0 then zero (x.isNegative && y.isNegative)
    else nearest (decide (sum < 0)) sum.natAbs den

/-- The number without its fraction, which keeps its sign. Numbers below one leave a zero, and from
2 ^ 52 on there is no fraction to drop. -/
def towardZero (x : Binary64) : Binary64 :=
  if x.biased < 1023 then zero x.isNegative
  else if 1075 ≤ x.biased then x
  else
    -- the bits of the fraction that weigh less than one
    ofMagnitude x.isNegative (x.magnitude - x.magnitude % Nat.pow 2 (1075 - x.biased))

/-- The integer part of a finite number: the value without its fraction. -/
def truncate (x : Binary64) : Int :=
  let n : Int := x.ratio.1 / x.ratio.2
  if x.isNegative then -n else n

end Binary64

end BatchSync
