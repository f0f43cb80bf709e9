import BatchSync.Number.Binary64

/-!
# Integers of any size

How much room an integer takes, and the binary64 number it is narrowed to. An integer of more than
64 bits is first cut to its 64 leading bits, and that a lower bit was set is remembered in the last
of them, so that the rounding that follows goes the right way. Magnitudes whose binary exponent is
out of range narrow to an infinity.
-/

namespace BatchSync

/-- Number of bits of a magnitude, zero for zero. -/
def bitLength (n : Nat) : Nat := if n = 0 then 0 else n.log2 + 1

/-- Whether one of the low bits of a number is set. -/
def hasLowBits (count n : Nat) : Bool := n % Nat.pow 2 count != 0

/-- Whether a bit below the 64 leading ones is seen to be set. A magnitude is kept in words of 64
bits; the leading word uses `top` bits, and of each lower word only the lowest `top` bits are
looked at. For a magnitude of two words these are all the bits that are cut off. -/
def hasSeenLowBits (top : Nat) (words : Nat) (n : Nat) : Bool :=
  match words with
  | 0 => false
  | words + 1 => hasLowBits top (n % wordLimit) || hasSeenLowBits top words (n / wordLimit)

/-- The 64 leading bits of a magnitude, the last of them set if a lower bit is seen to be set. -/
def leadingBits (n : Nat) : Nat :=
  let bits := bitLength n
  if bits ≤ 64 then n
  else
    let head := n / Nat.pow 2 (bits - 64)
    let lowerWords := (bits - 1) / 64
    if hasSeenLowBits ((bits - 1) % 64 + 1) lowerWords n then
      (if head % 2 = 0 then head + 1 else head)
    else head

namespace Binary64

/-- The binary64 number that an integer is narrowed to. -/
def ofInteger (n : Int) : Binary64 :=
  let head := leadingBits n.natAbs
  let exponent := bitLength n.natAbs - bitLength head
  let negative := decide (n < 0)
  if 1024 < exponent then infinity negative
  else
    let x := nearest negative head 1
    nearest negative (x.ratio.1 * Nat.pow 2 exponent) x.ratio.2

/-- The narrowing of an integer as far as it is possible, which it always is: infinities are among the
numbers that integers are narrowed to. -/
def ofInteger? (n : Int) : Option Binary64 := some (ofInteger n)

end Binary64

/-- The room that an integer takes: its magnitude in whole bytes, and one more for the sign. -/
def integerByteSize (n : Int) : Nat := bitLength n.natAbs / 8 + 1

/-- The range of signed words of 64 bits. -/
def fitsInt64 (n : Int) : Bool :=
  decide (-(signedWordLimit : Int) ≤ n) && decide (n < signedWordLimit)

end BatchSync
