import BatchSync.Number.Binary64
import BatchSync.Number.Digits

/-!
# Shortest decimal digits

The fewest decimal digits that read back as a given binary64 number, and of those the nearest to
it. The decimals that read back are an interval around the number, whose ends belong to it when
the last bit is zero; for one digit, two digits and so on, the two neighbours of the number on that
decimal grid are tried.

The number is written positionally wherever the program shows a number to people
(`Binary64.plainText`), and with an exponent where a document of numbers calls for one
(`Binary64.documentText`).
-/

namespace BatchSync

/-- A decimal `coefficient * 10 ^ exponent`. -/
structure DecimalDigits where
  coefficient : Nat
  exponent : Int
  deriving DecidableEq

/-- Which of two equally near decimals is taken. -/
inductive DecimalTie where
  | up
  | toEven
  deriving DecidableEq

namespace Binary64

/-- A positive quotient `num / den` and the bounds of the numbers that read back as it, over the
same denominator. -/
structure Neighbourhood where
  low : Nat
  value : Nat
  high : Nat
  den : Nat
  /-- Whether the bounds themselves read back. -/
  closed : Bool

/-- The decimals that read back as a finite number lie half way to its two neighbours. Below a
power of two the neighbours are twice as close. -/
def neighbourhood (x : Binary64) : Neighbourhood :=
  let m := x.significand
  let below := if m = implicitBit then 1 else 2
  let up := if 1076 ≤ x.level then Nat.pow 2 (x.level - 1076) else 1
  let den := if 1076 ≤ x.level then 1 else Nat.pow 2 (1076 - x.level)
  ⟨(4 * m - below) * up, 4 * m * up, (4 * m + 2) * up, den, m % 2 = 0⟩

/-- Whether `10 ^ k` is at most the value. -/
def Neighbourhood.reaches (b : Neighbourhood) (k : Int) : Bool :=
  if 0 ≤ k then decide (Nat.pow 10 k.toNat * b.den ≤ b.value)
  else decide (b.den ≤ b.value * Nat.pow 10 (-k).toNat)

/-- The greatest `k` for which `10 ^ k` is at most the value, from an estimate that is at most one
off. -/
def Neighbourhood.leading (b : Neighbourhood) (estimate : Int) : Int :=
  if b.reaches (estimate + 1) then estimate + 1
  else if b.reaches estimate then estimate else estimate - 1

/-- Whether `c * 10 ^ k` reads back, given as numerators over a common denominator. -/
def Neighbourhood.admits (b : Neighbourhood) (scale unit c : Nat) : Bool :=
  if b.closed then decide (b.low * scale ≤ c * unit) && decide (c * unit ≤ b.high * scale)
  else decide (b.low * scale < c * unit) && decide (c * unit < b.high * scale)

/-- The decimal on the grid of `10 ^ k` that reads back, if there is one: of two the nearer, and of
two equally near ones the one that the rule for ties takes. -/
def Neighbourhood.onGrid? (tie : DecimalTie) (b : Neighbourhood) (k : Int) : Option DecimalDigits :=
  let scale := Nat.pow 10 (-k).toNat
  let unit := b.den * Nat.pow 10 k.toNat
  let c := b.value * scale / unit
  let rest := b.value * scale % unit
  match b.admits scale unit c, b.admits scale unit (c + 1) with
  | false, false => none
  | true, false => some ⟨c, k⟩
  | false, true => some ⟨c + 1, k⟩
  | true, true =>
    if 2 * rest < unit then some ⟨c, k⟩
    else if unit < 2 * rest then some ⟨c + 1, k⟩
    else
      match tie with
      | .up => some ⟨c + 1, k⟩
      | .toEven => some ⟨if c % 2 = 0 then c else c + 1, k⟩

/-- The first grid with a decimal that reads back. Seventeen digits always suffice. -/
def Neighbourhood.shortest (tie : DecimalTie) (b : Neighbourhood) (leading : Int) : DecimalDigits :=
  ((List.range 17).findSome? fun (n : Nat) => b.onGrid? tie (leading - n)).getD ⟨0, 0⟩

/-- A decimal without the zeros at its end. -/
def dropZeros (fuel : Nat) (d : DecimalDigits) : DecimalDigits :=
  match fuel with
  | 0 => d
  | fuel + 1 =>
    if d.coefficient % 10 = 0 ∧ d.coefficient ≠ 0 then
      dropZeros fuel ⟨d.coefficient / 10, d.exponent + 1⟩
    else d

/-- The shortest decimal that reads back as the magnitude of a finite number other than zero. -/
def shortestDigits (tie : DecimalTie) (x : Binary64) : DecimalDigits :=
  let log2 : Int := x.significand.log2 + x.exponent
  let b := x.neighbourhood
  dropZeros 17 (b.shortest tie (b.leading (log2 * 30103 / 100000)))

/-! ## Texts -/

/-- The digits of a decimal, and the place of the point: the value is `0.d₁d₂… * 10 ^ point`. -/
def digitsAndPoint (tie : DecimalTie) (x : Binary64) : List Char × Int :=
  if x.isZero then (['0'], 1)
  else
    let d := x.shortestDigits tie
    let ds := digits d.coefficient
    (ds, d.exponent + ds.length)

/-- Digits with a point after the first `point` of them, and zeros where there are no digits. -/
def positional (ds : List Char) (point : Int) : List Char :=
  if point ≤ 0 then '0' :: '.' :: (List.replicate (-point).toNat '0' ++ ds)
  else if ds.length ≤ point.toNat then ds ++ List.replicate (point.toNat - ds.length) '0'
  else ds.take point.toNat ++ '.' :: ds.drop point.toNat

/-- A text with the sign of a number before it. -/
def withSign (x : Binary64) (text : List Char) : List Char :=
  if x.isNegative then '-' :: text else text

/-- The text of a number for people: the shortest digits, never with an exponent, and without a
point if the value is whole. -/
def plainText (x : Binary64) : String :=
  if x.isNaN then "NaN"
  else if x.isInfinite then String.ofList (x.withSign ['i', 'n', 'f'])
  else
    let (ds, point) := x.digitsAndPoint .up
    String.ofList (x.withSign (positional ds point))

/-- The text of a finite number in a document: the shortest digits, written positionally with at
least one place for magnitudes from `10 ^ -5` to below `10 ^ 16`, and with a signed exponent
outside of these. -/
def documentText (x : Binary64) : String :=
  let (ds, point) := x.digitsAndPoint .toEven
  let text :=
    if -5 < point ∧ point ≤ 16 then
      if (ds.length : Int) ≤ point then positional ds point ++ ['.', '0'] else positional ds point
    else
      let exponent := point - 1
      let sign := if exponent < 0 then '-' else '+'
      let head := ds.take 1 ++ (if ds.length = 1 then [] else '.' :: ds.drop 1)
      head ++ 'e' :: sign :: digits exponent.natAbs
  String.ofList (x.withSign text)

/-- The exact value of a number rounded to the given count of places, a tie going to the even
neighbour. -/
def fixedText (places : Nat) (x : Binary64) : String :=
  if x.isNaN then "NaN"
  else if x.isInfinite then String.ofList (x.withSign ['i', 'n', 'f'])
  else
    let (num, den) := x.ratio
    let rounded := divNearestEven (num * Nat.pow 10 places) den
    let ds := paddedDigits (places + 1) rounded
    let whole := ds.take (ds.length - places)
    let fraction := ds.drop (ds.length - places)
    String.ofList (x.withSign (if places = 0 then whole else whole ++ '.' :: fraction))

end Binary64

end BatchSync
