import BatchSync.Json.Basic
import BatchSync.Number.Numeral
import BatchSync.Number.Word

/-!
# Reading JSON

Reads one JSON value from a text. Integers of the range of 64 bits, signed or unsigned, stay
integers; all other numbers become binary64 numbers, by scaling the leading digits, as far as they
fit in 64 bits, by a power of ten. Numbers out of range become infinite, and nesting is not
limited: `Json.isWithin` is for those who want either refused. Strings have to be text, except in
members that are not asked for, of which only the form matters.
-/

namespace BatchSync.Json

open BatchSync.Text

/-- The text after its leading blanks. -/
def skipBlanks (cs : List Char) : List Char :=
  cs.dropWhile fun c => c == ' ' || c == '\t' || c == '\n' || c == '\r'

/-! ## Strings -/

/-- The value of a hexadecimal digit in either case. -/
def hexValue? (c : Char) : Option Nat :=
  match digitValue? c with
  | some d => some d
  | none =>
    if 'a' ≤ c ∧ c ≤ 'f' then some (c.toNat - 87)
    else if 'A' ≤ c ∧ c ≤ 'F' then some (c.toNat - 55) else none

/-- The number that four hexadecimal digits denote. -/
def hexCode? (a b c d : Char) : Option Nat := do
  let a ← hexValue? a
  let b ← hexValue? b
  let c ← hexValue? c
  let d ← hexValue? d
  return ((a * 16 + b) * 16 + c) * 16 + d

/-- The character that a letter after a backslash stands for. -/
def escaped? (c : Char) : Option Char :=
  if c = '"' ∨ c = '\\' ∨ c = '/' then some c
  else if c = 'b' then some '\x08'
  else if c = 'f' then some '\x0c'
  else if c = 'n' then some '\n'
  else if c = 'r' then some '\r'
  else if c = 't' then some '\t'
  else none

/-- Reads a quoted string after its opening quote. Characters outside the basic plane may be
written as two codes; neither of them is a character by itself, unless only the form matters, in
which case each is replaced. -/
def readString? (formOnly : Bool) : List Char → Option (List Char × List Char)
  | '"' :: rest => some ([], rest)
  | '\\' :: 'u' :: a :: b :: c :: d :: rest =>
    match hexCode? a b c d with
    | none => none
    | some high =>
      if high < 0xD800 ∨ 0xDFFF < high then
        (readString? formOnly rest).map fun (s, rest) => (Char.ofNat high :: s, rest)
      else if formOnly then
        (readString? formOnly rest).map fun (s, rest) => ('\ufffd' :: s, rest)
      else if 0xDC00 ≤ high then none
      else
        match rest with
        | '\\' :: 'u' :: a :: b :: c :: d :: rest =>
          match hexCode? a b c d with
          | none => none
          | some low =>
            if low < 0xDC00 ∨ 0xDFFF < low then none
            else
              let code := 0x10000 + (high - 0xD800) * 0x400 + (low - 0xDC00)
              (readString? formOnly rest).map fun (s, rest) => (Char.ofNat code :: s, rest)
        | _ => none
  | '\\' :: c :: rest =>
    match escaped? c with
    | none => none
    | some e => (readString? formOnly rest).map fun (s, rest) => (e :: s, rest)
  | c :: rest =>
    if c.toNat < 32 ∨ c = '\\' then none
    else (readString? formOnly rest).map fun (s, rest) => (c :: s, rest)
  | [] => none

/-! ## Numbers -/

/-- A power of ten as a binary64 number. -/
def powerOfTen (k : Nat) : Binary64 := Binary64.ofDecimal false 1 k

/-- Scales a number by a power of ten. Powers that are no binary64 numbers are applied in parts. -/
def scaleByPower : Nat → Binary64 → Int → Binary64
  | fuel, x, exponent =>
    if exponent.natAbs ≤ 308 then
      if 0 ≤ exponent then x.mul (powerOfTen exponent.natAbs) else x.div (powerOfTen exponent.natAbs)
    else if x.isZero then x
    else if 0 ≤ exponent then Binary64.infinity x.isNegative
    else
      match fuel with
      | 0 => Binary64.zero x.isNegative
      | fuel + 1 => scaleByPower fuel (x.div (powerOfTen 308)) (exponent + 308)

/-- The digits of a number that fit in 64 bits, and how many follow the last of them. -/
def leadingDigits (value : Nat) : List Char → Nat × Nat
  | [] => (value, 0)
  | c :: cs =>
    let next := value * 10 + (c.toNat - 48)
    if next < wordLimit then leadingDigits next cs else (value, (c :: cs).length)

/-- The binary64 number of a numeral. -/
def floatOf (negative : Bool) (whole fraction : List Char) (exponent : Int) : Binary64 :=
  let (value, passed) := leadingDigits 0 whole
  let (value, left) := leadingDigits value fraction
  let places := fraction.length - left
  let x := scaleByPower 4 (Binary64.ofNat value) (passed - places + exponent)
  if negative then x.neg else x

/-- The number of a numeral without point and exponent. -/
def wholeNumber (negative : Bool) (whole : List Char) : Json :=
  let n := readDigits whole
  if n < wordLimit then
    if negative then
      if n = 0 ∨ signedWordLimit < n then .float (Binary64.ofNat n).neg else .int (-n)
    else .int n
  else .float (floatOf negative whole [] 0)

/-- Reads the exponent of a numeral, if it has one. -/
def readExponentPart? : List Char → Option (Option Int × List Char)
  | [] => some (none, [])
  | c :: cs =>
    if c = 'e' ∨ c = 'E' then
      let (negative, rest) := splitSign cs
      let (ds, rest) := spanDigits rest
      if ds = [] then none else some (some (signed negative (readDigits ds)), rest)
    else some (none, c :: cs)

/-- Reads the places after the point of a numeral, if it has one. -/
def readFractionPart? : List Char → Option (Option (List Char) × List Char)
  | '.' :: cs =>
    let (ds, rest) := spanDigits cs
    if ds = [] then none else some (some ds, rest)
  | cs => some (none, cs)

/-- Reads a number: no leading zeros, and digits on both sides of a point. -/
def readNumber? (cs : List Char) : Option (Json × List Char) := do
  let (negative, cs) := match cs with
    | '-' :: cs => (true, cs)
    | cs => (false, cs)
  let (whole, cs) := spanDigits cs
  if whole = [] ∨ (whole.head? = some '0' ∧ whole.length ≠ 1) then none
  else
    let (fraction, cs) ← readFractionPart? cs
    let (exponent, cs) ← readExponentPart? cs
    if fraction.isNone && exponent.isNone then some (wholeNumber negative whole, cs)
    else some (.float (floatOf negative whole (fraction.getD []) (exponent.getD 0)), cs)

/-! ## Values -/

/-- The text after a word. -/
def expectWord? : List Char → List Char → Option (List Char)
  | [], cs => some cs
  | w :: ws, c :: cs => if w = c then expectWord? ws cs else none
  | _ :: _, [] => none

/-- What is asked of a value. -/
inductive Scrutiny where
  /-- Every string has to be text. -/
  | full
  /-- Only the form matters. -/
  | form
  /-- Of an object, only the members with these keys are asked for. -/
  | members (keys : List String)

/-- Whether nothing but the form of a value matters. -/
def Scrutiny.isForm : Scrutiny → Bool
  | .form => true
  | _ => false

/-- What is asked of an item of an array. -/
def Scrutiny.ofItem : Scrutiny → Scrutiny
  | .form => .form
  | _ => .full

/-- What is asked of a member of an object. -/
def Scrutiny.ofMember (key : String) : Scrutiny → Scrutiny
  | .full => .full
  | .form => .form
  | .members keys => if keys.contains key then .full else .form

mutual

/-- Reads a value at the start of a text. -/
def readValue? : Nat → Scrutiny → List Char → Option (Json × List Char)
  | 0, _, _ => none
  | fuel + 1, asked, cs =>
    match skipBlanks cs with
    | [] => none
    | c :: cs =>
      if c = 'n' then (expectWord? ['u', 'l', 'l'] cs).map (Json.null, ·)
      else if c = 't' then (expectWord? ['r', 'u', 'e'] cs).map (Json.bool true, ·)
      else if c = 'f' then (expectWord? ['a', 'l', 's', 'e'] cs).map (Json.bool false, ·)
      else if c = '"' then (readString? asked.isForm cs).map fun (s, rest) => (.text s, rest)
      else if c = '[' then
        match skipBlanks cs with
        | ']' :: rest => some (.array [], rest)
        | _ => (readItems? fuel asked.ofItem cs).map fun (vs, rest) => (.array vs, rest)
      else if c = '\x7b' then
        match skipBlanks cs with
        | '\x7d' :: rest => some (.object [], rest)
        | _ => (readMembers? fuel asked cs).map fun (ms, rest) => (.object ms, rest)
      else readNumber? (c :: cs)

/-- Reads the items of an array, of which there is at least one, and the bracket after them. -/
def readItems? : Nat → Scrutiny → List Char → Option (List Json × List Char)
  | 0, _, _ => none
  | fuel + 1, asked, cs =>
    match readValue? fuel asked cs with
    | none => none
    | some (v, cs) =>
      match skipBlanks cs with
      | ',' :: cs => (readItems? fuel asked cs).map fun (vs, rest) => (v :: vs, rest)
      | ']' :: cs => some ([v], cs)
      | _ => none

/-- Reads the members of an object, of which there is at least one, and the brace after them. -/
def readMembers? : Nat → Scrutiny → List Char → Option (List (String × Json) × List Char)
  | 0, _, _ => none
  | fuel + 1, asked, cs =>
    match skipBlanks cs with
    | '"' :: cs =>
      match readString? asked.isForm cs with
      | none => none
      | some (key, cs) =>
        let key := String.ofList key
        match skipBlanks cs with
        | ':' :: cs =>
          match readValue? fuel (asked.ofMember key) cs with
          | none => none
          | some (v, cs) =>
            match skipBlanks cs with
            | ',' :: cs =>
              (readMembers? fuel asked cs).map fun (ms, rest) => ((key, v) :: ms, rest)
            | '\x7d' :: cs => some ([(key, v)], cs)
            | _ => none
        | _ => none
    | _ => none

end

/-- Reads a text that is one value with blanks around it, of which no more is asked than given. -/
def ofTextBy? (asked : Scrutiny) (s : String) : Option Json :=
  let cs := s.toList
  match readValue? (2 * cs.length + 1) asked cs with
  | some (v, rest) => if skipBlanks rest = [] then some v else none
  | none => none

/-- Reads a text that is one value with blanks around it. -/
def ofText? (s : String) : Option Json := ofTextBy? .full s

end BatchSync.Json
