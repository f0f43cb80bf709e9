import BatchSync.Calendar.Basic
import BatchSync.Number.Numeral

/-!
# Dates and times as text

Dates are written `2024-03-01`, times `10:20:30`, and both together with a blank between them. Years
before 0 and after 9999 are written with a sign. Four forms are read: the internet form with an
offset from UTC, and the three that are written. In these, month, day, hour, minute and second may
have one digit, a year may have a sign and then any number of digits, and blanks may stand before
each number.
-/

namespace BatchSync.Calendar

open BatchSync.Text

/-! ## Writing -/

/-- A year with at least four digits, and with a sign unless it lies between 0 and 9999. -/
def yearText (year : Int) : List Char :=
  let ds := paddedDigits 4 year.natAbs
  if year < 0 then '-' :: ds else if 9999 < year then '+' :: ds else ds

/-- The text of a date. -/
def Date.text (d : Date) : List Char :=
  yearText d.year ++ '-' :: (paddedDigits 2 d.month ++ '-' :: paddedDigits 2 d.day)

/-- The text of a time of day, in whole seconds. -/
def TimeOfDay.text (t : TimeOfDay) : List Char :=
  paddedDigits 2 (t.seconds / 3600) ++ ':' :: (paddedDigits 2 (t.seconds / 60 % 60) ++
    ':' :: paddedDigits 2 (t.seconds % 60))

/-- The text of an instant, in whole seconds. -/
def Instant.text (i : Instant) : List Char := i.date.text ++ ' ' :: i.timeOfDay.text

/-! ## Reading -/

/-- Reads a number of at least one digit and at most the given count of them. -/
def readNumber? (least most : Nat) (cs : List Char) : Option (Nat × List Char) :=
  let ds := (cs.take most).takeWhile isDigit
  if ds.length < least then none else some (readDigits ds, cs.drop ds.length)

/-- Reads one given character. -/
def expect? (c : Char) : List Char → Option (List Char)
  | d :: cs => if d = c then some cs else none
  | [] => none

/-- Reads a number of one or two digits after any blanks. -/
def readField? (cs : List Char) : Option (Nat × List Char) := readNumber? 1 2 (trimLeft cs)

/-- Reads a year after any blanks: with a sign of any length, else of at most four digits. -/
def readYear? (cs : List Char) : Option (Int × List Char) :=
  match trimLeft cs with
  | '-' :: cs => (readNumber? 1 cs.length cs).map fun (n, cs) => (-(n : Int), cs)
  | '+' :: cs => (readNumber? 1 cs.length cs).map fun (n, cs) => ((n : Int), cs)
  | cs => (readNumber? 1 4 cs).map fun (n, cs) => ((n : Int), cs)

/-- Reads a date at the start of a text. -/
def readDatePart? (cs : List Char) : Option (Date × List Char) := do
  let (year, cs) ← readYear? cs
  let cs ← expect? '-' cs
  let (month, cs) ← readField? cs
  let cs ← expect? '-' cs
  let (day, cs) ← readField? cs
  return (← Date.ofYmd? year month day, cs)

/-- Reads a time of day at the start of a text. -/
def readTimePart? (cs : List Char) : Option (TimeOfDay × List Char) := do
  let (hour, cs) ← readField? cs
  let cs ← expect? ':' cs
  let (minute, cs) ← readField? cs
  let cs ← expect? ':' cs
  let (second, cs) ← readField? cs
  return (← TimeOfDay.ofHms? hour minute second 0, cs)

/-- What has been read, if nothing is left to read. -/
def complete? {α : Type} : Option (α × List Char) → Option α
  | some (a, []) => some a
  | _ => none

/-- Reads a text that is a date. -/
def readDate? (cs : List Char) : Option Date := complete? (readDatePart? cs)

/-- Reads a text that is a time of day. -/
def readTime? (cs : List Char) : Option TimeOfDay := complete? (readTimePart? cs)

/-- Reads a date and a time of day, with any blanks or none between them. -/
def readDateTime? (cs : List Char) : Option Instant := do
  let (date, cs) ← readDatePart? cs
  let time ← readTime? cs
  return Instant.ofDateAndTime date time

/-! ## The internet form -/

/-- Reads the fraction of a second after the point: nine digits count, any more are passed over. -/
def readFraction? (cs : List Char) : Option (Nat × List Char) :=
  let ds := cs.takeWhile isDigit
  if ds = [] then none
  else
    let used := ds.take 9
    some (readDigits used * Nat.pow 10 (9 - used.length), cs.drop ds.length)

/-- Reads an offset from UTC in seconds: `Z`, or a sign, hours and minutes of two digits each. The
sign may also be the mathematical minus. -/
def readOffset? (cs : List Char) : Option (Int × List Char) :=
  match cs with
  | [] => none
  | c :: cs =>
    if c = 'Z' ∨ c = 'z' then some (0, cs)
    else if c = '+' ∨ c = '-' ∨ c = '\u2212' then do
      let (hours, cs) ← readNumber? 2 2 cs
      let cs ← expect? ':' cs
      let (minutes, cs) ← readNumber? 2 2 cs
      if hours < 24 ∧ minutes < 60 then
        some (signed (c != '+') (hours * 3600 + minutes * 60), cs)
      else none
    else none

/-- Reads the internet form: every field in full, `T` or a blank between date and time, and an
offset from UTC. -/
def readInternet? (cs : List Char) : Option Instant := do
  let (year, cs) ← readNumber? 4 4 cs
  let cs ← expect? '-' cs
  let (month, cs) ← readNumber? 2 2 cs
  let cs ← expect? '-' cs
  let (day, cs) ← readNumber? 2 2 cs
  let cs ← (expect? 'T' cs <|> expect? 't' cs <|> expect? ' ' cs)
  let (hour, cs) ← readNumber? 2 2 cs
  let cs ← expect? ':' cs
  let (minute, cs) ← readNumber? 2 2 cs
  let cs ← expect? ':' cs
  let (second, cs) ← readNumber? 2 2 cs
  let (nanos, cs) ← match cs with
    | '.' :: cs => readFraction? cs
    | _ => some (0, cs)
  let (offset, cs) ← readOffset? cs
  if cs ≠ [] then none
  let date ← Date.ofYmd? year month day
  let time ← TimeOfDay.ofHms? hour minute second nanos
  let there := Instant.ofDateAndTime date time
  return ⟨there.seconds - offset, there.nanos⟩

/-- Reads an instant from a text with blanks around it, in the first of the four forms that fits. A
date alone is its midnight, a time alone is on the first day of 1970. -/
def readInstant? (cs : List Char) : Option Instant :=
  let cs := trim cs
  match readInternet? cs with
  | some i => some i
  | none =>
    match readDateTime? cs with
    | some i => some i
    | none =>
      match readDate? cs with
      | some d => some (Instant.ofDateAndTime d TimeOfDay.midnight)
      | none => (readTime? cs).bind fun t => Instant.ofMillis? t.millis

end BatchSync.Calendar
