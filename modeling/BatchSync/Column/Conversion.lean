import BatchSync.Calendar.Text
import BatchSync.Column.Basic
import BatchSync.Number.ScaledDecimal
import BatchSync.Text.Utf8

/-!
# Conversions of columns

Each column is asked for its value as one of eight types. A conversion gives the value, nothing for a
column without a value, or an error that names the kind of the column and the type asked for; it
never falls back to a default. Pairs of kind and type for which no conversion is defined fail without
a reason (`Column.isSupported`), a value that does not fit fails with one.
-/

namespace BatchSync

/-- The types a column can be asked for. -/
inductive ConversionTarget where
  | long
  | double
  | string
  | bool
  | date
  | bytes
  | bigInteger
  | bigDecimal
  deriving DecidableEq

/-- The name of a type. -/
def ConversionTarget.name : ConversionTarget → String
  | .long => "LONG"
  | .double => "DOUBLE"
  | .string => "STRING"
  | .bool => "BOOL"
  | .date => "DATE"
  | .bytes => "BYTES"
  | .bigInteger => "BIG_INTEGER"
  | .bigDecimal => "BIG_DECIMAL"

/-- A column has no value of the type asked for. -/
structure ConversionError where
  source : ColumnKind
  target : ConversionTarget
  reason : Option String
  deriving DecidableEq

/-- The wording of a conversion error. -/
def ConversionError.message (e : ConversionError) : String :=
  let head := s!"Cannot convert {e.source.name} column to {e.target.name}"
  match e.reason with
  | some reason => head ++ ": " ++ reason
  | none => head

/-- The fields of a conversion error in a document. -/
def ConversionError.toJson (e : ConversionError) : Json :=
  .object [("from", .string e.source.name), ("to", .string e.target.name),
    ("reason", .option .string e.reason)]

namespace Column

open BatchSync.Calendar BatchSync.Text

/-- Whether a conversion is defined from a kind to a type. -/
def isSupported : ColumnKind → ConversionTarget → Bool
  | .null, _ => true
  | .string, _ => true
  | .long, .bytes => false
  | .long, _ => true
  | .double, .bool => false
  | .double, .date => false
  | .double, .bytes => false
  | .double, _ => true
  | .bool, .date => false
  | .bool, .bytes => false
  | .bool, _ => true
  | .date, .long => true
  | .date, .string => true
  | .date, .date => true
  | .date, _ => false
  | .bytes, .string => true
  | .bytes, .bytes => true
  | .bytes, _ => false

/-- What a conversion gives: a value, no value, or an error. -/
abbrev Converted (α : Type) := Except ConversionError (Option α)

/-- The failure of a conversion that is not defined. -/
def unsupported {α : Type} (c : Column) (target : ConversionTarget) : Converted α :=
  .error ⟨c.kind, target, none⟩

/-- The value, or the failure for the given reason if there is none. -/
def orInvalid {α : Type} (c : Column) (target : ConversionTarget) (reason : String) :
    Option α → Converted α
  | some a => .ok (some a)
  | none => .error ⟨c.kind, target, some reason⟩

/-- The integer, if it fits in 64 bits. -/
def int64? (n : Int) : Option Int := if fitsInt64 n then some n else none

/-- The integer part of a double, if it is finite. -/
def wholePart? (x : Binary64) : Option Int := if x.isFinite then some x.truncate else none

/-- The least integer of 64 bits, as a double. -/
def leastInt64 : Binary64 := Binary64.ofInt (-(signedWordLimit : Int))

/-- The greatest integer of 64 bits, as a double: it is rounded up to the first one out of range. -/
def greatestInt64 : Binary64 := Binary64.ofInt ((signedWordLimit : Int) - 1)

/-- The integer part of a double, if it fits in 64 bits. Its range is looked at among the doubles. -/
def wholeInt64? (x : Binary64) : Option Int :=
  let whole := x.towardZero
  if whole.isFinite && leastInt64.le whole && whole.lt greatestInt64 then some whole.truncate
  else none

/-- The text of an integer, for messages. -/
def shown (n : Int) : String := String.ofList (integerText n)

/-- A column as an integer of 64 bits. Fractions are dropped. -/
def asLong (c : Column) : Converted Int :=
  match c with
  | .null => .ok none
  | .long n => c.orInvalid .long s!"{shown n} is out of range" (int64? n)
  | .double x =>
    c.orInvalid .long (x.plainText ++ " is out of range") (wholeInt64? x)
  | .string s =>
    match readWhole? s.toList with
    | none => c.orInvalid .long s!"'{s}' is not a number" none
    | some n => c.orInvalid .long s!"'{s}' is out of range" (int64? n)
  | .bool b => .ok (some (if b then 1 else 0))
  | .date millis _ => .ok (some millis)
  | .bytes _ => c.unsupported .long

/-- A column as a double. -/
def asDouble (c : Column) : Converted Binary64 :=
  match c with
  | .null => .ok none
  | .long n => c.orInvalid .double s!"{shown n} is out of range" (Binary64.ofInteger? n)
  | .double x => .ok (some x)
  | .string s => c.orInvalid .double s!"'{s}' is not a number" (readBinary64? (trim s.toList))
  | .bool b => .ok (some (if b then Binary64.ofNat 1 else Binary64.ofNat 0))
  | .date _ _ => c.unsupported .double
  | .bytes _ => c.unsupported .double

/-- The text of a number of milliseconds since the start of 1970, as far as a sub-type calls for. -/
def dateText? (millis : Int) (type : DateType) : Option String :=
  (Instant.ofMillis? millis).map fun i =>
    String.ofList <| match type with
      | .date => i.date.text
      | .time => i.timeOfDay.text
      | .dateTime => i.text

/-- A column as a string. -/
def asString (c : Column) : Converted String :=
  match c with
  | .null => .ok none
  | .long n => .ok (some (shown n))
  | .double x => .ok (some x.plainText)
  | .string s => .ok (some s)
  | .bool b => .ok (some (if b then "true" else "false"))
  | .date millis type =>
    c.orInvalid .string s!"timestamp {shown millis} is out of range" (dateText? millis type)
  | .bytes b =>
    match decodeUtf8 b with
    | .ok s => .ok (some s)
    | .error fault => c.orInvalid .string fault.message none

/-- A column as a truth value. -/
def asBool (c : Column) : Converted Bool :=
  match c with
  | .null => .ok none
  | .long n => .ok (some (n != 0))
  | .double _ => c.unsupported .bool
  | .string s =>
    let word := trim s.toList
    if eqIgnoringAsciiCase word ['t', 'r', 'u', 'e'] then .ok (some true)
    else if eqIgnoringAsciiCase word ['f', 'a', 'l', 's', 'e'] then .ok (some false)
    else c.orInvalid .bool s!"'{String.ofList word}' is not a boolean" none
  | .bool b => .ok (some b)
  | .date _ _ => c.unsupported .bool
  | .bytes _ => c.unsupported .bool

/-- A column as an instant. Integers are milliseconds since the start of 1970. -/
def asDate (c : Column) : Converted Instant :=
  match c with
  | .null => .ok none
  | .long n =>
    c.orInvalid .date s!"timestamp {shown n} is out of range" ((int64? n).bind Instant.ofMillis?)
  | .double _ => c.unsupported .date
  | .string s => c.orInvalid .date s!"'{s}' is not a date" (readInstant? s.toList)
  | .bool _ => c.unsupported .date
  | .date millis _ =>
    c.orInvalid .date s!"timestamp {shown millis} is out of range" (Instant.ofMillis? millis)
  | .bytes _ => c.unsupported .date

/-- A column as bytes. -/
def asBytes (c : Column) : Converted ByteArray :=
  match c with
  | .null => .ok none
  | .string s => .ok (some s.toUTF8)
  | .bytes b => .ok (some b)
  | _ => c.unsupported .bytes

/-- A column as an integer of any size. Fractions are dropped. -/
def asBigInteger (c : Column) : Converted Int :=
  match c with
  | .null => .ok none
  | .long n => .ok (some n)
  | .double x =>
    c.orInvalid .bigInteger (x.plainText ++ " is not finite") (wholePart? x.towardZero)
  | .string s => c.orInvalid .bigInteger s!"'{s}' is not a number" (readWhole? s.toList)
  | .bool b => .ok (some (if b then 1 else 0))
  | .date _ _ => c.unsupported .bigInteger
  | .bytes _ => c.unsupported .bigInteger

/-- A column as a scaled decimal. Numbers are taken by their texts. -/
def asBigDecimal (c : Column) : Converted ScaledDecimal :=
  match c with
  | .null => .ok none
  | .long n =>
    c.orInvalid .bigDecimal s!"{shown n} is out of range" (ScaledDecimal.read? (integerText n))
  | .double x =>
    c.orInvalid .bigDecimal (x.plainText ++ " is out of range")
      (ScaledDecimal.read? x.plainText.toList)
  | .string s => c.orInvalid .bigDecimal s!"'{s}' is not a number" (ScaledDecimal.read? s.toList)
  | .bool b => .ok (some (ScaledDecimal.ofParts false (if b then 1 else 0) 0))
  | .date _ _ => c.unsupported .bigDecimal
  | .bytes _ => c.unsupported .bigDecimal

end Column

end BatchSync
