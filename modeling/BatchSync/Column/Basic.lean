import BatchSync.Calendar.Basic
import BatchSync.Json.Basic
import BatchSync.Number.Integer

/-!
# Columns

A column is one typed value of a record. Its kind and, for dates, its sub-type name it in documents;
its byte size is an estimate of the room it takes, by which channels bound what they hold.
-/

namespace BatchSync

/-- The kinds of columns. -/
inductive ColumnKind where
  | long
  | double
  | string
  | bool
  | date
  | bytes
  | null
  deriving DecidableEq

/-- The name of a kind. -/
def ColumnKind.name : ColumnKind → String
  | .long => "LONG"
  | .double => "DOUBLE"
  | .string => "STRING"
  | .bool => "BOOL"
  | .date => "DATE"
  | .bytes => "BYTES"
  | .null => "NULL"

/-- The parts of a date that its source had. They decide only how it is written. -/
inductive DateType where
  | date
  | time
  | dateTime
  deriving DecidableEq

/-- The name of a sub-type. -/
def DateType.name : DateType → String
  | .date => "DATE"
  | .time => "TIME"
  | .dateTime => "DATE_TIME"

/-- A typed value. Dates are milliseconds since the start of 1970. -/
inductive Column where
  | null
  | long (n : Int)
  | double (x : Binary64)
  | string (s : String)
  | bool (b : Bool)
  | date (millis : Int) (type : DateType)
  | bytes (b : ByteArray)

namespace Column

open BatchSync.Calendar

instance : Inhabited Column := ⟨.null⟩

/-! ## Making dates -/

/-- Midnight of a date. -/
def ofDate (d : Date) : Column := .date (Instant.ofDateAndTime d TimeOfDay.midnight).millis .date

/-- A time of day, on the first day of 1970. -/
def ofTime (t : TimeOfDay) : Column := .date t.millis .time

/-- An instant, to the millisecond. -/
def ofInstant (i : Instant) : Column := .date i.millis .dateTime

/-! ## Looking at columns -/

/-- The kind of a column. -/
def kind : Column → ColumnKind
  | .null => .null
  | .long _ => .long
  | .double _ => .double
  | .string _ => .string
  | .bool _ => .bool
  | .date _ _ => .date
  | .bytes _ => .bytes

/-- The sub-type of a date. -/
def dateType? : Column → Option DateType
  | .date _ type => some type
  | _ => none

/-- Whether a column holds no value. -/
def isNull : Column → Bool
  | .null => true
  | _ => false

/-- The estimated room a column takes. A double takes as many bytes as its text. -/
def byteSize : Column → Nat
  | .null => 0
  | .long n => integerByteSize n
  | .double x => x.plainText.utf8ByteSize
  | .string s => s.utf8ByteSize
  | .bool _ => 1
  | .date _ _ => 8
  | .bytes b => b.size

/-- Whether two columns hold the same value of the same kind. Doubles are compared as numbers, and
the sub-type of a date does not matter. -/
def equals : Column → Column → Bool
  | .null, .null => true
  | .long a, .long b => a == b
  | .double a, .double b => a.equals b
  | .string a, .string b => a == b
  | .bool a, .bool b => a == b
  | .date a _, .date b _ => a == b
  | .bytes a, .bytes b => a == b
  | _, _ => false

/-! ## Documents -/

/-- The value of a column in a document. Integers of more than 64 bits are written as strings. -/
def valueJson? : Column → Option Json
  | .null => none
  | .long n => some (if fitsInt64 n then .int n else .text (integerText n))
  | .double x => some (.finite x)
  | .string s => some (.string s)
  | .bool b => some (.bool b)
  | .date millis type =>
    some (.object [("millis", .int millis), ("dateType", .string type.name)])
  | .bytes b => some (.array (b.data.toList.map fun byte => .nat byte.toNat))

/-- A column in a document: its kind, and its value if it has one. -/
def toJson (c : Column) : Json :=
  .object (("type", .string c.kind.name) :: (c.valueJson?.map (("value", ·))).toList)

/-- The text of a column. -/
def text (c : Column) : String := c.toJson.render

end Column

end BatchSync
