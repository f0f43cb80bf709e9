import BatchSync.Column.Basic

/-!
# Records

A record is a row of columns, addressed by position. Its byte size is the sum of its columns' sizes
and is kept once it has been asked for, until the record changes.
-/

namespace BatchSync

/-- A row of columns, with its byte size if that is known. -/
structure Record where
  columns : Array Column
  knownSize : Option Nat

namespace Record

instance : Inhabited Record := ⟨⟨#[], none⟩⟩

/-- A record without columns. -/
def empty : Record := ⟨#[], none⟩

/-- The record of the given columns. -/
def ofColumns (columns : List Column) : Record := ⟨columns.toArray, none⟩

/-- Number of columns. -/
def count (r : Record) : Nat := r.columns.size

/-- The column at a position. -/
def get? (r : Record) (i : Nat) : Option Column := r.columns[i]?

/-- The record with one more column at its end. -/
def add (r : Record) (c : Column) : Record := ⟨r.columns.push c, none⟩

/-- The record with another column at a position. A position past the end is reached by columns
without a value. -/
def set (r : Record) (i : Nat) (c : Column) : Record :=
  let padded := r.columns ++ Array.replicate (i + 1 - r.columns.size) Column.null
  ⟨padded.set! i c, none⟩

/-- The sum of the byte sizes of columns. -/
def columnsSize : List Column → Nat
  | [] => 0
  | c :: rest => c.byteSize + columnsSize rest

/-- The byte size of a record, added up from its columns. -/
def computedSize (r : Record) : Nat := columnsSize r.columns.toList

/-- The byte size of a record. -/
def byteSize (r : Record) : Nat := r.knownSize.getD r.computedSize

/-- The record after it has been asked for its byte size. -/
def measured (r : Record) : Record := { r with knownSize := some r.byteSize }

/-- Whether two records hold equal columns at the same positions. -/
def equals (a b : Record) : Bool :=
  a.count == b.count && (a.columns.toList.zip b.columns.toList).all fun (x, y) => x.equals y

/-- A record in a document: its columns. -/
def toJson (r : Record) : Json := .array (r.columns.toList.map Column.toJson)

/-- The text of a record. -/
def text (r : Record) : String := r.toJson.render

@[simp] theorem byteSize_measured (r : Record) : r.measured.byteSize = r.byteSize := rfl

end Record

end BatchSync
