import BatchSync.Number.Shortest

/-!
# JSON values

JSON values and their compact text. Integers are kept apart from binary64 numbers, and the members
of an object keep the order in which they were given; `Json.sorted` puts them in the order of their
keys and keeps the last member of each key.
-/

namespace BatchSync

/-- A JSON value. -/
inductive Json where
  | null
  | bool (b : Bool)
  | int (n : Int)
  | float (x : Binary64)
  | string (s : String)
  | array (items : List Json)
  | object (members : List (String × Json))

instance : Inhabited Json := ⟨.null⟩

namespace Json

/-! ## Making values -/

/-- A natural number. -/
def nat (n : Nat) : Json := .int n

/-- A value that may be absent, which is written as null. -/
def option {α : Type} (f : α → Json) : Option α → Json
  | some a => f a
  | none => .null

/-- A text from its characters. -/
def text (cs : List Char) : Json := .string (String.ofList cs)

/-- A list of strings. -/
def strings (ss : List String) : Json := .array (ss.map .string)

/-- A binary64 number; what is not finite has no place in a document and is written as null. -/
def finite (x : Binary64) : Json := if x.isFinite then .float x else .null

/-! ## Compact text -/

/-- A hexadecimal digit, in lower case. -/
def hexDigit (d : Nat) : Char := if d < 10 then digitChar d else Char.ofNat (87 + d)

/-- A character inside a quoted string: quotes, backslashes and control characters are escaped,
everything else stands for itself. -/
def escapeChar (c : Char) : List Char :=
  if c = '"' then ['\\', '"']
  else if c = '\\' then ['\\', '\\']
  else if c = '\x08' then ['\\', 'b']
  else if c = '\t' then ['\\', 't']
  else if c = '\n' then ['\\', 'n']
  else if c = '\x0c' then ['\\', 'f']
  else if c = '\r' then ['\\', 'r']
  else if c.toNat < 32 then ['\\', 'u', '0', '0', hexDigit (c.toNat / 16), hexDigit (c.toNat % 16)]
  else [c]

/-- A string in quotes. -/
def quote (s : String) : List Char := '"' :: (s.toList.flatMap escapeChar ++ ['"'])

/-- The parts with a comma between each two of them. -/
def commaSeparated : List (List Char) → List Char
  | [] => []
  | [x] => x
  | x :: y :: rest => x ++ ',' :: commaSeparated (y :: rest)

mutual

/-- The compact text of a value. -/
def compact : Json → List Char
  | .null => ['n', 'u', 'l', 'l']
  | .bool b => if b then ['t', 'r', 'u', 'e'] else ['f', 'a', 'l', 's', 'e']
  | .int n => integerText n
  | .float x => if x.isFinite then x.documentText.toList else ['n', 'u', 'l', 'l']
  | .string s => quote s
  | .array items => '[' :: (commaSeparated (compactItems items) ++ [']'])
  | .object members => '\x7b' :: (commaSeparated (compactMembers members) ++ ['\x7d'])

/-- The compact texts of the items of an array. -/
def compactItems : List Json → List (List Char)
  | [] => []
  | v :: rest => compact v :: compactItems rest

/-- The compact texts of the members of an object. -/
def compactMembers : List (String × Json) → List (List Char)
  | [] => []
  | (key, v) :: rest => (quote key ++ ':' :: compact v) :: compactMembers rest

end

/-- The compact text of a value, as a string. -/
def render (v : Json) : String := String.ofList v.compact

/-! ## Objects in the order of their keys -/

/-- Puts a member in its place among members in the order of their keys, instead of any other with
its key. -/
def insertMember (key : String) (v : Json) : List (String × Json) → List (String × Json)
  | [] => [(key, v)]
  | (k, w) :: rest =>
    if key < k then (key, v) :: (k, w) :: rest
    else if key = k then (key, v) :: rest
    else (k, w) :: insertMember key v rest

mutual

/-- The value with the members of every object in the order of their keys, the last member of each
key standing for all of them. -/
def sorted : Json → Json
  | .array items => .array (sortedItems items)
  | .object members => .object (sortedMembers [] members)
  | v => v

/-- The items of an array, each sorted. -/
def sortedItems : List Json → List Json
  | [] => []
  | v :: rest => sorted v :: sortedItems rest

/-- The members of an object, each sorted and put in its place. -/
def sortedMembers (done : List (String × Json)) : List (String × Json) → List (String × Json)
  | [] => done
  | (key, v) :: rest => sortedMembers (insertMember key (sorted v) done) rest

end

/-! ## Looking into values -/

/-- The value of a member of an object. -/
def field? (key : String) : Json → Option Json
  | .object members => members.lookup key
  | _ => none

/-- The value of a member of an object that is present and not null. -/
def present? (key : String) (v : Json) : Option Json :=
  match v.field? key with
  | some .null => none
  | other => other

/-- The text of a string. -/
def string? : Json → Option String
  | .string s => some s
  | _ => none

/-- The value of a truth value. -/
def bool? : Json → Option Bool
  | .bool b => some b
  | _ => none

/-- The value of an integer. -/
def int? : Json → Option Int
  | .int n => some n
  | _ => none

/-- The value of an integer that is not negative. -/
def nat? : Json → Option Nat
  | .int (.ofNat n) => some n
  | _ => none

/-- The items of an array. -/
def items? : Json → Option (List Json)
  | .array items => some items
  | _ => none

mutual

/-- Whether all numbers are finite and arrays and objects are nested no deeper than the given
depth. -/
def isWithin : Nat → Json → Bool
  | depth, .array items => depth != 0 && isWithinItems (depth - 1) items
  | depth, .object members => depth != 0 && isWithinMembers (depth - 1) members
  | _, .float x => x.isFinite
  | _, _ => true

/-- Whether all items of an array keep within a depth. -/
def isWithinItems : Nat → List Json → Bool
  | _, [] => true
  | depth, v :: rest => isWithin depth v && isWithinItems depth rest

/-- Whether all members of an object keep within a depth. -/
def isWithinMembers : Nat → List (String × Json) → Bool
  | _, [] => true
  | depth, (_, v) :: rest => isWithin depth v && isWithinMembers depth rest

end

end Json

end BatchSync
