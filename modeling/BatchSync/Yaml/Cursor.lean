import BatchSync.Text.Blank

/-!
# A place in a YAML text

The characters of YAML documents and a cursor that moves over them. The cursor counts the octets of
the text, which is in UTF-8, and its lines and columns, all from zero; a column is one character.
-/

namespace BatchSync.Yaml

/-- Whether a character may stand in a document at all. -/
def isPrintable (c : Char) : Bool :=
  let n := c.toNat
  n == 0x09 || n == 0x0A || n == 0x0D || (0x20 ≤ n && n ≤ 0x7E) || n == 0x85 ||
    (0xA0 ≤ n && n ≤ 0xD7FF) || (0xE000 ≤ n && n ≤ 0xFFFD) || 0x10000 ≤ n

/-- Whether a character ends a line. -/
def isBreak (c : Char) : Bool :=
  c == '\n' || c == '\r' || c == '\u0085' || c == '\u2028' || c == '\u2029'

/-- Whether a character is a space or a tab. -/
def isSpace (c : Char) : Bool := c == ' ' || c == '\t'

/-- Whether a character may stand in the name of an anchor or of a tag's handle. -/
def isWord (c : Char) : Bool :=
  ('0' ≤ c && c ≤ '9') || ('A' ≤ c && c ≤ 'Z') || ('a' ≤ c && c ≤ 'z') || c == '_' || c == '-'

/-- Whether a character opens, closes or divides a collection in brackets. -/
def isFlowMark (c : Char) : Bool :=
  c == ',' || c == '[' || c == ']' || c == '\x7b' || c == '\x7d'

/-- How many octets characters take in UTF-8. -/
def octetCount : List Char → Nat
  | [] => 0
  | c :: cs => c.utf8Size + octetCount cs

/-- A place in a text. -/
structure Cursor where
  rest : List Char
  /-- How many octets come before it. -/
  index : Nat
  line : Nat
  column : Nat

namespace Cursor

/-- The start of a text. -/
def start (cs : List Char) : Cursor := ⟨cs, 0, 0, 0⟩

/-- The character at the cursor. -/
def peek? (c : Cursor) : Option Char := c.rest.head?

/-- The character that many places after the cursor. -/
def peekAt? (c : Cursor) (n : Nat) : Option Char := c.rest[n]?

/-- Whether a character stands at the cursor. -/
def isAt (c : Cursor) (d : Char) : Bool := c.peek? == some d

/-- Whether the text ends at the cursor. -/
def atEnd (c : Cursor) : Bool := c.rest.isEmpty

/-- Whether a line ends at the cursor, but not the text. -/
def atBreak (c : Cursor) : Bool := c.peek?.any isBreak

/-- Whether a space or a tab stands at the cursor. -/
def atSpace (c : Cursor) : Bool := c.peek?.any isSpace

/-- Whether a line or the text ends that many places after the cursor. -/
def endsLineAt (c : Cursor) (n : Nat) : Bool :=
  match c.peekAt? n with
  | some d => isBreak d
  | none => true

/-- Whether a word is over that many places after the cursor: by a blank, a break or the end. -/
def endsWordAt (c : Cursor) (n : Nat) : Bool :=
  match c.peekAt? n with
  | some d => isBreak d || isSpace d
  | none => true

/-- The cursor that many characters on, none of which ends a line. -/
def advance (c : Cursor) (n : Nat) : Cursor :=
  ⟨c.rest.drop n, c.index + octetCount (c.rest.take n), c.line, c.column + n⟩

/-- The cursor after one line break, which two characters may form. -/
def nextLine (c : Cursor) : Cursor :=
  match c.rest with
  | '\r' :: '\n' :: rest => ⟨rest, c.index + 2, c.line + 1, 0⟩
  | d :: rest => ⟨rest, c.index + d.utf8Size, c.line + 1, 0⟩
  | [] => c

/-- The line break at the cursor as it enters a scalar: all but the Unicode separators become a
line feed. -/
def breakText (c : Cursor) : List Char :=
  match c.peek? with
  | some d => if d == '\u2028' || d == '\u2029' then [d] else ['\n']
  | none => []

/-- The characters from the cursor on that have a property, none of which ends a line. -/
def takeWhile (p : Char → Bool) (c : Cursor) : List Char := c.rest.takeWhile p

/-- The cursor after the characters that have a property, none of which ends a line. -/
def skipWhile (p : Char → Bool) (c : Cursor) : Cursor := c.advance (c.takeWhile p).length

/-- The cursor at the end of its line. -/
def skipToLineEnd (c : Cursor) : Cursor := c.skipWhile fun d => !isBreak d

/-- Whether a line at the cursor begins with three of the given character, as marks between
documents do. -/
def atMark (c : Cursor) (d : Char) : Bool :=
  c.column == 0 && c.rest.take 3 == [d, d, d] && c.endsWordAt 3

/-- Whether a mark between documents stands at the cursor. -/
def atDocumentMark (c : Cursor) : Bool := c.atMark '-' || c.atMark '.'

end Cursor

end BatchSync.Yaml
