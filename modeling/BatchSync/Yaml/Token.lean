import BatchSync.Yaml.Scalar
import BatchSync.Yaml.Tag

/-!
# Tokens of YAML

A document is cut into tokens: the marks that are written, and those that indentation implies. That
something is the key of a mapping shows only at the colon after it, so the tokens before a key are
put in their place afterwards; for this the scanner remembers, at each level of brackets, where the
last possible key began.
-/

namespace BatchSync.Yaml

/-- A token. -/
inductive Token where
  | versionDirective (major minor : Nat)
  | tagDirective (handle : String) (replacement : Tag)
  | documentStart
  | documentEnd
  | blockSequenceStart
  | blockMappingStart
  | blockEnd
  | flowSequenceStart
  | flowSequenceEnd
  | flowMappingStart
  | flowMappingEnd
  | blockEntry
  | flowEntry
  | key
  | value
  | alias (name : String)
  | anchor (name : String)
  | tag (handle : Option String) (suffix : Tag)
  | scalar (style : ScalarStyle) (text : String)
  | streamEnd
  deriving DecidableEq

/-- Where a key may have begun. -/
structure PossibleKey where
  /-- Whether it has to be a key, as the line could not begin otherwise. -/
  required : Bool
  /-- How many tokens come before it. -/
  tokens : Nat
  /-- How many octets come before it. -/
  index : Nat
  line : Nat
  column : Nat

/-- The state of cutting a text into tokens. -/
structure Scanner where
  cursor : Cursor
  tokens : List Token
  /-- The column of the collection around the cursor, or -1. -/
  indent : Int
  /-- The columns of the collections around that one. -/
  outer : List Int
  /-- Whether a key may begin at the cursor. -/
  keyAllowed : Bool
  /-- The last possible key outside of all brackets. -/
  blockKey : Option PossibleKey
  /-- The last possible key inside each pair of brackets that is open, the innermost first. -/
  flowKeys : List (Option PossibleKey)

namespace Scanner

/-- The start of a text. -/
def start (cs : List Char) : Scanner := ⟨Cursor.start cs, [], -1, [], true, none, []⟩

/-- Whether the cursor is inside brackets. -/
def inFlow (s : Scanner) : Bool := !s.flowKeys.isEmpty

/-- The last possible key at the present level. -/
def key? (s : Scanner) : Option PossibleKey :=
  match s.flowKeys with
  | k :: _ => k
  | [] => s.blockKey

/-- Sets the last possible key at the present level. -/
def setKey (s : Scanner) (k : Option PossibleKey) : Scanner :=
  match s.flowKeys with
  | _ :: rest => { s with flowKeys := k :: rest }
  | [] => { s with blockKey := k }

/-- Adds a token. -/
def push (s : Scanner) (t : Token) : Scanner := { s with tokens := s.tokens ++ [t] }

/-- Puts a token after the given number of tokens. -/
def insert (s : Scanner) (n : Nat) (t : Token) : Scanner :=
  { s with tokens := s.tokens.take n ++ t :: s.tokens.drop n }

/-- Moves the cursor. -/
def goTo (s : Scanner) (c : Cursor) : Scanner := { s with cursor := c }

/-- Gives up the last possible key, unless it had to be one. -/
def dropKey? (s : Scanner) : Option Scanner :=
  if s.key?.any (·.required) then none else some (s.setKey none)

/-- Remembers that a key may begin at the cursor. -/
def saveKey? (s : Scanner) : Option Scanner :=
  if s.keyAllowed then do
    let s ← s.dropKey?
    let c := s.cursor
    let required := !s.inFlow && s.indent == c.column
    return s.setKey (some ⟨required, s.tokens.length, c.index, c.line, c.column⟩)
  else some s

/-- The last possible key, if it began on this line and at most 1024 octets back. A key that had to be
one may not be missed. -/
def validKey? (s : Scanner) : Option (Option PossibleKey) :=
  match s.key? with
  | none => some none
  | some k =>
    if k.line < s.cursor.line ∨ k.index + 1024 < s.cursor.index then
      if k.required then none else some none
    else some (some k)

/-- Begins a collection at a column if it lies further in than the present one. -/
def roll (s : Scanner) (column : Nat) (place : Option Nat) (t : Token) : Scanner :=
  if s.inFlow || decide ((column : Int) ≤ s.indent) then s
  else
    let s := { s with outer := s.indent :: s.outer, indent := column }
    match place with
    | some n => s.insert n t
    | none => s.push t

/-- Ends the collections that lie further in than a column. -/
def unrollFrom (column : Int) : Int → List Int → List Token → Int × List Int × List Token
  | indent, [], tokens => (indent, [], tokens)
  | indent, next :: outer, tokens =>
    if column < indent then unrollFrom column next outer (tokens ++ [.blockEnd])
    else (indent, next :: outer, tokens)

/-- Ends the collections that lie further in than a column, outside of brackets. -/
def unroll (s : Scanner) (column : Int) : Scanner :=
  if s.inFlow then s
  else
    let (indent, outer, tokens) := unrollFrom column s.indent s.outer s.tokens
    { s with indent, outer, tokens }

/-! ## Between tokens -/

/-- Moves to the next token, over blanks, comments and line ends. Tabs are blanks only where no key
may begin, and a byte order mark is one only at the start of a line. -/
def skipToToken : Nat → Scanner → Scanner
  | 0, s => s
  | fuel + 1, s =>
    let tabs := s.inFlow || !s.keyAllowed
    let c := s.cursor
    let c := if c.column == 0 && c.isAt '\ufeff' then c.advance 1 else c
    let c := c.skipWhile fun d => d == ' ' || (tabs && d == '\t')
    let c := if c.isAt '#' then c.skipToLineEnd else c
    if c.atBreak then
      skipToToken fuel { s with cursor := c.nextLine, keyAllowed := s.keyAllowed || !s.inFlow }
    else s.goTo c

/-! ## Directives, anchors and tags -/

/-- Reads a run of digits of a version. -/
def versionNumber? (c : Cursor) : Option (Nat × Cursor) :=
  let ds := c.takeWhile Text.isDigit
  if ds = [] ∨ 9 < ds.length then none else some (readDigits ds, c.advance ds.length)

/-- The handle of a tag: an exclamation mark, and words with one more after them. In a directive a
handle with words has to end with the mark. -/
def tagHandle? (directive : Bool) (c : Cursor) : Option (List Char × Cursor) :=
  if !c.isAt '!' then none
  else
    let c := c.advance 1
    let words := c.takeWhile isWord
    let c := c.advance words.length
    if c.isAt '!' then some ('!' :: (words ++ ['!']), c.advance 1)
    else if directive && !words.isEmpty then none
    else some ('!' :: words, c)

/-- Reads the octets that the characters of a tag denote. -/
def readOctets? (verbatim : Bool) (c : Cursor) : Option (List UInt8 × Cursor) :=
  let cs := c.takeWhile (isTagChar verbatim)
  (tagOctets? 0 cs).map (·, c.advance cs.length)

/-- Reads the version of a directive. -/
def versionDirective? (c : Cursor) : Option (Token × Cursor) := do
  let (major, c) ← versionNumber? c
  if !c.isAt '.' then none
  else
    let (minor, c) ← versionNumber? (c.advance 1)
    return (.versionDirective major minor, c)

/-- Reads a handle and what it stands for. -/
def tagDirective? (c : Cursor) : Option (Token × Cursor) := do
  let (handle, c) ← tagHandle? true c
  if !c.atSpace then none
  else
    let (octets, c) ← readOctets? true (c.skipWhile isSpace)
    if octets = [] ∨ !c.endsWordAt 0 then none
    else return (.tagDirective (String.ofList handle) (.ofOctets octets), c)

/-- Reads a directive after its percent sign. -/
def directive? (c : Cursor) : Option (Token × Cursor) := do
  let name := c.takeWhile isWord
  let c := c.advance name.length
  if name = [] ∨ !c.endsWordAt 0 then none
  else
    let c := c.skipWhile isSpace
    let (token, c) ←
      if name = ['Y', 'A', 'M', 'L'] then versionDirective? c
      else if name = ['T', 'A', 'G'] then tagDirective? c
      else none
    let c := c.skipWhile isSpace
    let c := if c.isAt '#' then c.skipToLineEnd else c
    if !c.endsLineAt 0 then none
    else return (token, if c.atBreak then c.nextLine else c)

/-- Reads the name of an anchor or of an alias. -/
def anchorName? (c : Cursor) : Option (String × Cursor) :=
  let name := c.takeWhile isWord
  let c := c.advance name.length
  if name = [] then none
  else if c.endsWordAt 0 || c.peek?.any (fun d => "?:,]\x7d%@`".contains d) then
    some (String.ofList name, c)
  else none

/-- Reads a tag in angle brackets. -/
def verbatimTag? (c : Cursor) : Option (Token × Cursor) := do
  let (octets, c) ← readOctets? true (c.advance 2)
  if octets = [] ∨ !c.isAt '>' then none
  else return (.tag none (.ofOctets octets), c.advance 1)

/-- Reads a tag with a handle. Without anything after it, a single mark is a tag of its own. -/
def shorthandTag? (c : Cursor) : Option (Token × Cursor) := do
  let (handle, c) ← tagHandle? false c
  let (octets, c) ← readOctets? false c
  if handle.length ≠ 1 ∧ handle.getLast? = some '!' then
    if octets = [] then none else return (.tag (String.ofList handle) (.ofOctets octets), c)
  else
    let suffix := Tag.ofOctets ((handle.drop 1).map octetOf ++ octets)
    if suffix = ⟨[]⟩ then return (.tag none .nonSpecific, c) else return (.tag "!" suffix, c)

/-- Reads a tag at its exclamation mark. -/
def tag? (inFlow : Bool) (c : Cursor) : Option (Token × Cursor) := do
  let (token, c) ← if c.peekAt? 1 == some '<' then verbatimTag? c else shorthandTag? c
  if c.endsWordAt 0 || (inFlow && c.isAt ',') then return (token, c) else none

/-! ## Tokens -/

/-- Ends everything that is open, before a mark between documents or a directive. -/
def closeAll? (s : Scanner) : Option Scanner := do
  let s ← (s.unroll (-1)).dropKey?
  return { s with keyAllowed := false }

/-- Adds a token of one character. -/
def mark (s : Scanner) (t : Token) : Scanner := (s.push t).goTo (s.cursor.advance 1)

/-- An opening bracket. -/
def openFlow? (s : Scanner) (t : Token) : Option Scanner := do
  let s ← s.saveKey?
  return { s with flowKeys := none :: s.flowKeys, keyAllowed := true }.mark t

/-- A closing bracket. -/
def closeFlow? (s : Scanner) (t : Token) : Option Scanner := do
  let s ← s.dropKey?
  return { s with flowKeys := s.flowKeys.tail, keyAllowed := false }.mark t

/-- A dash that begins an item. -/
def blockEntry? (s : Scanner) : Option Scanner := do
  if !s.inFlow && !s.keyAllowed then none
  else
    let s ← (s.roll s.cursor.column none .blockSequenceStart).dropKey?
    return { s with keyAllowed := true }.mark .blockEntry

/-- A question mark that begins a key. -/
def keyMark? (s : Scanner) : Option Scanner := do
  if !s.inFlow && !s.keyAllowed then none
  else
    let s ← (s.roll s.cursor.column none .blockMappingStart).dropKey?
    return { s with keyAllowed := !s.inFlow }.mark .key

/-- A colon before a value. -/
def valueMark? (s : Scanner) : Option Scanner := do
  match ← s.validKey? with
  | some k =>
    let s := (s.insert k.tokens .key).roll k.column (some k.tokens) .blockMappingStart
    return { s.setKey none with keyAllowed := false }.mark .value
  | none =>
    if !s.inFlow && !s.keyAllowed then none
    else
      let s := (s.setKey none).roll s.cursor.column none .blockMappingStart
      return { s with keyAllowed := !s.inFlow }.mark .value

/-- Whether a plain scalar can begin at a cursor. -/
def startsPlain (inFlow : Bool) (c : Cursor) : Bool :=
  match c.peek? with
  | none => false
  | some d =>
    !(isSpace d || isBreak d || "-?:,[]\x7b\x7d#&*!|>'\"%@`".contains d) ||
      (d == '-' && !(c.peekAt? 1).any isSpace) ||
      (!inFlow && (d == '?' || d == ':') && !c.endsWordAt 1)

/-- Reads the token at the cursor, which is not at the end of the text. -/
def token? (s : Scanner) : Option Scanner := do
  let c := s.cursor
  let fuel := c.rest.length + 1
  if c.column == 0 && c.isAt '%' then
    let s ← s.closeAll?
    let (t, c) ← directive? (c.advance 1)
    return (s.push t).goTo c
  else if c.atMark '-' then
    return ((← s.closeAll?).push .documentStart).goTo (c.advance 3)
  else if c.atMark '.' then
    return ((← s.closeAll?).push .documentEnd).goTo (c.advance 3)
  else if c.isAt '[' then s.openFlow? .flowSequenceStart
  else if c.isAt '\x7b' then s.openFlow? .flowMappingStart
  else if c.isAt ']' then s.closeFlow? .flowSequenceEnd
  else if c.isAt '\x7d' then s.closeFlow? .flowMappingEnd
  else if c.isAt ',' then
    let s ← s.dropKey?
    return { s with keyAllowed := true }.mark .flowEntry
  else if c.isAt '-' && c.endsWordAt 1 then s.blockEntry?
  else if c.isAt '?' && (s.inFlow || c.endsWordAt 1) then s.keyMark?
  else if c.isAt ':' && (s.inFlow || c.endsWordAt 1) then s.valueMark?
  else if c.isAt '*' then
    let s ← s.saveKey?
    let (name, c) ← anchorName? (c.advance 1)
    return ({ s with keyAllowed := false }.push (.alias name)).goTo c
  else if c.isAt '&' then
    let s ← s.saveKey?
    let (name, c) ← anchorName? (c.advance 1)
    return ({ s with keyAllowed := false }.push (.anchor name)).goTo c
  else if c.isAt '!' then
    let s ← s.saveKey?
    let (t, c) ← tag? s.inFlow c
    return ({ s with keyAllowed := false }.push t).goTo c
  else if (c.isAt '|' || c.isAt '>') && !s.inFlow then
    let s ← s.dropKey?
    let literal := c.isAt '|'
    let (text, c) ← readBlock? literal (s.indent + 1).toNat (c.advance 1)
    let t := Token.scalar (if literal then .literal else .folded) (String.ofList text)
    return ({ s with keyAllowed := true }.push t).goTo c
  else if c.isAt '\'' || c.isAt '"' then
    let s ← s.saveKey?
    let single := c.isAt '\''
    let (text, c) ← readQuoted? single fuel [] (c.advance 1)
    let t := Token.scalar (if single then .singleQuoted else .doubleQuoted) (String.ofList text)
    return ({ s with keyAllowed := false }.push t).goTo c
  else if startsPlain s.inFlow c then
    let s ← s.saveKey?
    let (text, c, broken) ← readPlain? s.inFlow (s.indent + 1).toNat fuel [] Gap.empty c
    return ({ s with keyAllowed := broken }.push (.scalar .plain (String.ofList text))).goTo c
  else none

/-- Reads all tokens. Each one takes at least one character. -/
def tokens? : Nat → Scanner → Option (List Token)
  | 0, _ => none
  | fuel + 1, s =>
    let s := skipToToken (s.cursor.rest.length + 1) s
    if s.cursor.atEnd then do
      let s ← s.closeAll?
      return s.tokens ++ [.streamEnd]
    else do
      let s ← (s.unroll s.cursor.column).token?
      tokens? fuel s

end Scanner

/-- Cuts a text into tokens. -/
def Token.ofText? (text : String) : Option (List Token) :=
  let cs := text.toList
  if cs.all isPrintable then Scanner.tokens? (cs.length + 2) (Scanner.start cs) else none

end BatchSync.Yaml
