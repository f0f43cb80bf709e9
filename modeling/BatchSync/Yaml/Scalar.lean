import BatchSync.Json.Reader
import BatchSync.Yaml.Cursor

/-!
# Scalars of YAML

The five ways to write a scalar: plain, in single quotes, in double quotes, and as a literal or a
folded block. A line break inside a plain or a quoted scalar stands for a space, and further breaks
after it for themselves; a literal block keeps its breaks.
-/

namespace BatchSync.Yaml

/-- How a scalar is written. -/
inductive ScalarStyle where
  | plain
  | singleQuoted
  | doubleQuoted
  | literal
  | folded
  deriving DecidableEq

/-- What stands between two parts of a scalar. -/
structure Gap where
  /-- Blanks, while no line has ended. -/
  blanks : List Char
  /-- The first line break. -/
  firstBreak : List Char
  /-- All further line breaks. -/
  moreBreaks : List Char
  /-- Whether a line has ended. -/
  broken : Bool

/-- A gap before anything is in it. -/
def Gap.empty : Gap := ⟨[], [], [], false⟩

/-- What a gap stands for. -/
def Gap.text (g : Gap) : List Char :=
  if g.broken then
    if g.firstBreak = ['\n'] then if g.moreBreaks = [] then [' '] else g.moreBreaks
    else g.firstBreak ++ g.moreBreaks
  else g.blanks

/-- Reads the gap at a cursor. In a block, a tab before the given column is an error. -/
def Gap.read? (tabLimit : Nat) : Nat → Gap → Cursor → Option (Gap × Cursor)
  | 0, _, _ => none
  | fuel + 1, g, c =>
    match c.peek? with
    | some d =>
      if isSpace d then
        if g.broken && decide (c.column < tabLimit) && d == '\t' then none
        else
          read? tabLimit fuel (if g.broken then g else { g with blanks := g.blanks ++ [d] })
            (c.advance 1)
      else if isBreak d then
        let g :=
          if g.broken then { g with moreBreaks := g.moreBreaks ++ c.breakText }
          else { g with blanks := [], firstBreak := c.breakText, broken := true }
        read? tabLimit fuel g c.nextLine
      else some (g, c)
    | none => some (g, c)

/-! ## Plain scalars -/

/-- How many characters of a plain scalar follow without a gap. Inside brackets a colon may not be
followed by a mark. -/
def plainRun? (inFlow : Bool) : List Char → Option Nat
  | [] => some 0
  | c :: rest =>
    if isSpace c || isBreak c then some 0
    else
      let next := rest.head?
      if inFlow && c == ':' && next.any (fun d => isFlowMark d || d == '?') then none
      else if c == ':' && next.all (fun d => isSpace d || isBreak d) then some 0
      else if inFlow && isFlowMark c then some 0
      else (plainRun? inFlow rest).map (· + 1)

/-- Reads a plain scalar. Answers its text, the cursor after it, and whether a line ended after its
last part. -/
def readPlain? (inFlow : Bool) (margin : Nat) :
    Nat → List Char → Gap → Cursor → Option (List Char × Cursor × Bool)
  | 0, _, _, _ => none
  | fuel + 1, text, gap, c =>
    if c.atDocumentMark || c.isAt '#' then some (text, c, gap.broken)
    else
      match plainRun? inFlow c.rest with
      | none => none
      | some n =>
        let part := c.rest.take n
        let (text, gap) := if n = 0 then (text, gap) else (text ++ gap.text ++ part, Gap.empty)
        let c := c.advance n
        if !(c.atSpace || c.atBreak) then some (text, c, gap.broken)
        else
          match Gap.read? margin (c.rest.length + 1) gap c with
          | none => none
          | some (gap, c) =>
            if !inFlow && decide (c.column < margin) then some (text, c, gap.broken)
            else readPlain? inFlow margin fuel text gap c

/-! ## Quoted scalars -/

/-- The character that a letter after a backslash stands for. -/
def escape? (c : Char) : Option Char :=
  match c with
  | '0' => some '\x00'
  | 'a' => some '\x07'
  | 'b' => some '\x08'
  | 't' => some '\t'
  | '\t' => some '\t'
  | 'n' => some '\n'
  | 'v' => some '\x0b'
  | 'f' => some '\x0c'
  | 'r' => some '\r'
  | 'e' => some '\x1b'
  | ' ' => some ' '
  | '"' => some '"'
  | '/' => some '/'
  | '\\' => some '\\'
  | 'N' => some '\u0085'
  | '_' => some '\u00a0'
  | 'L' => some '\u2028'
  | 'P' => some '\u2029'
  | _ => none

/-- How many hexadecimal digits follow a letter after a backslash. -/
def codeLength? (c : Char) : Option Nat :=
  match c with
  | 'x' => some 2
  | 'u' => some 4
  | 'U' => some 8
  | _ => none

/-- The character that a run of hexadecimal digits denotes. -/
def codeChar? (ds : List Char) : Option Char := do
  let n ← ds.foldlM (fun n d => (Json.hexValue? d).map (16 * n + ·)) 0
  if 0xD800 ≤ n ∧ n ≤ 0xDFFF ∨ 0x10FFFF < n then none else some (Char.ofNat n)

/-- Reads the part of a quoted scalar up to a gap or to the closing quote. Answers whether the part
ended with an escaped line break. -/
def quotedPart? (single : Bool) : Nat → List Char → Cursor → Option (List Char × Cursor × Bool)
  | 0, _, _ => none
  | fuel + 1, text, c =>
    match c.rest with
    | [] => some (text, c, false)
    | d :: rest =>
      if isSpace d || isBreak d then some (text, c, false)
      else if single then
        if d == '\'' then
          if rest.head? == some '\'' then quotedPart? single fuel (text ++ ['\'']) (c.advance 2)
          else some (text, c, false)
        else quotedPart? single fuel (text ++ [d]) (c.advance 1)
      else if d == '"' then some (text, c, false)
      else if d == '\\' then
        match rest with
        | [] => none
        | e :: digits =>
          if isBreak e then some (text, (c.advance 1).nextLine, true)
          else
            match escape? e, codeLength? e with
            | some x, _ => quotedPart? single fuel (text ++ [x]) (c.advance 2)
            | none, some n =>
              let ds := digits.take n
              if ds.length < n then none
              else
                match codeChar? ds with
                | some x => quotedPart? single fuel (text ++ [x]) (c.advance (2 + n))
                | none => none
            | none, none => none
      else quotedPart? single fuel (text ++ [d]) (c.advance 1)

/-- Reads a quoted scalar after its opening quote. A break that was escaped leaves nothing behind but
the breaks after it. -/
def readQuoted? (single : Bool) : Nat → List Char → Cursor → Option (List Char × Cursor)
  | 0, _, _ => none
  | fuel + 1, text, c =>
    if c.atDocumentMark || c.atEnd then none
    else
      match quotedPart? single (c.rest.length + 1) text c with
      | none => none
      | some (text, c, joined) =>
        if c.isAt (if single then '\'' else '"') then some (text, c.advance 1)
        else
          match Gap.read? 0 (c.rest.length + 1) { Gap.empty with broken := joined } c with
          | none => none
          | some (gap, c) =>
            readQuoted? single fuel (text ++ gap.text) c

/-! ## Blocks -/

/-- What becomes of the line breaks at the end of a block. -/
inductive Chomping where
  | strip
  | clip
  | keep
  deriving DecidableEq

/-- Reads the signs after the mark of a block: how to chomp, and how much to indent. Either may come
first. -/
def readBlockHeader? (c : Cursor) : Option (Chomping × Nat × Cursor) :=
  let sign? (c : Cursor) : Option Chomping :=
    if c.isAt '+' then some .keep else if c.isAt '-' then some .strip else none
  let digit? (c : Cursor) : Option Nat := c.peek?.bind Text.digitValue?
  match sign? c with
  | some chomping =>
    match digit? (c.advance 1) with
    | some 0 => none
    | some n => some (chomping, n, c.advance 2)
    | none => some (chomping, 0, c.advance 1)
  | none =>
    match digit? c with
    | some 0 => none
    | some n =>
      match sign? (c.advance 1) with
      | some chomping => some (chomping, n, c.advance 2)
      | none => some (.clip, n, c.advance 1)
    | none => some (.clip, 0, c)

/-- Reads empty lines of a block and the indentation after them. An indentation of zero is still to
be found out: it is the widest seen. A tab may not stand in it. -/
def blockBreaks? (indent : Nat) : Nat → Nat → List Char → Cursor → Option (Nat × List Char × Cursor)
  | 0, _, _, _ => none
  | fuel + 1, widest, breaks, c =>
    let spaces := (c.takeWhile (· == ' ')).length
    let c := c.advance (if indent = 0 then spaces else min spaces (indent - c.column))
    let widest := max widest c.column
    if (indent = 0 ∨ c.column < indent) ∧ c.isAt '\t' then none
    else if c.atBreak then blockBreaks? indent fuel widest (breaks ++ c.breakText) c.nextLine
    else some (widest, breaks, c)

/-- Reads the lines of a block that has the given indentation. -/
def blockLines? (literal : Bool) (indent : Nat) :
    Nat → List Char → List Char → List Char → Bool → Cursor →
      Option (List Char × List Char × List Char × Cursor)
  | 0, _, _, _, _, _ => none
  | fuel + 1, text, lastBreak, breaks, wasBlank, c =>
    if c.column != indent || c.atEnd then some (text, lastBreak, breaks, c)
    else
      let isBlank := c.atSpace
      let joint :=
        if !literal && lastBreak == ['\n'] && !wasBlank && !isBlank then
          if breaks = [] then [' '] else []
        else lastBreak
      let line := c.takeWhile fun d => !isBreak d
      let c := c.advance line.length
      let text := text ++ joint ++ breaks ++ line
      let (lastBreak, c) := if c.atBreak then (c.breakText, c.nextLine) else ([], c)
      match blockBreaks? indent (c.rest.length + 1) 0 [] c with
      | none => none
      | some (_, breaks, c) => blockLines? literal indent fuel text lastBreak breaks isBlank c

/-- Reads a block after its mark. The parent's indentation is given one higher than it is, as the
outermost is one less than zero. -/
def readBlock? (literal : Bool) (parent : Nat) (c : Cursor) : Option (List Char × Cursor) := do
  let (chomping, increment, c) ← readBlockHeader? c
  let c := c.skipWhile isSpace
  let c := if c.isAt '#' then c.skipToLineEnd else c
  if !c.endsLineAt 0 then none
  else
    let c := if c.atBreak then c.nextLine else c
    let given := if increment = 0 then 0 else parent - 1 + increment
    let (widest, breaks, c) ← blockBreaks? given (c.rest.length + 1) 0 [] c
    let indent := if given = 0 then max (max widest parent) 1 else given
    let (text, lastBreak, breaks, c) ←
      blockLines? literal indent (c.rest.length + 1) [] [] breaks false c
    match chomping with
    | .strip => return (text, c)
    | .clip => return (text ++ lastBreak, c)
    | .keep => return (text ++ lastBreak ++ breaks, c)

end BatchSync.Yaml
