import BatchSync.Yaml.Token

/-!
# YAML documents

The tokens of a text form at most one document, which is a tree of scalars, sequences and mappings.
Nodes may be named by anchors; an alias stands for the node that was last named so before it, even
for one that it is a part of, and is therefore kept as a reference into the document.
-/

namespace BatchSync.Yaml

/-- A node of a document. -/
inductive Node where
  | scalar (style : ScalarStyle) (tag : Option Tag) (text : String)
  | sequence (items : List Node)
  | mapping (entries : List (Node × Node))
  | alias (anchor : Nat)

instance : Inhabited Node := ⟨.sequence []⟩

/-- A scalar that is left out. -/
def Node.empty : Node := .scalar .plain none ""

/-- A document: its node, and the nodes that aliases refer to. -/
structure Document where
  root : Node
  anchored : List (Nat × Node)

/-- The node that a node stands for. -/
def Document.resolve (d : Document) (n : Node) : Node :=
  match n with
  | .alias anchor => (d.anchored.lookup anchor).getD n
  | n => n

/-! ## From tokens to nodes -/

/-- The state of putting nodes together. -/
structure Assembly where
  tokens : List Token
  /-- What the handles of tags stand for. -/
  handles : List (String × Tag)
  /-- The number that each anchor has at present. -/
  anchors : List (String × Nat)
  /-- The node that each number refers to, by the order in which named nodes began. -/
  referents : List (Nat × Nat)
  /-- The named nodes that are complete. -/
  complete : List (Nat × Node)

namespace Assembly

/-- The handles that every document knows. -/
def defaultHandles : List (String × Tag) := [("!", .nonSpecific), ("!!", .core)]

/-- The state before the given tokens. -/
def start (tokens : List Token) : Assembly := ⟨tokens, defaultHandles, [], [], []⟩

/-- The token that comes next. -/
def next (a : Assembly) : Token := a.tokens.headD .streamEnd

/-- Passes over the token that comes next. -/
def skip (a : Assembly) : Assembly := { a with tokens := a.tokens.tail }

/-- Takes an anchor, if one comes next. -/
def takeAnchor (a : Assembly) : Option String × Assembly :=
  match a.next with
  | .anchor name => (some name, a.skip)
  | _ => (none, a)

/-- Takes a tag, if one comes next. -/
def takeTag (a : Assembly) : Option (Option String × Tag) × Assembly :=
  match a.next with
  | .tag handle suffix => (some (handle, suffix), a.skip)
  | _ => (none, a)

/-- A tag in full. Its handle has to be known. -/
def fullTag? (a : Assembly) : Option (Option String × Tag) → Option (Option Tag)
  | none => some none
  | some (none, tag) => some (some tag)
  | some (some handle, suffix) =>
    (a.handles.lookup handle).map fun tag => some (tag.append suffix)

/-- Names the node that begins here. Answers how the node is to be entered once it is complete. -/
def name (a : Assembly) : Option String → Option Nat × Assembly
  | none => (none, a)
  | some name =>
    let number := a.anchors.length
    let serial := a.referents.length
    (some serial, { a with
      anchors := (name, number) :: a.anchors.filter (·.1 != name)
      referents := (number, serial) :: a.referents })

/-- Enters a complete node under its name. -/
def enter (serial : Option Nat) (result : Node × Assembly) : Node × Assembly :=
  match serial with
  | none => result
  | some n => (result.1, { result.2 with complete := (n, result.1) :: result.2.complete })

/-- Whether the value of a block's key is left out before a token. -/
def endsBlockValue : Token → Bool
  | .key => true
  | .value => true
  | .blockEnd => true
  | _ => false

/-- Whether an item of a sequence without indentation of its own is left out before a token. -/
def endsPlainItem : Token → Bool
  | .blockEntry => true
  | t => endsBlockValue t

mutual

/-- Reads a node. A block may stand only outside of brackets, and as the value of a key its items
need no indentation. -/
def node? (inBlock indentless : Bool) : Nat → Assembly → Option (Node × Assembly)
  | 0, _ => none
  | fuel + 1, a =>
    match a.next with
    | .alias name => (a.anchors.lookup name).map fun number => (.alias number, a.skip)
    | _ =>
      let (anchor, a) := a.takeAnchor
      let (tag, a) := a.takeTag
      let (anchor, a) := if anchor.isNone then a.takeAnchor else (anchor, a)
      match a.fullTag? tag with
      | none => none
      | some fullTag =>
        let (serial, named) := a.name anchor
        (content? inBlock indentless fullTag (anchor.isSome || tag.isSome) fuel named).map
          (enter serial)

/-- Reads what a node holds, after its anchor and its tag. A scalar that is written out is not tagged by
a single mark. -/
def content? (inBlock indentless : Bool) (tag : Option Tag) (hasProperties : Bool) :
    Nat → Assembly → Option (Node × Assembly)
  | 0, _ => none
  | fuel + 1, a =>
    match a.next with
    | .scalar style text => some (.scalar style (tag.filter (· ≠ .nonSpecific)) text, a.skip)
    | .flowSequenceStart => (flowItems? true fuel a.skip).map fun (ns, a) => (.sequence ns, a)
    | .flowMappingStart => (flowEntries? true fuel a.skip).map fun (es, a) => (.mapping es, a)
    | t =>
      if indentless && t = .blockEntry then
        (plainItems? fuel a).map fun (ns, a) => (.sequence ns, a)
      else if inBlock && t = .blockSequenceStart then
        (blockItems? fuel a.skip).map fun (ns, a) => (.sequence ns, a)
      else if inBlock && t = .blockMappingStart then
        (blockEntries? fuel a.skip).map fun (es, a) => (.mapping es, a)
      else if hasProperties then some (.scalar .plain tag "", a)
      else none

/-- Reads the items of a sequence in a block, and its end. -/
def blockItems? : Nat → Assembly → Option (List Node × Assembly)
  | 0, _ => none
  | fuel + 1, a =>
    match a.next with
    | .blockEntry =>
      let a := a.skip
      let item? :=
        if a.next = .blockEntry ∨ a.next = .blockEnd then some (Node.empty, a)
        else node? true false fuel a
      match item? with
      | none => none
      | some (n, a) => (blockItems? fuel a).map fun (ns, a) => (n :: ns, a)
    | .blockEnd => some ([], a.skip)
    | _ => none

/-- Reads the items of a sequence without indentation of its own. -/
def plainItems? : Nat → Assembly → Option (List Node × Assembly)
  | 0, _ => none
  | fuel + 1, a =>
    match a.next with
    | .blockEntry =>
      let a := a.skip
      let item? := if endsPlainItem a.next then some (Node.empty, a) else node? true false fuel a
      match item? with
      | none => none
      | some (n, a) => (plainItems? fuel a).map fun (ns, a) => (n :: ns, a)
    | _ => some ([], a)

/-- Reads the entries of a mapping in a block, and its end. -/
def blockEntries? : Nat → Assembly → Option (List (Node × Node) × Assembly)
  | 0, _ => none
  | fuel + 1, a =>
    match a.next with
    | .blockEnd => some ([], a.skip)
    | .key =>
      let a := a.skip
      let key? := if endsBlockValue a.next then some (Node.empty, a) else node? true true fuel a
      match key? with
      | none => none
      | some (k, a) =>
        let value? :=
          if a.next = .value then
            let a := a.skip
            if endsBlockValue a.next then some (Node.empty, a) else node? true true fuel a
          else some (Node.empty, a)
        match value? with
        | none => none
        | some (v, a) => (blockEntries? fuel a).map fun (es, a) => ((k, v) :: es, a)
    | _ => none

/-- Reads the items of a sequence in brackets, and its end. An item may be a mapping of one entry. -/
def flowItems? (first : Bool) : Nat → Assembly → Option (List Node × Assembly)
  | 0, _ => none
  | fuel + 1, a =>
    if a.next = .flowSequenceEnd then some ([], a.skip)
    else
      let divided? :=
        if first then some a else if a.next = .flowEntry then some a.skip else none
      match divided? with
      | none => none
      | some a =>
        if a.next = .flowSequenceEnd then some ([], a.skip)
        else
          let item? :=
            if a.next = .key then
              let a := a.skip
              let key? :=
                if a.next = .value ∨ a.next = .flowEntry ∨ a.next = .flowSequenceEnd then
                  some (Node.empty, a.skip)
                else node? false false fuel a
              match key? with
              | none => none
              | some (k, a) =>
                let value? :=
                  if a.next = .value then
                    let a := a.skip
                    if a.next = .flowEntry ∨ a.next = .flowSequenceEnd then some (Node.empty, a)
                    else node? false false fuel a
                  else some (Node.empty, a)
                value?.map fun (v, a) => (Node.mapping [(k, v)], a)
            else node? false false fuel a
          match item? with
          | none => none
          | some (n, a) => (flowItems? false fuel a).map fun (ns, a) => (n :: ns, a)

/-- Reads the entries of a mapping in braces, and its end. A key may stand without a value. -/
def flowEntries? (first : Bool) : Nat → Assembly → Option (List (Node × Node) × Assembly)
  | 0, _ => none
  | fuel + 1, a =>
    if a.next = .flowMappingEnd then some ([], a.skip)
    else
      let divided? :=
        if first then some a else if a.next = .flowEntry then some a.skip else none
      match divided? with
      | none => none
      | some a =>
        if a.next = .flowMappingEnd then some ([], a.skip)
        else
          let entry? :=
            if a.next = .key then
              let a := a.skip
              let key? :=
                if a.next = .value ∨ a.next = .flowEntry ∨ a.next = .flowMappingEnd then
                  some (Node.empty, a)
                else node? false false fuel a
              match key? with
              | none => none
              | some (k, a) =>
                let value? :=
                  if a.next = .value then
                    let a := a.skip
                    if a.next = .flowEntry ∨ a.next = .flowMappingEnd then some (Node.empty, a)
                    else node? false false fuel a
                  else some (Node.empty, a)
                value?.map fun (v, a) => ((k, v), a)
            else (node? false false fuel a).map fun (k, a) => ((k, Node.empty), a)
          match entry? with
          | none => none
          | some (e, a) => (flowEntries? false fuel a).map fun (es, a) => (e :: es, a)

end

/-! ## Documents -/

/-- Passes over the directives before a document. A version may be given once and has to be 1.1 or
1.2, and a handle may be given once. -/
def directives? : Nat → Bool → List String → Assembly → Option Assembly
  | 0, _, _, _ => none
  | fuel + 1, versioned, given, a =>
    match a.next with
    | .versionDirective major minor =>
      if !versioned && major = 1 && (minor = 1 || minor = 2) then
        directives? fuel true given a.skip
      else none
    | .tagDirective handle replacement =>
      if given.contains handle then none
      else
        directives? fuel versioned (handle :: given)
          { a.skip with handles := (handle, replacement) :: a.handles }
    | _ => some a

/-- The document of a root and all that was named in it. -/
def toDocument (a : Assembly) (root : Node) : Document :=
  ⟨root, a.referents.filterMap fun (number, serial) =>
    (a.complete.lookup serial).map (number, ·)⟩

/-- Reads a document after its opening mark. It may be left out. -/
def body? (fuel : Nat) (a : Assembly) : Option (Node × Assembly) :=
  match a.next with
  | .versionDirective _ _ => some (Node.empty, a)
  | .tagDirective _ _ => some (Node.empty, a)
  | .documentStart => some (Node.empty, a)
  | .documentEnd => some (Node.empty, a)
  | .streamEnd => some (Node.empty, a)
  | _ => node? true false fuel a

/-- Passes over the marks after a document. -/
def skipEnds (a : Assembly) : Assembly :=
  { a with tokens := a.tokens.dropWhile (· = .documentEnd) }

/-- Reads the only document of a stream, if it has one. -/
def document? (fuel : Nat) (a : Assembly) : Option (Option Document) :=
  if a.next = .streamEnd then some none
  else
    match directives? fuel false [] a with
    | none => none
    | some opened =>
      let explicit := opened.tokens.length ≠ a.tokens.length ∨ opened.next = .documentStart
      let body := if opened.next = .documentStart then body? fuel opened.skip
        else if explicit then none
        else node? true false fuel opened
      match body with
      | none => none
      | some (root, a) =>
        let a := a.skipEnds
        if a.next = .streamEnd then some (some (a.toDocument root)) else none

end Assembly

/-- Reads a text that holds at most one document. -/
def Document.ofText? (text : String) : Option (Option Document) := do
  let tokens ← Token.ofText? text
  Assembly.document? (4 * tokens.length + 8) (Assembly.start tokens)

end BatchSync.Yaml
