import BatchSync.Proofs.Yaml.Scalars
import BatchSync.Yaml.Token
import Mathlib.Data.Option.Basic

/-!
# The tokens of a JSON text

The compact text of a JSON value is cut into the tokens that its form says (`Json.tokens`), inside any
brackets (`cuts_compact`), and so is a whole text that is an object (`tokens?_render`).

The scanner saves a possible key wherever a value or a key begins behind a bracket or a comma, and what it
saves never has to be a key (`IsFree`). At a colon the saved key stands before the one scalar that was
read since; it is found there unless its text is too long (`IsYamlKey`).

1. `reaches_open`, `reaches_close`, `reaches_comma`, `reaches_colon`, `reaches_quote` and `reaches_word`
   say what the scanner makes of each token.
2. `reaches_items` puts the items of a list together, `cuts_compact` is the induction over the value.
-/

namespace BatchSync

open Yaml Text

/-! ## The tokens of a value -/

namespace Json

/-- A key that YAML finds in front of its colon: its text in quotes takes at most 1024 octets. -/
def IsYamlKey (key : String) : Prop := (∀ d ∈ key.toList, Lies d) ∧ octetCount (quote key) ≤ 1024

instance (key : String) : Decidable (IsYamlKey key) := by unfold IsYamlKey; infer_instance

/-- A value whose text is YAML with the same meaning: the characters of all strings lie on a line, and
YAML finds all keys. -/
inductive FitsYaml : Json → Prop
  | null : FitsYaml .null
  | bool (b : Bool) : FitsYaml (.bool b)
  | int (n : Int) : FitsYaml (.int n)
  | float (x : Binary64) : FitsYaml (.float x)
  | string {s : String} (lie : ∀ d ∈ s.toList, Lies d) : FitsYaml (.string s)
  | array {items : List Json} (fit : ∀ v ∈ items, FitsYaml v) : FitsYaml (.array items)
  | object {members : List (String × Json)} (keys : ∀ m ∈ members, IsYamlKey m.1)
      (fit : ∀ m ∈ members, FitsYaml m.2) : FitsYaml (.object members)

/-- Tokens of several parts with a comma between each two of them. -/
def divided : List (List Token) → List Token
  | [] => []
  | first :: rest => first ++ rest.flatMap (.flowEntry :: ·)

mutual

/-- The tokens of a value. -/
def tokens : Json → List Token
  | .array items => .flowSequenceStart :: (divided (itemTokens items) ++ [.flowSequenceEnd])
  | .object members => .flowMappingStart :: (divided (memberTokens members) ++ [.flowMappingEnd])
  | .string s => [.scalar .doubleQuoted s]
  | v => [.scalar .plain v.render]

/-- The tokens of each item of an array. -/
def itemTokens : List Json → List (List Token)
  | [] => []
  | v :: rest => tokens v :: itemTokens rest

/-- The tokens of each member of an object. -/
def memberTokens : List (String × Json) → List (List Token)
  | [] => []
  | (key, v) :: rest =>
    (.key :: .scalar .doubleQuoted key :: .value :: tokens v) :: memberTokens rest

end

/-- The tokens of a member of an object. -/
def tokensOfMember (m : String × Json) : List Token :=
  .key :: .scalar .doubleQuoted m.1 :: .value :: m.2.tokens

theorem itemTokens_eq (items : List Json) : itemTokens items = items.map tokens := by
  induction items with
  | nil => rfl
  | cons v rest ih => exact congrArg (tokens v :: ·) ih

theorem memberTokens_eq (members : List (String × Json)) :
    memberTokens members = members.map tokensOfMember := by
  induction members with
  | nil => rfl
  | cons m rest ih => exact congrArg (tokensOfMember m :: ·) ih

end Json

namespace Yaml

open Json

/-! ## One token after the other -/

namespace Scanner

/-- Whether the scanner comes from one state to another by reading a text. -/
def Reaches (s : Scanner) (text : List Char) (t : Scanner) : Prop :=
  ∃ n ≤ text.length, ∀ fuel, tokens? (n + fuel) s = tokens? fuel t

theorem Reaches.refl (s : Scanner) : s.Reaches [] s :=
  ⟨0, Nat.le_refl 0, fun fuel => by rw [Nat.zero_add]⟩

theorem Reaches.trans {s t u : Scanner} {a b : List Char} (h : s.Reaches a t) (h' : t.Reaches b u) :
    s.Reaches (a ++ b) u := by
  obtain ⟨m, m_le, first⟩ := h
  obtain ⟨n, n_le, second⟩ := h'
  refine ⟨m + n, ?_, fun fuel => ?_⟩
  · rw [List.length_append]
    exact Nat.add_le_add m_le n_le
  · rw [Nat.add_assoc, first, second]

/-- Whether a character begins a token of JSON. -/
def begins (d : Char) : Bool :=
  isDigitOrLower d || ['-', '"', ',', ':', '[', ']', '\x7b', '\x7d'].contains d

theorem begins_of_isPlainWord {word : List Char} (plain : IsPlainWord word) :
    ∃ d ds, word = d :: ds ∧ begins d = true := by
  obtain ⟨sign, d, ds, sign_eq, rfl, first, -⟩ := plain
  rcases sign_eq with rfl | rfl
  · exact ⟨d, ds, rfl, by simp [begins, first]⟩
  · exact ⟨'-', d :: ds, rfl, rfl⟩

variable {s t : Scanner} {d : Char} {rest : List Char}

/-- Nothing stands between tokens of JSON. -/
theorem skipToToken_eq {fuel : Nat} (eq : s.cursor.rest = d :: rest) (h : begins d = true) :
    skipToToken (fuel + 1) s = s := by
  have ne : ∀ m, begins m = false → d ≠ m := fun m => ne_of_test h
  have mark : ∀ c : Cursor, c.rest = d :: rest → c.isAt '\ufeff' = false ∧ c.isAt '#' = false ∧
      c.atBreak = false := by
    intro c eq
    refine ⟨?_, ?_, ?_⟩
    · rw [Cursor.isAt_of_rest eq]
      exact beq_eq_false_iff_ne.mpr (ne _ (by decide))
    · rw [Cursor.isAt_of_rest eq]
      exact beq_eq_false_iff_ne.mpr (ne _ (by decide))
    · rw [Cursor.atBreak, Cursor.peek?, eq]
      simp [isBreak, ne '\n' (by decide), ne '\r' (by decide), ne '\u0085' (by decide),
        ne '\u2028' (by decide), ne '\u2029' (by decide)]
  have still : ∀ tabs : Bool, s.cursor.skipWhile (fun e => e == ' ' || (tabs && e == '\t')) =
      s.cursor := by
    intro tabs
    have nothing : s.cursor.takeWhile (fun e => e == ' ' || (tabs && e == '\t')) = [] := by
      rw [Cursor.takeWhile, eq, List.takeWhile_cons_of_neg]
      simp [ne ' ' (by decide), ne '\t' (by decide)]
    rw [Cursor.skipWhile, nothing]
    rfl
  obtain ⟨bom, comment, break_⟩ := mark s.cursor eq
  rw [skipToToken]
  simp only [bom, Bool.and_false, Bool.false_eq_true, if_false, still, comment, break_]
  rfl

/-- Inside brackets indentation means nothing, and outside of them nothing before the first token. -/
def IsLevel (s : Scanner) : Prop := s.inFlow = true ∨ s.outer = []

theorem unroll_of_isLevel (h : s.IsLevel) (column : Int) : s.unroll column = s := by
  unfold unroll
  split
  · rfl
  · rename_i notFlow
    have outer : s.outer = [] := h.resolve_left notFlow
    obtain ⟨cursor, tokens, indent, _, allowed, blockKey, flowKeys⟩ := s
    subst outer
    rfl

/-- One token is read. -/
theorem reaches_of_token? {text : List Char} (level : s.IsLevel) (eq : s.cursor.rest = d :: rest)
    (h : begins d = true) (some_ : text ≠ []) (read : s.token? = some t) : s.Reaches text t := by
  refine ⟨1, List.length_pos_iff.mpr some_, fun fuel => ?_⟩
  have notEnd : s.cursor.atEnd = false := by rw [Cursor.atEnd, eq]; rfl
  rw [Nat.add_comm, tokens?, skipToToken_eq eq h]
  simp only [notEnd, Bool.false_eq_true, if_false, unroll_of_isLevel level, read]
  rfl

theorem atMark_eq_false {c : Cursor} {m : Char} (eq : c.rest = d :: rest) (ne : d ≠ m) :
    c.atMark m = false := by
  unfold Cursor.atMark
  rw [eq, List.take_succ_cons]
  simp [ne]

theorem token?_openSequence (eq : s.cursor.rest = '[' :: rest) :
    s.token? = s.openFlow? .flowSequenceStart := by
  simp [token?, Cursor.isAt_of_rest eq, atMark_eq_false eq]

theorem token?_openMapping (eq : s.cursor.rest = '\x7b' :: rest) :
    s.token? = s.openFlow? .flowMappingStart := by
  simp [token?, Cursor.isAt_of_rest eq, atMark_eq_false eq]

theorem token?_closeSequence (eq : s.cursor.rest = ']' :: rest) :
    s.token? = s.closeFlow? .flowSequenceEnd := by
  simp [token?, Cursor.isAt_of_rest eq, atMark_eq_false eq]

theorem token?_closeMapping (eq : s.cursor.rest = '\x7d' :: rest) :
    s.token? = s.closeFlow? .flowMappingEnd := by
  simp [token?, Cursor.isAt_of_rest eq, atMark_eq_false eq]

theorem token?_comma (eq : s.cursor.rest = ',' :: rest) :
    s.token? = s.dropKey?.map fun s => { s with keyAllowed := true }.mark .flowEntry := by
  rw [Option.map_eq_bind]
  simp [token?, Cursor.isAt_of_rest eq, atMark_eq_false eq]

theorem token?_colon (eq : s.cursor.rest = ':' :: rest) (flow : s.inFlow = true) :
    s.token? = s.valueMark? := by
  simp [token?, Cursor.isAt_of_rest eq, atMark_eq_false eq, flow]

/-- What a quote is read as. -/
theorem token?_quote (eq : s.cursor.rest = '"' :: rest) :
    s.token? = s.saveKey?.bind fun t =>
      (readQuoted? false (s.cursor.rest.length + 1) [] (s.cursor.advance 1)).map fun p =>
        ({ t with keyAllowed := false }.push (.scalar .doubleQuoted (String.ofList p.1))).goTo p.2 := by
  simp only [Option.map_eq_bind]
  simp [token?, Cursor.isAt_of_rest eq, atMark_eq_false eq]

/-- A plain scalar may begin with a digit or a small letter: none of YAML's marks is one. -/
theorem startsPlain_of_isDigitOrLower {c : Cursor} (h : isDigitOrLower d = true)
    (eq : c.rest = d :: rest) (inFlow : Bool) : startsPlain inFlow c = true := by
  obtain ⟨space, break_, -, -⟩ := goesOn_of_isPlainChar (isPlainChar_of_isDigitOrLower h)
  have marks : ∀ m ∈ "-?:,[]\x7b\x7d#&*!|>'\"%@`".toList, isDigitOrLower m = false := by decide
  have other : "-?:,[]\x7b\x7d#&*!|>'\"%@`".contains d = false := by
    rw [String.contains_char_eq]
    exact decide_eq_false fun mem => ne_of_test h (marks d mem) rfl
  simp [startsPlain, Cursor.peek?, eq, space, break_, other]

/-- What a plain word is read as. -/
theorem token?_word {word : List Char} (plain : IsPlainWord word) (eq : s.cursor.rest = word ++ rest) :
    s.token? = s.saveKey?.bind fun t =>
      (readPlain? t.inFlow (t.indent + 1).toNat (s.cursor.rest.length + 1) [] Gap.empty s.cursor).map
        fun p => ({ t with keyAllowed := p.2.2 }.push (.scalar .plain (String.ofList p.1))).goTo
          p.2.1 := by
  obtain ⟨dash, point⟩ := not_atMark_of_isPlainWord plain eq
  obtain ⟨sign, e, es, sign_eq, rfl, first, -⟩ := plain
  obtain ⟨space, break_, -, -⟩ := goesOn_of_isPlainChar (isPlainChar_of_isDigitOrLower first)
  simp only [Option.map_eq_bind]
  rcases sign_eq with rfl | rfl
  · have eq : s.cursor.rest = e :: (es ++ rest) := eq
    have starts := startsPlain_of_isDigitOrLower first eq s.inFlow
    have out : ∀ m, isDigitOrLower m = false → s.cursor.isAt m = false := fun m other => by
      rw [Cursor.isAt_of_rest eq]
      exact beq_eq_false_iff_ne.mpr (ne_of_test first other)
    simp [token?, dash, point, starts, out '%' (by decide), out '[' (by decide),
      out '\x7b' (by decide), out ']' (by decide), out '\x7d' (by decide), out ',' (by decide),
      out '-' (by decide), out '?' (by decide), out ':' (by decide), out '*' (by decide),
      out '&' (by decide), out '!' (by decide), out '|' (by decide), out '>' (by decide),
      out '\'' (by decide), out '"' (by decide)]
  · have eq : s.cursor.rest = '-' :: e :: (es ++ rest) := eq
    have starts : startsPlain s.inFlow s.cursor = true := by
      simp [startsPlain, Cursor.peek?, Cursor.peekAt?, eq, space]
    have goesOn : s.cursor.endsWordAt 1 = false := by
      simp [Cursor.endsWordAt, Cursor.peekAt?, eq, space, break_]
    simp [token?, dash, point, starts, goesOn, Cursor.isAt_of_rest eq]

/-! ## States inside brackets -/

/-- A scanner inside brackets, at a cursor and behind tokens. -/
def inside (b : Scanner) (outer : List (Option PossibleKey)) (c : Cursor) (ts : List Token)
    (allowed : Bool) (k : Option PossibleKey) : Scanner :=
  { b with cursor := c, tokens := ts, keyAllowed := allowed, flowKeys := k :: outer }

/-- Whether a possible key may be given up. -/
def IsFree (k : Option PossibleKey) : Prop := ∀ p ∈ k, p.required = false

/-- The possible key that begins at a cursor behind tokens. -/
def keyAt (c : Cursor) (ts : List Token) : PossibleKey := ⟨false, ts.length, c.index, c.line, c.column⟩

/-- The possible key that is remembered when a node begins. -/
def saved (c : Cursor) (ts : List Token) (allowed : Bool) (k : Option PossibleKey) :
    Option PossibleKey :=
  if allowed then some (keyAt c ts) else k

variable {b : Scanner} {outer : List (Option PossibleKey)} {c : Cursor} {ts : List Token}
  {allowed : Bool} {k : Option PossibleKey}

theorem isLevel_inside : (inside b outer c ts allowed k).IsLevel := .inl rfl

theorem isFree_none : IsFree none := nofun

theorem isFree_keyAt : IsFree (some (keyAt c ts)) := by
  rintro _ ⟨⟩
  rfl

theorem dropKey?_inside (free : IsFree k) :
    (inside b outer c ts allowed k).dropKey? = some (inside b outer c ts allowed none) := by
  have notRequired : k.any (·.required) = false := by
    cases k with
    | none => rfl
    | some p => exact free p rfl
  exact if_neg (by
    show ¬ k.any (·.required) = true
    rw [notRequired]
    exact Bool.false_ne_true)

theorem saveKey?_inside (free : IsFree k) :
    (inside b outer c ts allowed k).saveKey? =
      some (inside b outer c ts allowed (saved c ts allowed k)) := by
  unfold saveKey?
  cases allowed with
  | false => rfl
  | true =>
    rw [dropKey?_inside free]
    rfl

theorem isFree_saved (free : IsFree k) : IsFree (saved c ts allowed k) := by
  unfold saved
  split
  · exact isFree_keyAt
  · exact free

/-- One token inside brackets is read. -/
theorem reaches_of_token?_inside {text : List Char} (eq : c.rest = d :: rest) (h : begins d = true)
    (some_ : text ≠ []) (read : (inside b outer c ts allowed k).token? = some t) :
    (inside b outer c ts allowed k).Reaches text t :=
  reaches_of_token? isLevel_inside (show (inside b outer c ts allowed k).cursor.rest = _ from eq) h some_
    read

/-- An opening bracket. -/
theorem reaches_open (free : IsFree k) {m : Char} {t : Token}
    (mark : m = '[' ∧ t = .flowSequenceStart ∨ m = '\x7b' ∧ t = .flowMappingStart)
    (eq : c.rest = m :: rest) :
    (inside b outer c ts allowed k).Reaches [m]
      (inside b (saved c ts allowed k :: outer) (c.after [m] rest) (ts ++ [t]) true none) := by
  have opens : (inside b outer c ts allowed k).openFlow? t = some
      (inside b (saved c ts allowed k :: outer) (c.after [m] rest) (ts ++ [t]) true none) := by
    rw [openFlow?, saveKey?_inside free, ← Cursor.advance_eq_after eq rfl]
    rfl
  rcases mark with ⟨rfl, rfl⟩ | ⟨rfl, rfl⟩
  · exact reaches_of_token?_inside eq rfl (List.cons_ne_nil _ _) ((token?_openSequence eq).trans opens)
  · exact reaches_of_token?_inside eq rfl (List.cons_ne_nil _ _) ((token?_openMapping eq).trans opens)

/-- A closing bracket. -/
theorem reaches_close (free : IsFree k) {m : Char} {t : Token}
    (mark : m = ']' ∧ t = .flowSequenceEnd ∨ m = '\x7d' ∧ t = .flowMappingEnd)
    (eq : c.rest = m :: rest) :
    (inside b outer c ts allowed k).Reaches [m]
      { b with
        cursor := c.after [m] rest, tokens := ts ++ [t], keyAllowed := false, flowKeys := outer } := by
  have closes : (inside b outer c ts allowed k).closeFlow? t = some { b with
      cursor := c.after [m] rest, tokens := ts ++ [t], keyAllowed := false, flowKeys := outer } := by
    rw [closeFlow?, dropKey?_inside free, ← Cursor.advance_eq_after eq rfl]
    rfl
  rcases mark with ⟨rfl, rfl⟩ | ⟨rfl, rfl⟩
  · exact reaches_of_token?_inside eq rfl (List.cons_ne_nil _ _) ((token?_closeSequence eq).trans closes)
  · exact reaches_of_token?_inside eq rfl (List.cons_ne_nil _ _) ((token?_closeMapping eq).trans closes)

/-- A comma. -/
theorem reaches_comma (free : IsFree k) (eq : c.rest = ',' :: rest) :
    (inside b outer c ts allowed k).Reaches [',']
      (inside b outer (c.after [','] rest) (ts ++ [.flowEntry]) true none) := by
  refine reaches_of_token?_inside eq rfl (List.cons_ne_nil _ _) ?_
  rw [token?_comma (show (inside b outer c ts allowed k).cursor.rest = _ from eq), dropKey?_inside free,
    ← Cursor.advance_eq_after eq rfl]
  rfl

/-- A colon behind a key. The key was saved before its token. -/
theorem reaches_colon {c' : Cursor} {t : Token} {text : List Char}
    (behind : c = c'.after text (':' :: rest)) (near : octetCount text ≤ 1024) :
    (inside b outer c (ts ++ [t]) allowed (some (keyAt c' ts))).Reaches [':']
      (inside b outer (c.after [':'] rest) (ts ++ [.key, t, .value]) false none) := by
  have eq : c.rest = ':' :: rest := congrArg Cursor.rest behind
  have valid : (inside b outer c (ts ++ [t]) allowed (some (keyAt c' ts))).validKey? =
      some (some (keyAt c' ts)) := by
    subst behind
    refine if_neg ?_
    show ¬ (c'.line < c'.line ∨ c'.index + 1024 < c'.index + octetCount text)
    omega
  have placed : (ts ++ [t]).take ts.length ++ .key :: (ts ++ [t]).drop ts.length ++ [.value] =
      ts ++ [.key, t, .value] := by
    rw [List.take_left, List.drop_left, List.append_assoc]
    rfl
  refine reaches_of_token?_inside eq rfl (List.cons_ne_nil _ _) ?_
  rw [token?_colon (show (inside b outer c _ allowed _).cursor.rest = _ from eq) rfl, valueMark?, valid,
    ← Cursor.advance_eq_after eq rfl, ← placed]
  rfl

/-- A scalar in quotes. -/
theorem reaches_quote {key : String} (free : IsFree k) (lie : ∀ d ∈ key.toList, Lies d)
    (eq : c.rest = quote key ++ rest) :
    (inside b outer c ts allowed k).Reaches (quote key)
      (inside b outer (c.after (quote key) rest) (ts ++ [.scalar .doubleQuoted key]) false
        (saved c ts allowed k)) := by
  rw [quote_append] at eq
  have inner : (c.advance 1).rest = key.toList.flatMap escapeChar ++ '"' :: rest := by
    rw [Cursor.advance, eq]
    rfl
  have long := length_le_flatMap_escapeChar key.toList
  have enough : key.toList.length < c.rest.length + 1 := by
    rw [eq, List.length_cons, List.length_append]
    omega
  have read : readQuoted? false (c.rest.length + 1) [] (c.advance 1) = _ :=
    readQuoted?_flatMap lie (Nat.succ_ne_zero c.column) inner enough
  have moved : (c.advance 1).after (key.toList.flatMap escapeChar ++ ['"']) rest =
      c.after (quote key) rest := by
    have first : c.advance 1 = c.after ['"'] _ := Cursor.advance_eq_after eq rfl
    rw [first, Cursor.after_after]
    rfl
  rw [List.nil_append, moved] at read
  refine reaches_of_token?_inside eq rfl (List.cons_ne_nil _ _) ?_
  rw [token?_quote (show (inside b outer c ts allowed k).cursor.rest = _ from eq),
    saveKey?_inside free, Option.bind_some]
  show (readQuoted? false (c.rest.length + 1) [] (c.advance 1)).map _ = _
  rw [read, Option.map_some, String.ofList_toList]
  rfl

/-- A plain scalar. -/
theorem reaches_word {word : List Char} (free : IsFree k) (plain : IsPlainWord word)
    (closes : Closes rest) (eq : c.rest = word ++ rest) :
    (inside b outer c ts allowed k).Reaches word
      (inside b outer (c.after word rest) (ts ++ [.scalar .plain (String.ofList word)]) false
        (saved c ts allowed k)) := by
  obtain ⟨d, ds, word_eq, begins⟩ := begins_of_isPlainWord plain
  have read : readPlain? true (b.indent + 1).toNat (c.rest.length + 1) [] Gap.empty c = _ :=
    readPlain?_of_isPlainWord plain closes eq _
  refine reaches_of_token?_inside (by rw [eq, word_eq]; rfl) begins plain.ne_nil ?_
  rw [token?_word plain (show (inside b outer c ts allowed k).cursor.rest = _ from eq),
    saveKey?_inside free, Option.bind_some]
  show (readPlain? true (b.indent + 1).toNat (c.rest.length + 1) [] Gap.empty c).map _ = _
  rw [read]
  rfl

/-! ## Values -/

/-- Whether a text is cut into tokens inside brackets, where a key may begin or where none may. -/
def Cuts (allowed : Bool) (text : List Char) (ts : List Token) : Prop :=
  ∀ (b : Scanner) (outer : List (Option PossibleKey)) (c : Cursor) (before : List Token)
    (k : Option PossibleKey) (rest : List Char), IsFree k → Closes rest → c.rest = text ++ rest →
    ∃ k', IsFree k' ∧ (inside b outer c before allowed k).Reaches text
      (inside b outer (c.after text rest) (before ++ ts) false k')

theorem closes_cons {m : Char} (mark : isFlowMark m = true) : Closes (m :: rest) :=
  ⟨m, rest, rfl, mark⟩

theorem cuts_quote {key : String} (lie : ∀ d ∈ key.toList, Lies d) :
    Cuts allowed (quote key) [.scalar .doubleQuoted key] :=
  fun _ _ _ _ _ _ free _ eq => ⟨_, isFree_saved free, reaches_quote free lie eq⟩

theorem cuts_word {word : List Char} (plain : IsPlainWord word) :
    Cuts allowed word [.scalar .plain (String.ofList word)] :=
  fun _ _ _ _ _ _ free closes eq => ⟨_, isFree_saved free, reaches_word free plain closes eq⟩

/-- A key with its colon and its value. -/
theorem cuts_member {m : String × Json} (key : IsYamlKey m.1)
    (value : Cuts false m.2.compact m.2.tokens) : Cuts true (memberText m) (tokensOfMember m) := by
  intro b outer c before k rest free closes eq
  rw [memberText, List.append_assoc] at eq
  have first : (inside b outer c before true k).Reaches (quote m.1) _ := reaches_quote free key.1 eq
  -- The key was saved where it began, and nothing has been saved since.
  generalize after_key : c.after (quote m.1) _ = c₁ at first
  have second : (inside b outer c₁ (before ++ [.scalar .doubleQuoted m.1]) false
      (some (keyAt c before))).Reaches [':'] _ := reaches_colon after_key.symm key.2
  obtain ⟨k', free', third⟩ := value b outer (c₁.after [':'] (m.2.compact ++ rest))
    (before ++ [.key, .scalar .doubleQuoted m.1, .value]) none rest isFree_none closes rfl
  refine ⟨k', free', ?_⟩
  have all := first.trans (second.trans third)
  rwa [← after_key, Cursor.after_after, Cursor.after_after, List.append_assoc] at all

section Lists

variable {α : Type} {text : α → List Char} {code : α → List Token} {close : Char}

/-- Behind an item comes a comma or the bracket that closes the list. -/
theorem closes_more (mark : isFlowMark close = true) (xs : List α) :
    Closes ((xs.map text).flatMap (',' :: ·) ++ close :: rest) := by
  cases xs with
  | nil => exact closes_cons mark
  | cons x xs => exact closes_cons rfl

/-- Further items, each behind a comma. -/
theorem reaches_more (mark : isFlowMark close = true) {xs : List α}
    (each : ∀ x ∈ xs, Cuts true (text x) (code x)) (free : IsFree k)
    (eq : c.rest = (xs.map text).flatMap (',' :: ·) ++ close :: rest) :
    ∃ k', IsFree k' ∧ (inside b outer c ts false k).Reaches ((xs.map text).flatMap (',' :: ·))
      (inside b outer (c.after ((xs.map text).flatMap (',' :: ·)) (close :: rest))
        (ts ++ (xs.map code).flatMap (.flowEntry :: ·)) false k') := by
  -- Behind each item another possible key may be left; all that is kept of it is that it is free.
  induction xs generalizing c ts k with
  | nil =>
    have still : c.after [] (close :: rest) = c := Cursor.after_nil eq
    refine ⟨k, free, ?_⟩
    simp only [List.map_nil, List.flatMap_nil, still, List.append_nil]
    exact .refl _
  | cons x xs ih =>
    obtain ⟨this, others⟩ := List.forall_mem_cons.mp each
    rw [items_cons] at eq
    have comma : (inside b outer c ts false k).Reaches [','] _ := reaches_comma free eq
    generalize after_comma : c.after [','] _ = c₁ at comma
    have closes : Closes ((xs.map text).flatMap (',' :: ·) ++ close :: rest) := closes_more mark xs
    obtain ⟨k₁, free₁, item⟩ := this b outer c₁ (ts ++ [.flowEntry]) none _ isFree_none closes
      (by rw [← after_comma]; rfl)
    generalize after_item : c₁.after (text x) _ = c₂ at item
    obtain ⟨k₂, free₂, more⟩ := ih others free₁ (show c₂.rest = _ by rw [← after_item]; rfl)
    refine ⟨k₂, free₂, ?_⟩
    have all := comma.trans (item.trans more)
    rw [← after_item, ← after_comma, Cursor.after_after, Cursor.after_after, List.append_assoc,
      List.append_assoc] at all
    exact all

variable (b outer ts) in
/-- The items of a list up to the bracket that closes it. -/
theorem reaches_items (mark : isFlowMark close = true) {xs : List α}
    (each : ∀ x ∈ xs, Cuts true (text x) (code x))
    (eq : c.rest = commaSeparated (xs.map text) ++ close :: rest) :
    ∃ allowed k', IsFree k' ∧ (inside b outer c ts true none).Reaches (commaSeparated (xs.map text))
      (inside b outer (c.after (commaSeparated (xs.map text)) (close :: rest))
        (ts ++ divided (xs.map code)) allowed k') := by
  cases xs with
  | nil =>
    have still : c.after [] (close :: rest) = c := Cursor.after_nil eq
    refine ⟨true, none, isFree_none, ?_⟩
    simp only [List.map_nil, commaSeparated, divided, still, List.append_nil]
    exact .refl _
  | cons x xs =>
    obtain ⟨this, others⟩ := List.forall_mem_cons.mp each
    rw [List.map_cons, commaSeparated_cons, List.append_assoc] at eq
    have closes : Closes ((xs.map text).flatMap (',' :: ·) ++ close :: rest) := closes_more mark xs
    obtain ⟨k₁, free₁, item⟩ := this b outer c ts none _ isFree_none closes eq
    generalize after_item : c.after (text x) _ = c₁ at item
    obtain ⟨k₂, free₂, more⟩ :=
      reaches_more mark others free₁ (show c₁.rest = _ by rw [← after_item]; rfl)
    refine ⟨false, k₂, free₂, ?_⟩
    have all := item.trans more
    rw [← after_item, Cursor.after_after, List.append_assoc] at all
    rw [List.map_cons, commaSeparated_cons]
    exact all

/-- A list from its opening to its closing bracket. -/
theorem cuts_list {open_ : Char} {t t' : Token}
    (opens : open_ = '[' ∧ t = .flowSequenceStart ∨ open_ = '\x7b' ∧ t = .flowMappingStart)
    (closes : close = ']' ∧ t' = .flowSequenceEnd ∨ close = '\x7d' ∧ t' = .flowMappingEnd)
    {xs : List α} (each : ∀ x ∈ xs, Cuts true (text x) (code x)) :
    Cuts allowed (open_ :: (commaSeparated (xs.map text) ++ [close]))
      (t :: (divided (xs.map code) ++ [t'])) := by
  intro b outer c before k rest free _ eq
  have mark : isFlowMark close = true := by rcases closes with ⟨rfl, -⟩ | ⟨rfl, -⟩ <;> rfl
  have eq : c.rest = open_ :: (commaSeparated (xs.map text) ++ close :: rest) := by
    rw [eq, List.cons_append, List.append_assoc]
    rfl
  refine ⟨saved c before allowed k, isFree_saved free, ?_⟩
  have first : (inside b outer c before allowed k).Reaches [open_] _ := reaches_open free opens eq
  generalize after_open : c.after [open_] _ = c₁ at first
  obtain ⟨allowed', k', free', items⟩ := reaches_items b (saved c before allowed k :: outer)
    (before ++ [t]) mark each (show c₁.rest = _ by rw [← after_open]; rfl)
  generalize after_items : c₁.after _ _ = c₂ at items
  have last : (inside b (saved c before allowed k :: outer) c₂
      (before ++ [t] ++ divided (xs.map code)) allowed' k').Reaches [close] _ :=
    reaches_close free' closes (by rw [← after_items]; rfl)
  have all := first.trans (items.trans last)
  rw [← after_items, ← after_open, Cursor.after_after, Cursor.after_after, List.append_assoc,
    List.append_assoc] at all
  exact all

end Lists

theorem isPlainWord_null : IsPlainWord ['n', 'u', 'l', 'l'] :=
  ⟨[], 'n', ['u', 'l', 'l'], .inl rfl, rfl, rfl, by decide⟩

theorem isPlainWord_bool (b : Bool) : IsPlainWord (Json.bool b).compact := by
  cases b with
  | false => exact ⟨[], 'f', ['a', 'l', 's', 'e'], .inl rfl, rfl, rfl, by decide⟩
  | true => exact ⟨[], 't', ['r', 'u', 'e'], .inl rfl, rfl, rfl, by decide⟩

theorem isPlainWord_float (x : Binary64) : IsPlainWord (Json.float x).compact := by
  rw [Json.compact]
  split
  · exact isPlainWord_documentText x
  · exact isPlainWord_null

/-- A value that fits YAML is cut into its tokens. -/
theorem cuts_compact {v : Json} (fits : v.FitsYaml) : ∀ allowed, Cuts allowed v.compact v.tokens := by
  induction fits with
  | null => exact fun _ => cuts_word isPlainWord_null
  | bool b => exact fun _ => cuts_word (isPlainWord_bool b)
  | int n => exact fun _ => cuts_word (isPlainWord_integerText n)
  | float x => exact fun _ => cuts_word (isPlainWord_float x)
  | string lie => exact fun _ => cuts_quote lie
  | array fit ih =>
    intro allowed
    rw [compact, compactItems_eq, Json.tokens, itemTokens_eq]
    exact cuts_list (.inl ⟨rfl, rfl⟩) (.inl ⟨rfl, rfl⟩) fun v mem => ih v mem true
  | object keys fit ih =>
    intro allowed
    rw [compact, compactMembers_eq, Json.tokens, memberTokens_eq]
    exact cuts_list (.inr ⟨rfl, rfl⟩) (.inr ⟨rfl, rfl⟩) fun m mem =>
      cuts_member (keys m mem) (ih m mem false)

/-! ## A whole text -/

theorem isPrintable_of_mem_commaSeparated {parts : List (List Char)}
    (each : ∀ p ∈ parts, ∀ e ∈ p, isPrintable e = true) :
    ∀ e ∈ commaSeparated parts, isPrintable e = true := by
  cases parts with
  | nil => exact nofun
  | cons first rest =>
    obtain ⟨here, others⟩ := List.forall_mem_cons.mp each
    rw [commaSeparated_cons]
    refine List.forall_mem_append.mpr ⟨here, fun e mem => ?_⟩
    obtain ⟨p, inRest, mem⟩ := List.mem_flatMap.mp mem
    rcases List.mem_cons.mp mem with rfl | mem
    · rfl
    · exact others p inRest e mem

/-- Every character of a text that fits YAML may stand in a document. -/
theorem isPrintable_of_mem_compact {v : Json} (fits : v.FitsYaml) :
    ∀ e ∈ v.compact, isPrintable e = true := by
  induction fits with
  | null => exact isPlainWord_null.isPrintable
  | bool b => exact (isPlainWord_bool b).isPrintable
  | int n => exact (isPlainWord_integerText n).isPrintable
  | float x => exact (isPlainWord_float x).isPrintable
  | string lie => exact isPrintable_of_mem_quote lie
  | array fit ih =>
    have items := isPrintable_of_mem_commaSeparated (List.forall_mem_map.mpr ih)
    rw [compact, compactItems_eq]
    exact List.forall_mem_cons.mpr ⟨rfl, List.forall_mem_append.mpr ⟨items, by decide⟩⟩
  | @object members keys fit ih =>
    have member : ∀ m ∈ members, ∀ e ∈ memberText m, isPrintable e = true := fun m mem =>
      List.forall_mem_append.mpr
        ⟨isPrintable_of_mem_quote (keys m mem).1, List.forall_mem_cons.mpr ⟨rfl, ih m mem⟩⟩
    have all := isPrintable_of_mem_commaSeparated (List.forall_mem_map.mpr member)
    rw [compact, compactMembers_eq]
    exact List.forall_mem_cons.mpr ⟨rfl, List.forall_mem_append.mpr ⟨all, by decide⟩⟩

theorem skipToToken_of_atEnd {fuel : Nat} (none_ : s.cursor.rest = []) :
    skipToToken (fuel + 1) s = s := by
  obtain ⟨⟨_, index, line, column⟩, ts, indent, outer, allowed, blockKey, flowKeys⟩ := s
  subst none_
  simp [skipToToken, Cursor.isAt, Cursor.peek?, Cursor.skipWhile, Cursor.takeWhile, Cursor.advance,
    octetCount, Cursor.atBreak, goTo]

/-- At the end of the text the tokens are complete. -/
theorem tokens?_of_atEnd {fuel : Nat} (none_ : s.cursor.rest = []) (flow : s.flowKeys = [])
    (outer : s.outer = []) (free : IsFree s.blockKey) :
    tokens? (fuel + 1) s = some (s.tokens ++ [.streamEnd]) := by
  have atEnd : s.cursor.atEnd = true := by rw [Cursor.atEnd, none_]; rfl
  have dropped : s.dropKey? = some (s.setKey none) := by
    have notRequired : s.key?.any (·.required) = false := by
      rw [key?, flow]
      cases h : s.blockKey with
      | none => rfl
      | some p => exact free p h
    exact if_neg (by rw [notRequired]; exact Bool.false_ne_true)
  have kept : (s.setKey none).tokens = s.tokens := by
    rw [setKey, flow]
  rw [tokens?, skipToToken_of_atEnd none_]
  simp only [atEnd, if_true, closeAll?, unroll_of_isLevel (.inr outer), dropped]
  show some ((s.setKey none).tokens ++ _) = _
  rw [kept]

/-- The brace that opens a document. Indentation cannot make a key of what it opens. -/
theorem reaches_start (rest : List Char) :
    ∃ b c, b.outer = [] ∧ IsFree b.blockKey ∧ c.rest = rest ∧
      (start ('\x7b' :: rest)).Reaches ['\x7b'] (inside b [] c [.flowMappingStart] true none) := by
  refine ⟨{ start ('\x7b' :: rest) with blockKey := some (keyAt (Cursor.start ('\x7b' :: rest)) []) },
    (Cursor.start ('\x7b' :: rest)).after ['\x7b'] rest, rfl, isFree_keyAt, rfl, ?_⟩
  refine reaches_of_token? (.inr rfl) rfl rfl (List.cons_ne_nil _ _) ?_
  rw [token?_openMapping rfl]
  rfl

/-- A text that the scanner reads up to its end is cut into the tokens it has then. -/
theorem Reaches.tokens?_eq {text : List Char} (h : s.Reaches text t) (none_ : t.cursor.rest = [])
    (flow : t.flowKeys = []) (outer : t.outer = []) (free : IsFree t.blockKey) :
    tokens? (text.length + 2) s = some (t.tokens ++ [.streamEnd]) := by
  obtain ⟨n, n_le, reads⟩ := h
  obtain ⟨m, length_eq⟩ := Nat.exists_eq_add_of_le n_le
  rw [length_eq, Nat.add_assoc, reads]
  exact tokens?_of_atEnd none_ flow outer free

/-- An object that fits YAML is cut into its tokens. -/
theorem ofText?_render {members : List (String × Json)} (fits : (Json.object members).FitsYaml) :
    Token.ofText? (Json.object members).render = some ((Json.object members).tokens ++ [.streamEnd]) := by
  have each : ∀ m ∈ members, Cuts true (memberText m) (tokensOfMember m) := by
    cases fits with
    | object keys fit => exact fun m mem => cuts_member (keys m mem) (cuts_compact (fit m mem) false)
  have printable := isPrintable_of_mem_compact fits
  have whole : (Json.object members).compact =
      ['\x7b'] ++ (commaSeparated (members.map memberText) ++ ['\x7d']) :=
    (List.append_nil _).symm.trans (compact_object_append members [])
  obtain ⟨b, c, outer, level, rest_eq, first⟩ :=
    reaches_start (commaSeparated (members.map memberText) ++ ['\x7d'])
  have mark : isFlowMark '\x7d' = true := rfl
  obtain ⟨allowed, k, free, items⟩ := reaches_items b [] [.flowMappingStart] mark each rest_eq
  generalize after_items : c.after _ _ = c' at items
  have last : (inside b [] c' ([.flowMappingStart] ++ divided (members.map tokensOfMember)) allowed
      k).Reaches ['\x7d'] _ := reaches_close free (.inr ⟨rfl, rfl⟩) (by rw [← after_items]; rfl)
  have all := (first.trans (items.trans last)).tokens?_eq rfl rfl outer level
  rw [Token.ofText?, Json.render, String.toList_ofList]
  refine (if_pos (List.all_eq_true.mpr printable)).trans ?_
  rw [whole, Json.tokens, memberTokens_eq]
  exact all

end Scanner

end Yaml

end BatchSync
