import BatchSync.Config.Document
import BatchSync.Proofs.Yaml.Flow

/-!
# JSON texts as YAML documents

The text of an object that fits YAML is read as the document that the object stands for (`ofText?_render`).
No token of it is an anchor, an alias or a tag, so that what puts the nodes together has nothing but the
tokens that are left (`Assembly.start`).

1. `node?_of_opens` says that a node without properties is what it holds.
2. `flowItems?_step` and `flowEntries?_step` read one item or one member, with the comma before it.
3. `yields_of_fitsYaml` is the induction over the value.
-/

namespace BatchSync.Yaml

open Json

namespace Assembly

/-- The tokens that begin the node of a JSON value. -/
inductive Opens : Token → Prop
  | scalar (style : ScalarStyle) (text : String) : Opens (.scalar style text)
  | sequence : Opens .flowSequenceStart
  | mapping : Opens .flowMappingStart

theorem exists_opens (v : Json) : ∃ t ts, v.tokens = t :: ts ∧ Opens t := by
  cases v with
  | array items => exact ⟨_, _, by rw [Json.tokens], .sequence⟩
  | object members => exact ⟨_, _, by rw [Json.tokens], .mapping⟩
  | null | bool | int | float | string => exact ⟨_, _, rfl, .scalar _ _⟩

theorem length_tokens_pos (v : Json) : 0 < v.tokens.length := by
  obtain ⟨t, ts, tokens_eq, -⟩ := exists_opens v
  rw [tokens_eq]
  exact Nat.zero_lt_succ _

variable {inBlock indentless : Bool} {fuel : Nat} {t : Token} {ts rest : List Token}

@[simp] theorem next_start (t : Token) (ts : List Token) : (start (t :: ts)).next = t := rfl

@[simp] theorem skip_start (t : Token) (ts : List Token) : (start (t :: ts)).skip = start ts := rfl

/-- A node without an anchor or a tag is what it holds. -/
theorem node?_of_opens (opens : Opens t) :
    node? inBlock indentless (fuel + 1) (start (t :: ts)) =
      content? inBlock indentless none false fuel (start (t :: ts)) := by
  have same : enter none = id := rfl
  cases opens <;> rw [node?] <;> simp [takeAnchor, takeTag, fullTag?, name, same]

/-- Whether the node of a value is put together from its tokens, whatever stands behind them. -/
def Yields (v : Json) : Prop :=
  ∀ (inBlock indentless : Bool) (fuel : Nat) (rest : List Token), 2 * v.tokens.length ≤ fuel →
    node? inBlock indentless fuel (start (v.tokens ++ rest)) = some (v.toNode, start rest)

theorem yields_scalar {v : Json} {style : ScalarStyle} {text : String}
    (tokens_eq : v.tokens = [.scalar style text]) (node_eq : v.toNode = .scalar style none text) :
    Yields v := by
  intro inBlock indentless fuel rest enough
  rw [tokens_eq] at enough
  obtain ⟨fuel, rfl⟩ := Nat.exists_eq_add_of_le enough
  rw [tokens_eq, node_eq, Nat.add_comm]
  show node? _ _ (fuel + 1 + 1) (start (.scalar style text :: rest)) = _
  rw [node?_of_opens (.scalar style text), content?]
  rfl

/-! ## Lists -/

/-- The tokens before an item: a comma, unless it is the first one. -/
def Divides (first : Bool) (divider : List Token) : Prop :=
  first = true ∧ divider = [] ∨ first = false ∧ divider = [.flowEntry]

section Lists

variable {α β : Type} {read? : Bool → Nat → Assembly → Option (List β × Assembly)} {close : Token}
  {code : α → List Token} {node : α → β}

/-- Whether a reader of lists gets the nodes of items from their tokens, and ends at a bracket. -/
structure ReadsList (read? : Bool → Nat → Assembly → Option (List β × Assembly)) (close : Token)
    (code : α → List Token) (node : α → β) (xs : List α) : Prop where
  ends : ∀ first fuel rest, read? first (fuel + 1) (start (close :: rest)) = some ([], start rest)
  steps : ∀ x ∈ xs, ∀ first divider fuel rest, Divides first divider → 2 * (code x).length ≤ fuel →
    read? first (fuel + 1) (start (divider ++ (code x ++ rest))) =
      (read? false fuel (start rest)).map fun p => (node x :: p.1, p.2)

theorem ReadsList.tail {x : α} {xs : List α} (h : ReadsList read? close code node (x :: xs)) :
    ReadsList read? close code node xs :=
  ⟨h.ends, fun y mem => h.steps y (List.mem_cons_of_mem x mem)⟩

/-- The items behind the first one are read. -/
theorem ReadsList.more {xs : List α} (h : ReadsList read? close code node xs)
    (enough : 2 * ((xs.map code).flatMap (.flowEntry :: ·)).length + 1 ≤ fuel) :
    read? false fuel (start ((xs.map code).flatMap (.flowEntry :: ·) ++ close :: rest)) =
      some (xs.map node, start rest) := by
  induction xs generalizing fuel with
  | nil =>
    obtain ⟨fuel, rfl⟩ : ∃ n, fuel = n + 1 := Nat.exists_eq_add_of_le' (by omega)
    exact h.ends false fuel rest
  | cons x xs ih =>
    rw [List.map_cons, List.flatMap_cons, List.length_append, List.length_cons] at enough
    obtain ⟨fuel, rfl⟩ : ∃ n, fuel = n + 1 := Nat.exists_eq_add_of_le' (by omega)
    have step := h.steps x List.mem_cons_self false [.flowEntry] fuel
      ((xs.map code).flatMap (.flowEntry :: ·) ++ close :: rest) (.inr ⟨rfl, rfl⟩) (by omega)
    rw [ih h.tail (by omega)] at step
    rw [List.map_cons, List.flatMap_cons, List.append_assoc]
    exact step

/-- The items of a list are read up to its end. -/
theorem ReadsList.all {xs : List α} (h : ReadsList read? close code node xs)
    (some_ : ∀ x ∈ xs, 0 < (code x).length) (fuel : Nat) (rest : List Token)
    (enough : 2 * (divided (xs.map code)).length + 1 ≤ fuel) :
    read? true fuel (start (divided (xs.map code) ++ close :: rest)) =
      some (xs.map node, start rest) := by
  obtain ⟨fuel, rfl⟩ : ∃ n, fuel = n + 1 := Nat.exists_eq_add_of_le' (by omega)
  cases xs with
  | nil => exact h.ends true fuel rest
  | cons x xs =>
    have long := some_ x List.mem_cons_self
    rw [List.map_cons, divided, List.length_append] at enough
    have step := h.steps x List.mem_cons_self true [] fuel
      ((xs.map code).flatMap (.flowEntry :: ·) ++ close :: rest) (.inl ⟨rfl, rfl⟩) (by omega)
    rw [h.tail.more (by omega)] at step
    rw [List.map_cons, divided, List.append_assoc]
    exact step

end Lists

/-- An item of an array, with the comma before it. -/
theorem flowItems?_step {first : Bool} {divider : List Token} {v : Json}
    (divides : Divides first divider) (yields : Yields v) (enough : 2 * v.tokens.length ≤ fuel) :
    flowItems? first (fuel + 1) (start (divider ++ (v.tokens ++ rest))) =
      (flowItems? false fuel (start rest)).map fun p => (v.toNode :: p.1, p.2) := by
  have node := yields false false fuel rest enough
  obtain ⟨t, ts, tokens_eq, opens⟩ := exists_opens v
  rw [tokens_eq, List.cons_append] at node ⊢
  have notEnd : t ≠ .flowSequenceEnd ∧ t ≠ .key := by cases opens <;> exact ⟨nofun, nofun⟩
  rw [flowItems?]
  rcases divides with ⟨rfl, rfl⟩ | ⟨rfl, rfl⟩
  · simp [notEnd, node]
  · simp [notEnd, node]

/-- A member of an object, with the comma before it. -/
theorem flowEntries?_step {first : Bool} {divider : List Token} {m : String × Json}
    (divides : Divides first divider) (yields : Yields m.2)
    (enough : 2 * (tokensOfMember m).length ≤ fuel) :
    flowEntries? first (fuel + 1) (start (divider ++ (tokensOfMember m ++ rest))) =
      (flowEntries? false fuel (start rest)).map fun p =>
        ((.scalar .doubleQuoted none m.1, m.2.toNode) :: p.1, p.2) := by
  simp only [tokensOfMember, List.length_cons] at enough
  have key : node? false false fuel (start (.scalar .doubleQuoted m.1 :: .value ::
      (m.2.tokens ++ rest))) = some (.scalar .doubleQuoted none m.1, _) :=
    yields_scalar (v := .string m.1) rfl rfl false false fuel _ (by show 2 * 1 ≤ fuel; omega)
  have value := yields false false fuel rest (by omega)
  obtain ⟨t, ts, tokens_eq, opens⟩ := exists_opens m.2
  rw [tokens_eq, List.cons_append] at key value
  rw [tokensOfMember, tokens_eq, List.cons_append, List.cons_append, List.cons_append,
    List.cons_append, flowEntries?]
  have notEnd : t ≠ .flowMappingEnd ∧ t ≠ .flowEntry := by cases opens <;> exact ⟨nofun, nofun⟩
  rcases divides with ⟨rfl, rfl⟩ | ⟨rfl, rfl⟩
  · simp [notEnd, key, value]
  · simp [notEnd, key, value]

/-! ## Values -/

theorem toNodes_eq (items : List Json) : toNodes items = items.map toNode := by
  induction items with
  | nil => rfl
  | cons v rest ih => exact congrArg (toNode v :: ·) ih

/-- The entry of a member. -/
def entryOf (m : String × Json) : Node × Node := (.scalar .doubleQuoted none m.1, m.2.toNode)

theorem toEntries_eq (members : List (String × Json)) : toEntries members = members.map entryOf := by
  induction members with
  | nil => rfl
  | cons m rest ih => exact congrArg (entryOf m :: ·) ih

/-- The node of a value that fits YAML is put together from its tokens. -/
theorem yields_of_fitsYaml {v : Json} (fits : v.FitsYaml) : Yields v := by
  induction fits with
  | null | bool | int | float | string => exact yields_scalar rfl rfl
  | @array items fit ih =>
    intro inBlock indentless fuel rest enough
    rw [Json.tokens, itemTokens_eq, List.length_cons, List.length_append, List.length_singleton] at enough
    -- One turn is for the node, one for what it holds, and the rest for its items.
    obtain ⟨fuel, rfl⟩ : ∃ n, fuel = n + 2 := Nat.exists_eq_add_of_le' (by omega)
    have reads : ReadsList flowItems? .flowSequenceEnd Json.tokens toNode items := by
      refine ⟨?_, fun v mem first divider fuel rest divides => flowItems?_step divides (ih v mem)⟩
      intro first fuel rest
      rw [flowItems?]
      rfl
    have all := reads.all (fun v _ => length_tokens_pos v) fuel rest (by omega)
    rw [Json.tokens, itemTokens_eq, List.cons_append, List.append_assoc, node?_of_opens .sequence,
      content?, toNode, toNodes_eq]
    exact congrArg (Option.map _) all
  | @object members keys fit ih =>
    intro inBlock indentless fuel rest enough
    rw [Json.tokens, memberTokens_eq, List.length_cons, List.length_append, List.length_singleton]
      at enough
    obtain ⟨fuel, rfl⟩ : ∃ n, fuel = n + 2 := Nat.exists_eq_add_of_le' (by omega)
    have reads : ReadsList flowEntries? .flowMappingEnd tokensOfMember entryOf members := by
      refine ⟨?_, fun m mem first divider fuel rest divides => flowEntries?_step divides (ih m mem)⟩
      intro first fuel rest
      rw [flowEntries?]
      rfl
    have all := reads.all (fun m _ => Nat.zero_lt_succ _) fuel rest (by omega)
    rw [Json.tokens, memberTokens_eq, List.cons_append, List.append_assoc, node?_of_opens .mapping,
      content?, toNode, toEntries_eq]
    exact congrArg (Option.map _) all

end Assembly

/-! ## Documents -/

namespace Assembly

/-- A document without directives and marks is one node. -/
theorem document?_of_opens {fuel : Nat} {t : Token} {ts : List Token} {n : Node} (opens : Opens t)
    (read : node? true false (fuel + 1) (start (t :: ts)) = some (n, start [.streamEnd])) :
    document? (fuel + 1) (start (t :: ts)) = some (some ⟨n, []⟩) := by
  have direct : directives? (fuel + 1) false [] (start (t :: ts)) = some (start (t :: ts)) := by
    cases opens <;> rfl
  have notMark : t ≠ .streamEnd ∧ t ≠ .documentStart := by cases opens <;> exact ⟨nofun, nofun⟩
  rw [document?, direct]
  simp only [next_start, notMark, if_false, read, ne_eq, not_true, or_self]
  rfl

end Assembly

/-- The text of an object that fits YAML is read as the document that the object stands for. -/
theorem ofText?_render {members : List (String × Json)} (fits : (Json.object members).FitsYaml) :
    Document.ofText? (Json.object members).render = some (some (Json.object members).toDocument) := by
  have yields := Assembly.yields_of_fitsYaml fits
  obtain ⟨t, ts, tokens_eq, opens⟩ := Assembly.exists_opens (.object members)
  rw [Document.ofText?, Scanner.ofText?_render fits, Option.bind_eq_bind, Option.bind_some]
  generalize length_eq : ((Json.object members).tokens ++ [Token.streamEnd]).length = length
  have node := yields true false (4 * length + 7 + 1) [.streamEnd] (by
    rw [List.length_append] at length_eq
    omega)
  rw [tokens_eq] at node ⊢
  exact Assembly.document?_of_opens opens node

/-- JSON writes a delete character as it is, and YAML refuses the text. -/
example : Document.ofText? (Json.object [("\x7f", .null)]).render = none := by decide +kernel

end BatchSync.Yaml
