import BatchSync.Json.Reader
import BatchSync.Proofs.Number.Digits
import Mathlib.Tactic.SplitIfs

/-!
# The compact text of a JSON value determines it

Values are told apart that stand at the start of a text, as long as no digit follows them. So they are
told apart in a list as well, where a comma or a bracket follows.

1. Strings are read back character by character, whatever characters they have
   (`nextChar?_escapeChar`).
2. The first character of a value says what form it has (`FloatFree.exists_first`), and none begins with a
   bracket that closes a list.
3. `commaSeparated_inj` takes a list of values apart if its values are told apart.
4. `FloatFree.compact_append_inj` is the induction over the value.

Numbers of binary64 are left out: those that are not finite are all written as null.
-/

namespace BatchSync.Json

open BatchSync.Text

/-! ## Strings -/

theorem hexValue?_hexDigit {d : Nat} (lt : d < 16) : hexValue? (hexDigit d) = some d := by
  have all : ∀ d : Fin 16, hexValue? (hexDigit d) = some d.val := by decide
  exact all ⟨d, lt⟩

/-- The code of a control character. -/
theorem hexCode?_control {n : Nat} (lt : n < 32) :
    hexCode? '0' '0' (hexDigit (n / 16)) (hexDigit (n % 16)) = some n := by
  have zero : hexValue? '0' = some 0 := hexValue?_hexDigit (by decide : 0 < 16)
  unfold hexCode?
  rw [zero, hexValue?_hexDigit (show n / 16 < 16 by omega),
    hexValue?_hexDigit (show n % 16 < 16 by omega)]
  simp only [Option.bind_eq_bind, Option.bind_some, Option.pure_def, Option.some.injEq]
  omega

/-- The character that the text inside a string begins with, and what is left of the text. -/
def nextChar? : List Char → Option (Char × List Char)
  | '\\' :: 'u' :: a :: b :: c :: d :: rest => (hexCode? a b c d).map fun n => (Char.ofNat n, rest)
  | '\\' :: letter :: rest => (escaped? letter).map fun c => (c, rest)
  | c :: rest => some (c, rest)
  | [] => none

theorem nextChar?_of_ne {c : Char} (ne : c ≠ '\\') (rest : List Char) :
    nextChar? (c :: rest) = some (c, rest) := by
  unfold nextChar?
  split
  · rename_i eq
    exact absurd (List.cons.inj eq).1 ne
  · rename_i eq
    exact absurd (List.cons.inj eq).1 ne
  · rename_i eq
    rw [(List.cons.inj eq).1, (List.cons.inj eq).2]
  · rename_i eq
    cases eq

/-- A character is read back from what stands for it in a string. -/
theorem nextChar?_escapeChar (c : Char) (rest : List Char) :
    nextChar? (escapeChar c ++ rest) = some (c, rest) := by
  unfold escapeChar
  split_ifs with quote backslash backspace tab newline feed return_ control
  · rw [quote]; rfl
  · rw [backslash]; rfl
  · rw [backspace]; rfl
  · rw [tab]; rfl
  · rw [newline]; rfl
  · rw [feed]; rfl
  · rw [return_]; rfl
  · show (hexCode? _ _ _ _).map _ = _
    rw [hexCode?_control control, Option.map_some, Char.ofNat_toNat]
    rfl
  · exact nextChar?_of_ne backslash rest

theorem escapeChar_append_inj {c d : Char} {r s : List Char}
    (h : escapeChar c ++ r = escapeChar d ++ s) : c = d ∧ r = s := by
  have read := nextChar?_escapeChar c r
  rw [h, nextChar?_escapeChar] at read
  obtain ⟨rfl, rfl⟩ := Prod.mk.inj (Option.some.inj read)
  exact ⟨rfl, rfl⟩

/-- No character begins like the end of a string. -/
theorem escapeChar_append_ne (c : Char) (r s : List Char) : escapeChar c ++ r ≠ '"' :: s := by
  intro h
  have read := nextChar?_escapeChar c r
  rw [h, nextChar?_of_ne (by decide)] at read
  obtain ⟨rfl, -⟩ := Prod.mk.inj (Option.some.inj read)
  cases (List.cons.inj h).1

theorem flatMap_escapeChar_inj {cs ds r s : List Char}
    (h : cs.flatMap escapeChar ++ '"' :: r = ds.flatMap escapeChar ++ '"' :: s) :
    cs = ds ∧ r = s := by
  induction cs generalizing ds with
  | nil =>
    cases ds with
    | nil => exact ⟨rfl, (List.cons.inj h).2⟩
    | cons d ds =>
      rw [List.flatMap_cons, List.append_assoc] at h
      exact (escapeChar_append_ne _ _ _ h.symm).elim
  | cons c cs ih =>
    cases ds with
    | nil =>
      rw [List.flatMap_cons, List.append_assoc] at h
      exact (escapeChar_append_ne _ _ _ h).elim
    | cons d ds =>
      rw [List.flatMap_cons, List.append_assoc, List.flatMap_cons, List.append_assoc] at h
      obtain ⟨rfl, rests⟩ := escapeChar_append_inj h
      obtain ⟨rfl, rest⟩ := ih rests
      exact ⟨rfl, rest⟩

theorem quote_append (a : String) (r : List Char) :
    quote a ++ r = '"' :: (a.toList.flatMap escapeChar ++ '"' :: r) := by
  simp only [quote, List.cons_append, List.append_assoc, List.nil_append]

/-- A string and what follows it are determined by the text of both. -/
theorem quote_append_inj {a b : String} {r s : List Char} (h : quote a ++ r = quote b ++ s) :
    a = b ∧ r = s := by
  rw [quote_append, quote_append] at h
  obtain ⟨chars, rest⟩ := flatMap_escapeChar_inj (List.cons.inj h).2
  exact ⟨String.toList_inj.mp chars, rest⟩

/-! ## Lists -/

/-- The items of a list after the first one, each with its comma. -/
theorem commaSeparated_cons (first : List Char) (rest : List (List Char)) :
    commaSeparated (first :: rest) = first ++ rest.flatMap (',' :: ·) := by
  induction rest generalizing first with
  | nil => exact (List.append_nil first).symm
  | cons second rest ih =>
    rw [commaSeparated, ih]
    rfl

section Lists

variable {α : Type} {code : α → List Char} {close : Char} {r s : List Char}

/-- Whether an item and what follows it are determined by the text of both, as long as no digit
follows. -/
def Tells (code : α → List Char) (x y : α) : Prop :=
  ∀ {r s : List Char}, NoDigitFirst r → NoDigitFirst s → code x ++ r = code y ++ s → x = y ∧ r = s

theorem noDigitFirst_items (notDigit : isDigit close = false) (xs : List α) (r : List Char) :
    NoDigitFirst ((xs.map code).flatMap (',' :: ·) ++ close :: r) := by
  cases xs with
  | nil => exact noDigitFirst_cons notDigit
  | cons x xs => exact noDigitFirst_cons rfl

theorem items_cons (x : α) (xs : List α) (r : List Char) :
    ((x :: xs).map code).flatMap (',' :: ·) ++ r =
      ',' :: (code x ++ ((xs.map code).flatMap (',' :: ·) ++ r)) := by
  rw [List.map_cons, List.flatMap_cons, List.append_assoc]
  rfl

/-- Further items are told apart, and from the bracket that closes the list. -/
theorem flatMap_comma_inj (notComma : close ≠ ',') (notDigit : isDigit close = false)
    {xs ys : List α} (tells : ∀ x ∈ xs, ∀ y ∈ ys, Tells code x y)
    (h : (xs.map code).flatMap (',' :: ·) ++ close :: r =
      (ys.map code).flatMap (',' :: ·) ++ close :: s) : xs = ys ∧ r = s := by
  induction xs generalizing ys with
  | nil =>
    cases ys with
    | nil => exact ⟨rfl, (List.cons.inj h).2⟩
    | cons y ys => exact absurd (List.cons.inj h).1 notComma
  | cons x xs ih =>
    cases ys with
    | nil => exact absurd (List.cons.inj h).1.symm notComma
    | cons y ys =>
      rw [items_cons, items_cons] at h
      obtain ⟨rfl, others⟩ := tells x List.mem_cons_self y List.mem_cons_self
        (noDigitFirst_items notDigit xs r) (noDigitFirst_items notDigit ys s) (List.cons.inj h).2
      obtain ⟨rfl, rest⟩ := ih (fun x hx y hy =>
        tells x (List.mem_cons_of_mem _ hx) y (List.mem_cons_of_mem _ hy)) others
      exact ⟨rfl, rest⟩

/-- Lists are told apart if their items are, and if no item begins with the bracket that closes them. -/
theorem commaSeparated_inj (notComma : close ≠ ',') (notDigit : isDigit close = false)
    {xs ys : List α} (tells : ∀ x ∈ xs, ∀ y ∈ ys, Tells code x y)
    (open_ : ∀ x, x ∈ xs ∨ x ∈ ys → ∀ r s, code x ++ r ≠ close :: s)
    (h : commaSeparated (xs.map code) ++ close :: r = commaSeparated (ys.map code) ++ close :: s) :
    xs = ys ∧ r = s := by
  cases xs with
  | nil =>
    cases ys with
    | nil => exact ⟨rfl, (List.cons.inj h).2⟩
    | cons y ys =>
      rw [List.map_cons, commaSeparated_cons, List.append_assoc] at h
      exact (open_ y (.inr List.mem_cons_self) _ _ h.symm).elim
  | cons x xs =>
    cases ys with
    | nil =>
      rw [List.map_cons, commaSeparated_cons, List.append_assoc] at h
      exact (open_ x (.inl List.mem_cons_self) _ _ h).elim
    | cons y ys =>
      rw [List.map_cons, commaSeparated_cons, List.append_assoc, List.map_cons, commaSeparated_cons,
        List.append_assoc] at h
      obtain ⟨rfl, others⟩ := tells x List.mem_cons_self y List.mem_cons_self
        (noDigitFirst_items notDigit xs r) (noDigitFirst_items notDigit ys s) h
      obtain ⟨rfl, rest⟩ := flatMap_comma_inj notComma notDigit (fun x hx y hy =>
        tells x (List.mem_cons_of_mem _ hx) y (List.mem_cons_of_mem _ hy)) others
      exact ⟨rfl, rest⟩

end Lists

/-! ## Values -/

/-- What sort of value it is. -/
inductive Form where
  | null
  | bool
  | number
  | string
  | array
  | object

/-- The form of a value. -/
def form : Json → Form
  | .null => .null
  | .bool _ => .bool
  | .int _ => .number
  | .float _ => .number
  | .string _ => .string
  | .array _ => .array
  | .object _ => .object

/-- The form of the values that begin with a character. -/
def Form.ofChar? (c : Char) : Option Form :=
  if isDigit c then some .number
  else if c = '-' then some .number
  else if c = 'n' then some .null
  else if c = 't' ∨ c = 'f' then some .bool
  else if c = '"' then some .string
  else if c = '[' then some .array
  else if c = '\x7b' then some .object
  else none

/-- A value without numbers of binary64. -/
inductive FloatFree : Json → Prop
  | null : FloatFree .null
  | bool (b : Bool) : FloatFree (.bool b)
  | int (n : Int) : FloatFree (.int n)
  | string (s : String) : FloatFree (.string s)
  | array {items : List Json} (free : ∀ v ∈ items, FloatFree v) : FloatFree (.array items)
  | object {members : List (String × Json)} (free : ∀ m ∈ members, FloatFree m.2) :
      FloatFree (.object members)

/-- The text of a member of an object. -/
def memberText (m : String × Json) : List Char := quote m.1 ++ ':' :: m.2.compact

theorem compactItems_eq (items : List Json) : compactItems items = items.map compact := by
  induction items with
  | nil => rfl
  | cons v rest ih => exact congrArg (compact v :: ·) ih

theorem compactMembers_eq (members : List (String × Json)) :
    compactMembers members = members.map memberText := by
  induction members with
  | nil => rfl
  | cons m rest ih => exact congrArg (memberText m :: ·) ih

theorem compact_array_append (items : List Json) (r : List Char) :
    (Json.array items).compact ++ r = '[' :: (commaSeparated (items.map compact) ++ ']' :: r) := by
  rw [compact, compactItems_eq, List.cons_append, List.append_assoc]
  rfl

theorem compact_object_append (members : List (String × Json)) (r : List Char) :
    (Json.object members).compact ++ r =
      '\x7b' :: (commaSeparated (members.map memberText) ++ '\x7d' :: r) := by
  rw [compact, compactMembers_eq, List.cons_append, List.append_assoc]
  rfl

namespace FloatFree

variable {v w : Json} {r s : List Char}

/-- A value begins with a character of its form. -/
theorem exists_first (free : FloatFree v) :
    ∃ c cs, v.compact = c :: cs ∧ Form.ofChar? c = some v.form := by
  cases free with
  | null => exact ⟨_, _, rfl, rfl⟩
  | bool b => cases b <;> exact ⟨_, _, rfl, rfl⟩
  | int n =>
    rw [compact, integerText]
    split
    · exact ⟨_, _, rfl, rfl⟩
    · cases ds : digits n.natAbs with
      | nil => exact absurd ds (digits_ne_nil _)
      | cons c cs =>
        have digit := isDigit_of_mem_digits c (ds ▸ List.mem_cons_self)
        exact ⟨c, cs, rfl, if_pos digit⟩
  | string s => exact ⟨_, _, rfl, rfl⟩
  | array free => exact ⟨_, _, by rw [compact], rfl⟩
  | object free => exact ⟨_, _, by rw [compact], rfl⟩

/-- A value does not begin with a character that no value begins with. -/
theorem compact_append_ne {close : Char} (none : Form.ofChar? close = none) (free : FloatFree v) :
    v.compact ++ r ≠ close :: s := by
  obtain ⟨c, cs, eq, first⟩ := free.exists_first
  intro h
  rw [eq] at h
  rw [(List.cons.inj h).1, none] at first
  cases first

theorem form_eq (hv : FloatFree v) (hw : FloatFree w) (h : v.compact ++ r = w.compact ++ s) :
    v.form = w.form := by
  obtain ⟨c, cs, v_eq, v_first⟩ := hv.exists_first
  obtain ⟨d, ds, w_eq, w_first⟩ := hw.exists_first
  rw [v_eq, w_eq] at h
  rw [(List.cons.inj h).1, w_first] at v_first
  exact (Option.some.inj v_first).symm

/-- A value and what follows it are determined by the text of both, as long as no digit follows. -/
theorem compact_append_inj (hv : FloatFree v) : ∀ {w : Json}, FloatFree w → Tells compact v w := by
  induction hv with
  | null =>
    intro w hw r s _ _ h
    have form := form_eq .null hw h
    cases hw with
    | null => exact ⟨rfl, List.append_cancel_left h⟩
    | _ => cases form
  | bool b =>
    intro w hw r s _ _ h
    have form := form_eq (.bool b) hw h
    cases hw with
    | bool c =>
      cases b <;> cases c
      · exact ⟨rfl, List.append_cancel_left h⟩
      · cases (List.cons.inj h).1
      · cases (List.cons.inj h).1
      · exact ⟨rfl, List.append_cancel_left h⟩
    | _ => cases form
  | int n =>
    intro w hw r s hr hs h
    have form := form_eq (.int n) hw h
    cases hw with
    | int m =>
      obtain ⟨rfl, rest⟩ := integerText_append_inj hr hs h
      exact ⟨rfl, rest⟩
    | _ => cases form
  | string a =>
    intro w hw r s _ _ h
    have form := form_eq (.string a) hw h
    cases hw with
    | string b =>
      obtain ⟨rfl, rest⟩ := quote_append_inj h
      exact ⟨rfl, rest⟩
    | _ => cases form
  | @array items free ih =>
    intro w hw r s _ _ h
    have form := form_eq (.array free) hw h
    cases hw with
    | @array others free' =>
      rw [compact_array_append, compact_array_append] at h
      obtain ⟨rfl, rest⟩ := commaSeparated_inj (by decide) rfl (fun v hv w hw => ih v hv (free' w hw))
        (fun v hv r s => (hv.elim (free v) (free' v)).compact_append_ne rfl) (List.cons.inj h).2
      exact ⟨rfl, rest⟩
    | _ => cases form
  | @object members free ih =>
    intro w hw r s _ _ h
    have form := form_eq (.object free) hw h
    cases hw with
    | @object others free' =>
      rw [compact_object_append, compact_object_append] at h
      have tells : ∀ m ∈ members, ∀ n ∈ others, Tells memberText m n := by
        rintro ⟨key, v⟩ hm ⟨key', w⟩ hn r s hr hs h
        simp only [memberText, List.append_assoc] at h
        obtain ⟨rfl, values⟩ := quote_append_inj h
        obtain ⟨rfl, rest⟩ := ih _ hm (free' _ hn) hr hs (List.cons.inj values).2
        exact ⟨rfl, rest⟩
      obtain ⟨rfl, rest⟩ := commaSeparated_inj (by decide) rfl tells
        (fun m _ r s h => by cases (List.cons.inj h).1) (List.cons.inj h).2
      exact ⟨rfl, rest⟩
    | _ => cases form

/-- The compact text of a value determines it. -/
theorem render_inj (hv : FloatFree v) (hw : FloatFree w) (h : v.render = w.render) : v = w := by
  have h : v.compact = w.compact := String.ofList_injective h
  exact (hv.compact_append_inj hw noDigitFirst_nil noDigitFirst_nil (congrArg (· ++ []) h)).1

end FloatFree

end BatchSync.Json
