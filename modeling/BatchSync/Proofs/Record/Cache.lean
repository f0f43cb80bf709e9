import BatchSync.Record
import Mathlib.Algebra.GroupWithZero.Nat

/-!
# Records that keep their sizes

Rows stand on a shelf, known by their places, and are made, copied, changed and looked at in any order
(`Rows.run`). Rows may be kept as records, which remember their byte sizes, or as plain lists of columns,
which remember nothing. Nobody who looks at them can tell which it is.

1. `Rows.Models` says what it takes for one kind of rows to stand for another, and `Rows.Models.run`
   carries it over every sequence of moves.
2. `Record.models` does it for records, as long as what they remember is right (`Record.Coherent`).
-/

namespace BatchSync

/-! ## Rows on a shelf -/

/-- A kind of rows: how they are made, changed and looked at. -/
structure Rows (α : Type) where
  empty : α
  ofColumns : List Column → α
  /-- The row with one more column at its end. -/
  add : α → Column → α
  /-- The row with another column at a position. -/
  set : α → Nat → Column → α
  /-- The column at a position. -/
  get? : α → Nat → Option Column
  /-- The byte size of a row, and the row after it was asked for. -/
  measure : α → Nat × α

/-- What can be done to the rows on a shelf. -/
inductive RowMove where
  | make
  | ofColumns (columns : List Column)
  /-- A copy of the row at a place is put behind all others. -/
  | copy (i : Nat)
  | add (i : Nat) (c : Column)
  | set (i position : Nat) (c : Column)
  | get (i position : Nat)
  | measure (i : Nat)

/-- The place of the row that a move may change. -/
def RowMove.place? : RowMove → Option Nat
  | .add i _ => some i
  | .set i _ _ => some i
  | .measure i => some i
  | _ => none

/-- What is answered to a move. -/
inductive RowAnswer where
  | done
  | column (c : Option Column)
  | size (bytes : Nat)

namespace Rows

variable {α β : Type}

/-- What a move is answered, and the shelf after it. There is no answer where there is no such row. -/
def step (k : Rows α) (shelf : List α) : RowMove → Option (RowAnswer × List α)
  | .make => some (.done, shelf ++ [k.empty])
  | .ofColumns columns => some (.done, shelf ++ [k.ofColumns columns])
  | .copy i => (shelf[i]?).map fun x => (.done, shelf ++ [x])
  | .add i c => (shelf[i]?).map fun x => (.done, shelf.set i (k.add x c))
  | .set i position c => (shelf[i]?).map fun x => (.done, shelf.set i (k.set x position c))
  | .get i position => (shelf[i]?).map fun x => (.column (k.get? x position), shelf)
  | .measure i => (shelf[i]?).map fun x => (.size (k.measure x).1, shelf.set i (k.measure x).2)

/-- What some moves are answered one after the other, and the shelf after them. -/
def run (k : Rows α) (shelf : List α) : List RowMove → Option (List RowAnswer × List α)
  | [] => some ([], shelf)
  | m :: rest =>
    match k.step shelf m with
    | none => none
    | some (answer, shelf) => (k.run shelf rest).map fun (answers, shelf) => (answer :: answers, shelf)

/-! ### Rows that are left alone -/

section Aside

variable {k : Rows α} {shelf shelf' : List α} {j : Nat}

/-- A move changes no row but the one at its place. -/
theorem getElem?_of_step {m : RowMove} {answer : RowAnswer} (h : k.step shelf m = some (answer, shelf'))
    (lt : j < shelf.length) (aside : m.place? ≠ some j) :
    shelf'[j]? = shelf[j]? ∧ shelf.length ≤ shelf'.length := by
  have behind : ∀ x : α, (shelf ++ [x])[j]? = shelf[j]? ∧ shelf.length ≤ (shelf ++ [x]).length :=
    fun x => ⟨List.getElem?_append_left lt, by rw [List.length_append]; exact Nat.le_add_right _ _⟩
  have elsewhere : ∀ {i : Nat} (x : α), i ≠ j →
      (shelf.set i x)[j]? = shelf[j]? ∧ shelf.length ≤ (shelf.set i x).length :=
    fun x ne => ⟨List.getElem?_set_ne ne, Nat.le_of_eq List.length_set.symm⟩
  cases m with
  | make => cases h; exact behind _
  | ofColumns columns => cases h; exact behind _
  | copy i => obtain ⟨x, -, e⟩ := Option.map_eq_some_iff.mp h; cases e; exact behind _
  | get i position =>
    obtain ⟨x, -, e⟩ := Option.map_eq_some_iff.mp h
    cases e
    exact ⟨rfl, Nat.le_refl _⟩
  | add i c | set i position c | measure i =>
    obtain ⟨x, -, e⟩ := Option.map_eq_some_iff.mp h
    cases e
    exact elsewhere _ fun e => aside (congrArg some e)

/-- Moves at other places leave a row as it is. -/
theorem getElem?_of_run {moves : List RowMove} {answers : List RowAnswer}
    (h : k.run shelf moves = some (answers, shelf')) (lt : j < shelf.length)
    (aside : ∀ m ∈ moves, m.place? ≠ some j) : shelf'[j]? = shelf[j]? := by
  induction moves generalizing shelf answers with
  | nil => cases h; rfl
  | cons m rest ih =>
    simp only [run] at h
    cases hm : k.step shelf m with
    | none => rw [hm] at h; cases h
    | some next =>
      obtain ⟨answer, shelf₁⟩ := next
      rw [hm] at h
      obtain ⟨⟨answers₁, shelf₂⟩, hr, e⟩ := Option.map_eq_some_iff.mp h
      cases e
      obtain ⟨same, grows⟩ := getElem?_of_step hm lt (aside m List.mem_cons_self)
      rw [← same]
      exact ih hr (Nat.lt_of_lt_of_le lt grows) fun m hm => aside m (List.mem_cons_of_mem _ hm)

end Aside

/-! ### Rows that stand for others -/

/-- Rows of one kind, if they are sound, show what rows of another kind show, and remain sound. -/
structure Models (k : Rows α) (p : Rows β) (view : α → β) (Sound : α → Prop) : Prop where
  empty : view k.empty = p.empty ∧ Sound k.empty
  ofColumns : ∀ columns, view (k.ofColumns columns) = p.ofColumns columns ∧ Sound (k.ofColumns columns)
  add : ∀ {x}, Sound x → ∀ c, view (k.add x c) = p.add (view x) c ∧ Sound (k.add x c)
  set : ∀ {x}, Sound x → ∀ i c, view (k.set x i c) = p.set (view x) i c ∧ Sound (k.set x i c)
  get : ∀ {x}, Sound x → ∀ i, k.get? x i = p.get? (view x) i
  measure : ∀ {x}, Sound x → (k.measure x).1 = (p.measure (view x)).1 ∧
    view (k.measure x).2 = (p.measure (view x)).2 ∧ Sound (k.measure x).2

namespace Models

variable {k : Rows α} {p : Rows β} {view : α → β} {Sound : α → Prop} {shelf : List α}

/-- A move is answered alike, and leads to shelves that show the same. -/
theorem step (h : k.Models p view Sound) (sound : ∀ x ∈ shelf, Sound x) (m : RowMove) :
    (k.step shelf m).map (Prod.map id (List.map view)) = p.step (shelf.map view) m ∧
      ∀ next, k.step shelf m = some next → ∀ x ∈ next.2, Sound x := by
  have behind : ∀ {x : α}, Sound x → ∀ y ∈ shelf ++ [x], Sound y := by
    intro x hx y hy
    rcases List.mem_append.mp hy with old | new
    · exact sound y old
    · rwa [List.mem_singleton.mp new]
  have instead : ∀ {i : Nat} {x : α}, Sound x → ∀ y ∈ shelf.set i x, Sound y := by
    intro i x hx y hy
    rcases List.mem_or_eq_of_mem_set hy with old | rfl
    · exact sound y old
    · exact hx
  -- a move on the row at a place finds it on both shelves or on neither
  have at_ : ∀ (i : Nat) (f : α → RowAnswer × List α) (f' : β → RowAnswer × List β),
      (∀ x, Sound x → Prod.map id (List.map view) (f x) = f' (view x) ∧ ∀ y ∈ (f x).2, Sound y) →
      ((shelf[i]?).map f).map (Prod.map id (List.map view)) = (((shelf.map view)[i]?).map f') ∧
        ∀ next, (shelf[i]?).map f = some next → ∀ y ∈ next.2, Sound y := by
    intro i f f' hf
    rw [List.getElem?_map]
    cases found : shelf[i]? with
    | none => exact ⟨rfl, nofun⟩
    | some x =>
      obtain ⟨alike, keeps⟩ := hf x (sound x (List.mem_of_getElem? found))
      exact ⟨congrArg some alike, fun next e => by cases e; exact keeps⟩
  cases m with
  | make =>
    refine ⟨?_, fun next e => ?_⟩
    · simp [Rows.step, h.empty.1]
    · cases e; exact behind h.empty.2
  | ofColumns columns =>
    refine ⟨?_, fun next e => ?_⟩
    · simp [Rows.step, (h.ofColumns columns).1]
    · cases e; exact behind (h.ofColumns columns).2
  | copy i => exact at_ i _ _ fun x hx => ⟨by simp, behind hx⟩
  | add i c => exact at_ i _ _ fun x hx => ⟨by simp [List.map_set, h.add hx], instead (h.add hx c).2⟩
  | set i position c =>
    exact at_ i _ _ fun x hx => ⟨by simp [List.map_set, h.set hx], instead (h.set hx position c).2⟩
  | get i position => exact at_ i _ _ fun x hx => ⟨by simp [h.get hx], sound⟩
  | measure i =>
    exact at_ i _ _ fun x hx => ⟨by simp [List.map_set, h.measure hx], instead (h.measure hx).2.2⟩

/-- Any moves are answered alike, and lead to shelves that show the same. -/
theorem run (h : k.Models p view Sound) (moves : List RowMove) {shelf : List α}
    (sound : ∀ x ∈ shelf, Sound x) :
    (k.run shelf moves).map (Prod.map id (List.map view)) = p.run (shelf.map view) moves ∧
      ∀ next, k.run shelf moves = some next → ∀ x ∈ next.2, Sound x := by
  induction moves generalizing shelf with
  | nil => exact ⟨rfl, fun next e => by cases e; exact sound⟩
  | cons m rest ih =>
    obtain ⟨alike, keeps⟩ := h.step sound m
    simp only [Rows.run]
    rw [← alike]
    cases hm : k.step shelf m with
    | none => exact ⟨rfl, nofun⟩
    | some next =>
      obtain ⟨answer, shelf₁⟩ := next
      obtain ⟨alike₁, keeps₁⟩ := ih (keeps _ hm)
      refine ⟨?_, fun next e => ?_⟩
      · show _ = (p.run (shelf₁.map view) rest).map _
        rw [← alike₁, Option.map_map, Option.map_map]
        rfl
      · obtain ⟨last, hr, rfl⟩ := Option.map_eq_some_iff.mp e
        exact keeps₁ last hr

end Models

/-! ### Rows that remember nothing -/

/-- Columns up to a number of them, where those that are missing have no value. -/
def padded (columns : List Column) (n : Nat) : List Column :=
  columns ++ List.replicate (n - columns.length) .null

/-- The sum of the byte sizes of columns. -/
def sizeOf (columns : List Column) : Nat := (columns.map Column.byteSize).sum

/-- Rows that are lists of columns, and nothing else. -/
def plain : Rows (List Column) where
  empty := []
  ofColumns columns := columns
  add columns c := columns ++ [c]
  set columns i c := (padded columns (i + 1)).set i c
  get? columns i := columns[i]?
  measure columns := (sizeOf columns, columns)

/-- What is at the positions of a row after one of them was set. -/
theorem getElem?_set_plain (columns : List Column) (i : Nat) (c : Column) (j : Nat) :
    (plain.set columns i c)[j]? =
      if j = i then some c
      else if j < columns.length then columns[j]?
      else if j < i then some .null
      else none := by
  have long : i < (padded columns (i + 1)).length := by
    unfold padded
    rw [List.length_append, List.length_replicate]
    omega
  show ((padded columns (i + 1)).set i c)[j]? = _
  by_cases same : j = i
  · subst same
    rw [if_pos rfl, List.getElem?_set_self long]
  · rw [if_neg same, List.getElem?_set_ne fun e => same e.symm]
    unfold padded
    by_cases lt : j < columns.length
    · rw [if_pos lt, List.getElem?_append_left lt]
    · rw [if_neg lt, List.getElem?_append_right (Nat.le_of_not_lt lt), List.getElem?_replicate]
      by_cases before : j < i
      · rw [if_pos before, if_pos (by omega)]
      · rw [if_neg before, if_neg (by omega)]

/-- Rows that are records. -/
def records : Rows Record where
  empty := .empty
  ofColumns := .ofColumns
  add := .add
  set := .set
  get? := Record.get?
  measure r := (r.byteSize, r.measured)

end Rows

/-! ## Records -/

namespace Record

/-- The columns of a record, from the first on. -/
def toColumns (r : Record) : List Column := r.columns.toList

/-- The size that a record remembers, if it does, is the sum of the byte sizes of its columns. -/
def Coherent (r : Record) : Prop := ∀ n, r.knownSize = some n → n = Rows.sizeOf r.toColumns

theorem columnsSize_eq (columns : List Column) : columnsSize columns = Rows.sizeOf columns := by
  induction columns with
  | nil => rfl
  | cons c rest ih => simp [columnsSize, Rows.sizeOf, ih]

theorem Coherent.byteSize_eq {r : Record} (h : r.Coherent) : r.byteSize = Rows.sizeOf r.toColumns := by
  unfold byteSize
  cases known : r.knownSize with
  | none => exact columnsSize_eq _
  | some n => exact h n known

theorem Coherent.measured {r : Record} (h : r.Coherent) : r.measured.Coherent := by
  rintro n ⟨⟩
  exact h.byteSize_eq

theorem toColumns_add (r : Record) (c : Column) : (r.add c).toColumns = r.toColumns ++ [c] :=
  Array.toList_push

theorem toColumns_set (r : Record) (i : Nat) (c : Column) :
    (r.set i c).toColumns = (Rows.padded r.toColumns (i + 1)).set i c := by
  simp [toColumns, set, Rows.padded]

theorem get?_eq (r : Record) (i : Nat) : r.get? i = r.toColumns[i]? := by
  simp [get?, toColumns]

/-- Records whose sizes are right, if they remember them, stand for their columns. Every change makes a
record forget its size. -/
theorem models : Rows.records.Models Rows.plain toColumns Coherent where
  empty := ⟨rfl, nofun⟩
  ofColumns := fun _ => ⟨rfl, nofun⟩
  add := fun _ c => ⟨toColumns_add _ c, nofun⟩
  set := fun _ i c => ⟨toColumns_set _ i c, nofun⟩
  get := fun {r} _ i => get?_eq r i
  measure := fun h => ⟨h.byteSize_eq, rfl, h.measured⟩

/-- **Nobody sees that sizes are remembered.** Whatever is done to any number of records:
1. A size that is remembered is the sum of the byte sizes of the columns, and that sum is the byte size
   in any case.
2. All answers are those of plain lists of columns, which hold the same columns afterwards.
3. In these, setting a position past the end pads with columns without a value; all other positions are
   left as they were.
4. What is done to other records, such as copies of it or what it is a copy of, leaves a record and its
   size as they are. -/
theorem sizes_remembered_unseen (moves : List RowMove) :
    (∀ answers shelf, Rows.records.run [] moves = some (answers, shelf) → ∀ r ∈ shelf,
      (∀ n, r.knownSize = some n → n = (r.columns.toList.map Column.byteSize).sum) ∧
        r.byteSize = (r.columns.toList.map Column.byteSize).sum) ∧
    (Rows.records.run [] moves).map (Prod.map id (List.map toColumns)) = Rows.plain.run [] moves ∧
    (∀ columns i c j, (Rows.plain.set columns i c)[j]? =
      if j = i then some c
      else if j < columns.length then columns[j]?
      else if j < i then some .null
      else none) ∧
    ∀ answers shelf, Rows.records.run [] moves = some (answers, shelf) →
      ∀ later answers' shelf', Rows.records.run shelf later = some (answers', shelf') →
        ∀ i, i < shelf.length → (∀ m ∈ later, m.place? ≠ some i) → shelf'[i]? = shelf[i]? := by
  have sound : ∀ r ∈ ([] : List Record), r.Coherent := nofun
  obtain ⟨alike, coherent⟩ := models.run moves sound
  refine ⟨fun answers shelf h r hr => ?_, alike, Rows.getElem?_set_plain,
    fun answers shelf _ later answers' shelf' h i lt aside => Rows.getElem?_of_run h lt aside⟩
  have hc : r.Coherent := coherent _ h r hr
  exact ⟨hc, hc.byteSize_eq⟩

/-- A record is measured, and copied. -/
def copied : List RowMove := [.ofColumns [.string "abc"], .measure 0, .copy 0]

/-- It is changed afterwards. -/
def changed : List RowMove := [.set 0 2 (.bool true), .measure 0, .add 0 .null]

/-- The copy has the size that was remembered when it was made, and keeps it. -/
theorem sizes_remembered_unseen_copied :
    ∃ answers shelf answers' shelf', Rows.records.run [] copied = some (answers, shelf) ∧
      Rows.records.run shelf changed = some (answers', shelf') ∧
      (∀ r ∈ shelf, r.byteSize = (r.columns.toList.map Column.byteSize).sum) ∧
      (shelf[1]?).bind Record.knownSize = some 3 ∧ shelf'[1]? = shelf[1]? := by
  refine ⟨_, _, _, _, rfl, rfl, fun r hr => ?_, rfl, ?_⟩
  · exact ((sizes_remembered_unseen copied).1 _ _ rfl r hr).2
  · exact (sizes_remembered_unseen copied).2.2.2 _ _ rfl changed _ _ rfl 1 (by decide) (by decide)

/-- The size of the record changes, and that of its copy does not. -/
example :
    (Rows.records.run [] [.ofColumns [.string "abc"], .measure 0, .copy 0, .set 0 2 (.bool true),
      .measure 0, .measure 1]).map Prod.fst =
    some [.done, .size 3, .done, .done, .size 4, .size 3] := by
  rfl

end Record

end BatchSync
