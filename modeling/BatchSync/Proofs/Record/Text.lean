import BatchSync.Proofs.Json.Unambiguous
import BatchSync.Record

/-!
# The text of a record determines it

The text of a record is the compact text of a JSON value without numbers of binary64, as long as none of
its columns is a double. So it determines that value, and the value determines the columns
(`Column.toJson_inj`), with their kinds and with the sub-types of dates.
-/

namespace BatchSync

theorem integerText_injective {m n : Int} (h : integerText m = integerText n) : m = n :=
  (integerText_append_inj noDigitFirst_nil noDigitFirst_nil (congrArg (· ++ []) h)).1

theorem ColumnKind.name_injective {k l : ColumnKind} (h : k.name = l.name) : k = l := by
  cases k <;> cases l <;> revert h <;> decide

theorem DateType.name_injective {s t : DateType} (h : s.name = t.name) : s = t := by
  cases s <;> cases t <;> revert h <;> decide

namespace Column

variable {c d : Column}

/-- The value of a column that is no double is written without numbers of binary64. -/
theorem floatFree_valueJson (noDouble : c.kind ≠ .double) : ∀ v ∈ c.valueJson?, v.FloatFree := by
  intro v eq
  cases c with
  | null => cases eq
  | long n =>
    obtain rfl := Option.some.inj eq
    split
    · exact .int n
    · exact .string _
  | double x => exact absurd rfl noDouble
  | string s =>
    obtain rfl := Option.some.inj eq
    exact .string s
  | bool b =>
    obtain rfl := Option.some.inj eq
    exact .bool b
  | date millis type =>
    obtain rfl := Option.some.inj eq
    exact .object (List.forall_mem_cons.mpr ⟨.int _, List.forall_mem_singleton.mpr (.string _)⟩)
  | bytes b =>
    obtain rfl := Option.some.inj eq
    refine .array fun v mem => ?_
    obtain ⟨byte, -, rfl⟩ := List.mem_map.mp mem
    exact .int _

theorem floatFree_toJson (noDouble : c.kind ≠ .double) : c.toJson.FloatFree := by
  refine .object (List.forall_mem_cons.mpr ⟨.string _, fun m mem => ?_⟩)
  obtain ⟨v, value, rfl⟩ := Option.map_eq_some_iff.mp (Option.mem_toList.mp mem)
  exact floatFree_valueJson noDouble v value

/-- The value of a column of a known kind is determined by how it is written. -/
theorem eq_of_valueJson (noDouble : c.kind ≠ .double) (kind : c.kind = d.kind)
    (value : c.valueJson? = d.valueJson?) : c = d := by
  cases c with
  | null =>
    cases d with
    | null => rfl
    | _ => cases kind
  | long m =>
    cases d with
    | long n =>
      have value := Option.some.inj value
      split at value <;> split at value
      · rw [Json.int.inj value]
      · cases value
      · cases value
      · rw [integerText_injective (String.ofList_injective (Json.string.inj value))]
    | _ => cases kind
  | double x => exact absurd rfl noDouble
  | string s =>
    cases d with
    | string t => rw [Json.string.inj (Option.some.inj value)]
    | _ => cases kind
  | bool a =>
    cases d with
    | bool b => rw [Json.bool.inj (Option.some.inj value)]
    | _ => cases kind
  | date millis type =>
    cases d with
    | date others type' =>
      have members := Json.object.inj (Option.some.inj value)
      simp only [List.cons.injEq, Prod.mk.injEq, Json.int.injEq, Json.string.injEq] at members
      obtain ⟨⟨-, rfl⟩, ⟨-, name⟩, -⟩ := members
      rw [DateType.name_injective name]
    | _ => cases kind
  | bytes a =>
    cases d with
    | bytes b =>
      have items := Json.array.inj (Option.some.inj value)
      have bytes := (List.map_inj_right fun x y eq =>
        UInt8.toNat_inj.mp (Int.ofNat.inj (Json.int.inj eq))).mp items
      rw [ByteArray.ext (Array.toList_inj.mp bytes)]
    | _ => cases kind

/-- A member that may be missing determines its value. -/
theorem eq_of_valueMember {x y : Option Json}
    (h : (x.map ("value", ·)).toList = (y.map ("value", ·)).toList) : x = y := by
  cases x with
  | none =>
    cases y with
    | none => rfl
    | some w => cases h
  | some v =>
    cases y with
    | none => cases h
    | some w => rw [(Prod.mk.inj (List.cons.inj h).1).2]

/-- A column is determined by how it is written. -/
theorem toJson_inj (noDouble : c.kind ≠ .double) (h : c.toJson = d.toJson) : c = d := by
  obtain ⟨name, value⟩ := List.cons.inj (Json.object.inj h)
  have kind := ColumnKind.name_injective (Json.string.inj (Prod.mk.inj name).2)
  exact eq_of_valueJson noDouble kind (eq_of_valueMember value)

theorem beq_bytes_iff {a b : ByteArray} : (a == b) = true ↔ a = b := by
  have eq : (a == b) = (a.data == b.data) := rfl
  rw [eq, beq_iff_eq, ByteArray.ext_iff]

/-- Of columns that are no doubles, those of one kind, value and sub-type are the same. -/
theorem eq_iff (noDouble : c.kind ≠ .double) :
    c = d ↔ c.kind = d.kind ∧ c.equals d = true ∧ c.dateType? = d.dateType? := by
  constructor
  · rintro rfl
    refine ⟨rfl, ?_, rfl⟩
    cases c with
    | null => rfl
    | double x => exact absurd rfl noDouble
    | bytes b => exact beq_bytes_iff.mpr rfl
    | _ => exact beq_self_eq_true _
  · rintro ⟨kind, equal, type⟩
    cases c with
    | null =>
      cases d with
      | null => rfl
      | _ => cases kind
    | long m =>
      cases d with
      | long n => rw [eq_of_beq (show (m == n) = true from equal)]
      | _ => cases kind
    | double x => exact absurd rfl noDouble
    | string s =>
      cases d with
      | string t => rw [eq_of_beq (show (s == t) = true from equal)]
      | _ => cases kind
    | bool a =>
      cases d with
      | bool b => rw [eq_of_beq (show (a == b) = true from equal)]
      | _ => cases kind
    | date millis t =>
      cases d with
      | date others t' =>
        rw [eq_of_beq (show (millis == others) = true from equal), Option.some.inj type]
      | _ => cases kind
    | bytes a =>
      cases d with
      | bytes b => rw [beq_bytes_iff.mp equal]
      | _ => cases kind

end Column

namespace Record

variable {a b : Record}

/-- Whether no column of a record is a double. -/
def HasNoDoubles (r : Record) : Prop := ∀ c ∈ r.columns.toList, c.kind ≠ .double

theorem floatFree_toJson (noDoubles : a.HasNoDoubles) : a.toJson.FloatFree := by
  refine .array fun v mem => ?_
  obtain ⟨c, column, rfl⟩ := List.mem_map.mp mem
  exact Column.floatFree_toJson (noDoubles c column)

/-- Lists of columns are determined by how their columns are written. -/
theorem map_toJson_inj {cs ds : List Column} (noDoubles : ∀ c ∈ cs, c.kind ≠ .double)
    (h : cs.map Column.toJson = ds.map Column.toJson) : cs = ds := by
  induction cs generalizing ds with
  | nil => exact (List.map_eq_nil_iff.mp h.symm).symm
  | cons c cs ih =>
    cases ds with
    | nil => cases h
    | cons d ds =>
      obtain ⟨first, rest⟩ := List.cons.inj h
      rw [Column.toJson_inj (noDoubles c List.mem_cons_self) first,
        ih (fun c mem => noDoubles c (List.mem_cons_of_mem _ mem)) rest]

/-- Records have the same text just if they have the same columns. -/
theorem text_eq_iff_columns (ha : a.HasNoDoubles) (hb : b.HasNoDoubles) :
    a.text = b.text ↔ a.columns = b.columns := by
  constructor
  · intro h
    have json := (floatFree_toJson ha).render_inj (floatFree_toJson hb) h
    exact Array.toList_inj.mp (map_toJson_inj ha (Json.array.inj json))
  · intro h
    rw [text, text, toJson, toJson, h]

/-- Records have the same text just if they have as many columns, and at each position columns of the
same kind, value and sub-type. -/
theorem text_eq_iff (ha : a.HasNoDoubles) (hb : b.HasNoDoubles) :
    a.text = b.text ↔ a.count = b.count ∧ ∀ i c d, a.get? i = some c → b.get? i = some d →
      c.kind = d.kind ∧ c.equals d = true ∧ c.dateType? = d.dateType? := by
  have noDouble : ∀ i c, a.get? i = some c → c.kind ≠ .double := fun i c h =>
    ha c (Array.mem_toList_iff.mpr (Array.mem_of_getElem? h))
  rw [text_eq_iff_columns ha hb]
  constructor
  · intro h
    refine ⟨congrArg Array.size h, fun i c d hc hd => ?_⟩
    have hd : a.columns[i]? = some d := by rw [h]; exact hd
    exact (Column.eq_iff (noDouble i c hc)).mp (Option.some.inj (hc.symm.trans hd))
  · rintro ⟨count, same⟩
    refine Array.ext count fun i hi hj => ?_
    have hc : a.get? i = some a.columns[i] := Array.getElem?_eq_getElem hi
    have hd : b.get? i = some b.columns[i] := Array.getElem?_eq_getElem hj
    exact (Column.eq_iff (noDouble i _ hc)).mpr (same i _ _ hc hd)

/-- An integer of more than 64 bits is written like a string of its digits, and is told apart from it
nevertheless. -/
theorem text_eq_iff_largeInteger :
    (ofColumns [.long 9223372036854775808]).HasNoDoubles ∧
      (ofColumns [.string "9223372036854775808"]).HasNoDoubles ∧
      (ofColumns [.long 9223372036854775808]).text ≠ (ofColumns [.string "9223372036854775808"]).text := by
  have ha : (ofColumns [.long 9223372036854775808]).HasNoDoubles :=
    List.forall_mem_singleton.mpr (by decide)
  have hb : (ofColumns [.string "9223372036854775808"]).HasNoDoubles :=
    List.forall_mem_singleton.mpr (by decide)
  refine ⟨ha, hb, fun h => ?_⟩
  obtain ⟨-, same⟩ := (text_eq_iff ha hb).mp h
  cases (same 0 _ _ rfl rfl).1

end Record

end BatchSync
