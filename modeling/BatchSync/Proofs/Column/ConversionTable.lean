import BatchSync.Column.Conversion

/-!
# The table of conversions

Eight conversions are one function of a column and of the type asked for (`Column.convert`). Its outcome
is one of four (`Column.Answers`): there is no value, there is one, the conversion is not defined, or
the value at hand does not fit. Which of the pairs of a kind and a type have no conversion is a table
(`deniedPairs`), and `Column.follows_table` says that the outcomes follow it.
-/

namespace BatchSync

/-- The type that is asked for. -/
def ConversionTarget.Value : ConversionTarget → Type
  | .long => Int
  | .double => Binary64
  | .string => String
  | .bool => Bool
  | .date => Calendar.Instant
  | .bytes => ByteArray
  | .bigInteger => Int
  | .bigDecimal => ScaledDecimal

/-- The pairs of a kind and a type between which there is no conversion. -/
def deniedPairs : List (ColumnKind × ConversionTarget) :=
  [(.long, .bytes),
    (.double, .bool), (.double, .date), (.double, .bytes),
    (.bool, .date), (.bool, .bytes),
    (.date, .double), (.date, .bool), (.date, .bytes), (.date, .bigInteger), (.date, .bigDecimal),
    (.bytes, .long), (.bytes, .double), (.bytes, .bool), (.bytes, .date), (.bytes, .bigInteger),
    (.bytes, .bigDecimal)]

namespace Column

theorem mem_deniedPairs_iff (kind : ColumnKind) (target : ConversionTarget) :
    (kind, target) ∈ deniedPairs ↔ isSupported kind target = false := by
  cases kind <;> cases target <;> decide

/-- A column as the type asked for. -/
def convert (c : Column) : (target : ConversionTarget) → Converted target.Value
  | .long => c.asLong
  | .double => c.asDouble
  | .string => c.asString
  | .bool => c.asBool
  | .date => c.asDate
  | .bytes => c.asBytes
  | .bigInteger => c.asBigInteger
  | .bigDecimal => c.asBigDecimal

/-! ## Outcomes -/

/-- The outcomes that a conversion of a column may have. -/
inductive Answers (c : Column) (target : ConversionTarget) {α : Type} : Converted α → Prop
  /-- There is no value to convert. -/
  | nothing (isNull : c.isNull = true) : Answers c target (.ok none)
  /-- The value is converted. -/
  | value (a : α) (isThere : c.isNull = false) (supported : isSupported c.kind target = true) :
      Answers c target (.ok (some a))
  /-- The conversion is not defined. -/
  | denied (isThere : c.isNull = false) (unsupported : isSupported c.kind target = false) :
      Answers c target (.error ⟨c.kind, target, none⟩)
  /-- The value at hand does not fit. -/
  | invalid (reason : String) (isThere : c.isNull = false)
      (supported : isSupported c.kind target = true) :
      Answers c target (.error ⟨c.kind, target, some reason⟩)

section Outcomes

variable {c : Column} {target : ConversionTarget} {α : Type}

/-- A conversion that is defined gives the value, or fails for a reason. -/
theorem answers_orInvalid (isThere : c.isNull = false)
    (supported : isSupported c.kind target = true) (reason : String) (a? : Option α) :
    c.Answers target (c.orInvalid target reason a?) := by
  cases a? with
  | none => exact .invalid reason isThere supported
  | some a => exact .value a isThere supported

variable {r : Converted α}

theorem Answers.eq_nothing_iff (answers : c.Answers target r) :
    r = .ok none ↔ c.isNull = true := by
  cases answers with
  | nothing isNull => exact ⟨fun _ => isNull, fun _ => rfl⟩
  | value a isThere _ => exact ⟨nofun, fun isNull => absurd isNull (by simp [isThere])⟩
  | denied isThere _ => exact ⟨nofun, fun isNull => absurd isNull (by simp [isThere])⟩
  | invalid reason isThere _ => exact ⟨nofun, fun isNull => absurd isNull (by simp [isThere])⟩

/-- Only a conversion that is not defined fails without a reason. -/
theorem Answers.fails_without_reason_iff (answers : c.Answers target r) :
    (∃ e, r = .error e ∧ e.reason = none) ↔ isSupported c.kind target = false := by
  cases answers with
  | nothing isNull =>
    refine ⟨nofun, fun unsupported => ?_⟩
    cases c with
    | null => cases unsupported
    | _ => cases isNull
  | value a _ supported => exact ⟨nofun, fun unsupported => absurd supported (by simp [unsupported])⟩
  | denied _ unsupported => exact ⟨fun _ => unsupported, fun _ => ⟨_, rfl, rfl⟩⟩
  | invalid reason _ supported =>
    refine ⟨?_, fun unsupported => absurd supported (by simp [unsupported])⟩
    rintro ⟨e, eq, none⟩
    cases eq
    cases none

/-- A failure names the kind of the column and the type asked for. -/
theorem Answers.names (answers : c.Answers target r) {e : ConversionError} (fails : r = .error e) :
    e.source = c.kind ∧ e.target = target := by
  cases answers with
  | nothing => cases fails
  | value => cases fails
  | denied => cases fails; exact ⟨rfl, rfl⟩
  | invalid => cases fails; exact ⟨rfl, rfl⟩

end Outcomes

/-! ## The eight conversions -/

theorem answers_asLong (c : Column) : c.Answers .long c.asLong := by
  cases c with
  | null => exact .nothing rfl
  | long n => exact answers_orInvalid rfl rfl _ _
  | double x => exact answers_orInvalid rfl rfl _ _
  | string s =>
    unfold asLong
    dsimp only
    split
    · exact answers_orInvalid rfl rfl _ _
    · exact answers_orInvalid rfl rfl _ _
  | bool b => exact .value _ rfl rfl
  | date millis type => exact .value _ rfl rfl
  | bytes b => exact .denied rfl rfl

theorem answers_asDouble (c : Column) : c.Answers .double c.asDouble := by
  cases c with
  | null => exact .nothing rfl
  | long n => exact .value _ rfl rfl
  | double x => exact .value _ rfl rfl
  | string s => exact answers_orInvalid rfl rfl _ _
  | bool b => exact .value _ rfl rfl
  | date millis type => exact .denied rfl rfl
  | bytes b => exact .denied rfl rfl

theorem answers_asString (c : Column) : c.Answers .string c.asString := by
  cases c with
  | null => exact .nothing rfl
  | long n => exact .value _ rfl rfl
  | double x => exact .value _ rfl rfl
  | string s => exact .value _ rfl rfl
  | bool b => exact .value _ rfl rfl
  | date millis type => exact answers_orInvalid rfl rfl _ _
  | bytes b =>
    unfold asString
    dsimp only
    split
    · exact .value _ rfl rfl
    · exact answers_orInvalid rfl rfl _ _

theorem answers_asBool (c : Column) : c.Answers .bool c.asBool := by
  cases c with
  | null => exact .nothing rfl
  | long n => exact .value _ rfl rfl
  | double x => exact .denied rfl rfl
  | string s =>
    unfold asBool
    dsimp only
    split
    · exact .value _ rfl rfl
    split
    · exact .value _ rfl rfl
    · exact answers_orInvalid rfl rfl _ _
  | bool b => exact .value _ rfl rfl
  | date millis type => exact .denied rfl rfl
  | bytes b => exact .denied rfl rfl

theorem answers_asDate (c : Column) : c.Answers .date c.asDate := by
  cases c with
  | null => exact .nothing rfl
  | long n => exact answers_orInvalid rfl rfl _ _
  | double x => exact .denied rfl rfl
  | string s => exact answers_orInvalid rfl rfl _ _
  | bool b => exact .denied rfl rfl
  | date millis type => exact answers_orInvalid rfl rfl _ _
  | bytes b => exact .denied rfl rfl

theorem answers_asBytes (c : Column) : c.Answers .bytes c.asBytes := by
  cases c with
  | null => exact .nothing rfl
  | long n => exact .denied rfl rfl
  | double x => exact .denied rfl rfl
  | string s => exact .value _ rfl rfl
  | bool b => exact .denied rfl rfl
  | date millis type => exact .denied rfl rfl
  | bytes b => exact .value _ rfl rfl

theorem answers_asBigInteger (c : Column) : c.Answers .bigInteger c.asBigInteger := by
  cases c with
  | null => exact .nothing rfl
  | long n => exact .value _ rfl rfl
  | double x => exact answers_orInvalid rfl rfl _ _
  | string s => exact answers_orInvalid rfl rfl _ _
  | bool b => exact .value _ rfl rfl
  | date millis type => exact .denied rfl rfl
  | bytes b => exact .denied rfl rfl

theorem answers_asBigDecimal (c : Column) : c.Answers .bigDecimal c.asBigDecimal := by
  cases c with
  | null => exact .nothing rfl
  | long n => exact answers_orInvalid rfl rfl _ _
  | double x => exact answers_orInvalid rfl rfl _ _
  | string s => exact answers_orInvalid rfl rfl _ _
  | bool b => exact .value _ rfl rfl
  | date millis type => exact .denied rfl rfl
  | bytes b => exact .denied rfl rfl

theorem answers_convert (c : Column) (target : ConversionTarget) :
    c.Answers target (c.convert target) := by
  cases target with
  | long => exact answers_asLong c
  | double => exact answers_asDouble c
  | string => exact answers_asString c
  | bool => exact answers_asBool c
  | date => exact answers_asDate c
  | bytes => exact answers_asBytes c
  | bigInteger => exact answers_asBigInteger c
  | bigDecimal => exact answers_asBigDecimal c

/-- The eight conversions follow the table, whatever value a column holds: there is nothing to convert
just in a column without a value, a conversion fails without a reason just if the table denies it, any
other failure has a reason, and every failure names the kind of the column and the type asked for. -/
theorem follows_table (c : Column) (target : ConversionTarget) :
    (c.convert target = .ok none ↔ c.isNull = true) ∧
    ((∃ e, c.convert target = .error e ∧ e.reason = none) ↔ (c.kind, target) ∈ deniedPairs) ∧
    ∀ e, c.convert target = .error e →
      e.source = c.kind ∧ e.target = target ∧
        ((c.kind, target) ∉ deniedPairs → ∃ reason, e.reason = some reason) := by
  have answers := answers_convert c target
  have denied : (∃ e, c.convert target = .error e ∧ e.reason = none) ↔
      (c.kind, target) ∈ deniedPairs :=
    answers.fails_without_reason_iff.trans (mem_deniedPairs_iff _ _).symm
  refine ⟨answers.eq_nothing_iff, denied, fun e fails => ?_⟩
  obtain ⟨source, asked⟩ := answers.names fails
  refine ⟨source, asked, fun defined => Option.ne_none_iff_exists'.mp fun none => ?_⟩
  exact defined (denied.mp ⟨e, fails, none⟩)

end Column

end BatchSync
