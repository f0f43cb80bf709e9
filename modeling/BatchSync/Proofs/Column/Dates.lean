import BatchSync.Column.Conversion
import BatchSync.Proofs.Calendar.Reading

/-!
# Dates and their texts

A date column has a text and an instant just if its milliseconds lie in the years that have dates
(`Instant.isRepresentable_iff`). The text is read back to all of the date that its sub-type shows
(`DateType.floor`, `Instant.readInstant?_text`).
-/

namespace BatchSync

open BatchSync.Calendar

/-! ## Instants of milliseconds -/

namespace Calendar

/-- Milliseconds of a day. -/
def millisPerDay : Int := 86400000

/-- Whether a number of milliseconds lies in the years that have dates. -/
def IsInRange (millis : Int) : Prop :=
  Date.newYear firstYear * millisPerDay ≤ millis ∧
    millis < Date.newYear (lastYear + 1) * millisPerDay

namespace Instant

/-- The instant of a number of milliseconds, whether it has a date or not. -/
def ofMillis (millis : Int) : Instant := ⟨millis / 1000, (millis % 1000).toNat * 1000000⟩

theorem ofMillis?_eq (millis : Int) : ofMillis? millis =
    if (ofMillis millis).isRepresentable then some (ofMillis millis) else none := rfl

@[simp] theorem millis_ofMillis (millis : Int) : (ofMillis millis).millis = millis := by
  simp only [ofMillis, Instant.millis]
  omega

/-- The day of an instant. -/
theorem date_ofMillis (millis : Int) :
    (ofMillis millis).date = Date.ofEpochDay (millis / millisPerDay) := by
  have days : millis / 1000 / 86400 = millis / 86400000 := by omega
  exact congrArg Date.ofEpochDay days

/-- The instants with dates are those between the first and the last of them. -/
theorem isRepresentable_iff (millis : Int) :
    (ofMillis millis).isRepresentable = true ↔ IsInRange millis := by
  have last : ∀ year : Int, year ≤ lastYear ↔ ¬ lastYear + 1 ≤ year := fun year => by omega
  unfold isRepresentable IsInRange
  rw [Bool.and_eq_true, decide_eq_true_eq, decide_eq_true_eq, date_ofMillis, Date.le_year_iff, last,
    Date.le_year_iff]
  unfold millisPerDay
  omega

theorem isInRange_date {millis : Int} (inRange : IsInRange millis) :
    (ofMillis millis).date.IsInRange where
  toIsValid := Date.isValid_ofEpochDay _
  year_mem := by
    have representable := (isRepresentable_iff millis).mpr inRange
    unfold isRepresentable at representable
    rwa [Bool.and_eq_true, decide_eq_true_eq, decide_eq_true_eq] at representable

theorem isPlain_timeOfDay (i : Instant) : i.timeOfDay.IsPlain := by
  unfold TimeOfDay.IsPlain timeOfDay secondsPerDay
  dsimp only
  omega

/-- The first two days of 1970 lie in the years that have dates. -/
theorem isInRange_of_mem_days {millis : Int} (nonneg : 0 ≤ millis) (lt : millis < 2 * millisPerDay) :
    IsInRange millis := by
  have first : Date.newYear firstYear ≤ 0 := by
    rw [Date.newYear_eq, Date.marchDay_eq, firstYear]
    omega
  have last : 2 ≤ Date.newYear (lastYear + 1) := by
    rw [Date.newYear_eq, Date.marchDay_eq, lastYear]
    omega
  unfold IsInRange
  unfold millisPerDay at lt ⊢
  omega

end Instant

end Calendar

/-! ## What a text shows -/

/-- What the text of a date shows of its milliseconds: its whole seconds, its day, or the whole seconds
of its day. -/
def DateType.floor (millis : Int) : DateType → Int
  | .dateTime => millis / 1000 * 1000
  | .date => millis / millisPerDay * millisPerDay
  | .time => millis % millisPerDay / 1000 * 1000

/-- The text of an instant by a sub-type. -/
def DateType.text (i : Instant) : DateType → List Char
  | .date => i.date.text
  | .time => i.timeOfDay.text
  | .dateTime => i.text

namespace Calendar.Instant

/-- The midnight of a date is the start of its day. -/
theorem ofDateAndTime_midnight (millis : Int) :
    ofDateAndTime (ofMillis millis).date .midnight = ofMillis (DateType.floor millis .date) := by
  rw [date_ofMillis, ofDateAndTime, Date.epochDay_ofEpochDay]
  simp only [ofMillis, DateType.floor, millisPerDay, secondsPerDay, TimeOfDay.midnight,
    Instant.mk.injEq]
  omega

/-- A date and the whole seconds of a time make up whole seconds. -/
theorem ofDateAndTime_seconds (millis : Int) :
    ofDateAndTime (ofMillis millis).date ⟨(ofMillis millis).timeOfDay.seconds, 0⟩ =
      ofMillis (DateType.floor millis .dateTime) := by
  rw [date_ofMillis, ofDateAndTime, Date.epochDay_ofEpochDay]
  simp only [ofMillis, timeOfDay, DateType.floor, millisPerDay, secondsPerDay, Instant.mk.injEq]
  omega

theorem millis_timeOfDay (millis : Int) :
    TimeOfDay.millis ⟨(ofMillis millis).timeOfDay.seconds, 0⟩ = DateType.floor millis .time := by
  simp only [ofMillis, timeOfDay, TimeOfDay.millis, DateType.floor, millisPerDay, secondsPerDay]
  omega

/-- A text is read back to what it shows. -/
theorem readInstant?_text {millis : Int} (inRange : IsInRange millis) (type : DateType) :
    readInstant? (type.text (ofMillis millis)) = some (ofMillis (type.floor millis)) := by
  have plain := isPlain_timeOfDay (ofMillis millis)
  cases type with
  | date =>
    exact (readInstant?_date (isInRange_date inRange)).trans
      (congrArg some (ofDateAndTime_midnight millis))
  | dateTime =>
    exact (readInstant?_dateAndTime (isInRange_date inRange) plain).trans
      (congrArg some (ofDateAndTime_seconds millis))
  | time =>
    have inDay : IsInRange (DateType.floor millis .time) := by
      refine isInRange_of_mem_days ?_ ?_ <;> simp only [DateType.floor, millisPerDay] <;> omega
    refine (readInstant?_time plain).trans ?_
    rw [millis_timeOfDay, ofMillis?_eq, if_pos ((isRepresentable_iff _).mpr inDay)]

end Calendar.Instant

/-! ## Columns -/

namespace Column

variable {millis : Int}

open Calendar.Instant

theorem dateText?_of_isInRange (inRange : IsInRange millis) (type : DateType) :
    dateText? millis type = some (String.ofList (type.text (ofMillis millis))) := by
  rw [dateText?, ofMillis?_eq, if_pos ((isRepresentable_iff millis).mpr inRange)]
  cases type <;> rfl

theorem ofMillis?_of_not_isInRange (outside : ¬ IsInRange millis) : ofMillis? millis = none := by
  rw [ofMillis?_eq, if_neg (mt (isRepresentable_iff millis).mp outside)]

/-- The reason why a date has neither a text nor an instant. -/
def outOfRange (millis : Int) : String := s!"timestamp {shown millis} is out of range"

/-- A date has a text and an instant just if it lies in the years that have dates. The instant is the
exact one, and the text is read back to what it shows. -/
theorem date_round_trip (millis : Int) (type : DateType) :
    (IsInRange millis ∧ ∃ text i read,
      asString (.date millis type) = .ok (some text) ∧
      asDate (.date millis type) = .ok (some i) ∧ i.millis = millis ∧
      (ofInstant i).equals (.date millis type) = true ∧
      asDate (.string text) = .ok (some read) ∧ read = ofMillis (type.floor millis) ∧
      read.millis = type.floor millis) ∨
    (¬ IsInRange millis ∧
      asString (.date millis type) = .error ⟨.date, .string, some (outOfRange millis)⟩ ∧
      asDate (.date millis type) = .error ⟨.date, .date, some (outOfRange millis)⟩) := by
  by_cases inRange : IsInRange millis
  · refine .inl ⟨inRange, String.ofList (type.text (ofMillis millis)), ofMillis millis, _, ?_, ?_,
      millis_ofMillis millis, ?_, ?_, rfl, millis_ofMillis _⟩
    · rw [asString, dateText?_of_isInRange inRange]
      rfl
    · rw [asDate, ofMillis?_eq, if_pos ((isRepresentable_iff millis).mpr inRange)]
      rfl
    · rw [ofInstant, millis_ofMillis]
      exact beq_self_eq_true millis
    · rw [asDate, String.toList_ofList, readInstant?_text inRange]
      rfl
  · refine .inr ⟨inRange, ?_, ?_⟩
    · rw [asString, dateText?, ofMillis?_of_not_isInRange inRange]
      rfl
    · rw [asDate, ofMillis?_of_not_isInRange inRange]
      rfl

end Column

end BatchSync
