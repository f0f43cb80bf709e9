import BatchSync.Proofs.Column.Dates

/-!
# Times of day and the first day of 1970

The milliseconds of a time of day are those of its second and those in its nanoseconds, which in a leap
second are a thousand and more. They lie on the first day of 1970 but for the leap second at the end of a
day, which is taken for the first second of the next one; and they keep the order of times but from a leap
second into the second behind it (`Column.times_of_the_day`).
-/

namespace BatchSync

open BatchSync.Calendar BatchSync.Text

namespace Calendar

/-- The first day of 1970. -/
def firstDay : Date := ⟨1970, 1, 1⟩

/-- The day after it. -/
def secondDay : Date := ⟨1970, 1, 2⟩

namespace TimeOfDay

/-- A time of day: its nanoseconds lie in its second, or in a leap second behind it. -/
structure IsTime (t : TimeOfDay) : Prop where
  seconds_lt : t.seconds < secondsPerDay
  nanos_lt : t.nanos < 2 * nanosPerSecond

/-- Whether a time lies in the leap second at the end of the day. -/
def IsPastDay (t : TimeOfDay) : Prop := t.seconds + 1 = secondsPerDay ∧ nanosPerSecond ≤ t.nanos

instance (t : TimeOfDay) : Decidable t.IsPastDay := by
  unfold IsPastDay
  infer_instance

/-- The order of times: by their seconds, then by their nanoseconds. -/
def NotAfter (s t : TimeOfDay) : Prop :=
  s.seconds < t.seconds ∨ s.seconds = t.seconds ∧ s.nanos ≤ t.nanos

/-- Whether a time in a leap second has more milliseconds than one in the second behind it. -/
def Overtakes (s t : TimeOfDay) : Prop :=
  s.seconds + 1 = t.seconds ∧ t.nanos / 1000000 + 1000 < s.nanos / 1000000

variable {s t : TimeOfDay}

theorem IsTime.millis_lt_iff (time : t.IsTime) : t.millis < millisPerDay ↔ ¬t.IsPastDay := by
  obtain ⟨seconds_lt, nanos_lt⟩ := time
  unfold secondsPerDay at seconds_lt
  unfold nanosPerSecond at nanos_lt
  unfold IsPastDay millis millisPerDay secondsPerDay nanosPerSecond
  omega

theorem millis_nonneg (t : TimeOfDay) : 0 ≤ t.millis := Int.natCast_nonneg _

/-- The leap second at the end of the day is over after a thousand milliseconds. -/
theorem IsTime.millis_lt (time : t.IsTime) : t.millis < millisPerDay + 1000 := by
  obtain ⟨seconds_lt, nanos_lt⟩ := time
  unfold secondsPerDay at seconds_lt
  unfold nanosPerSecond at nanos_lt
  unfold millis millisPerDay
  omega

/-- The order of times is that of their milliseconds, except from a leap second into the second behind
it. -/
theorem NotAfter.millis_le_iff (time : s.IsTime) (notAfter : s.NotAfter t) :
    s.millis ≤ t.millis ↔ ¬s.Overtakes t := by
  have nanos_lt := time.nanos_lt
  unfold nanosPerSecond at nanos_lt
  unfold NotAfter at notAfter
  unfold Overtakes millis
  omega

/-- A time is made of an hour, a minute and a second, of which the sixtieth is a leap second. -/
theorem isTime_of_ofHms? {hour minute second : Nat} (made : ofHms? hour minute second 0 = some t) :
    t.IsTime := by
  unfold ofHms? at made
  split at made
  · split at made
    · cases made
      have inDay : hour * 3600 + minute * 60 + 59 < 86400 := by omega
      exact ⟨inDay, (by decide : nanosPerSecond + 0 < 2 * nanosPerSecond)⟩
    · cases made
      have inDay : hour * 3600 + minute * 60 + second < 86400 := by omega
      exact ⟨inDay, (by decide : 0 < 2 * nanosPerSecond)⟩
  · cases made

/-- What is read as a time is one. -/
theorem isTime_of_readTime? {cs : List Char} (read : readTime? cs = some t) : t.IsTime := by
  unfold readTime? complete? at read
  split at read
  · rename_i part
    cases read
    simp only [readTimePart?, Option.bind_eq_bind, Option.bind_eq_some_iff] at part
    obtain ⟨_, _, _, _, _, _, _, _, _, _, t, made, eq⟩ := part
    exact (Prod.mk.inj (Option.some.inj eq)).1 ▸ isTime_of_ofHms? made
  · cases read

end TimeOfDay

namespace Instant

/-- The instant of the milliseconds of a time is on the first day of 1970, or just behind it. -/
theorem ofMillis?_time {t : TimeOfDay} (time : t.IsTime) :
    ofMillis? t.millis = some (ofMillis t.millis) ∧
      (ofMillis t.millis).date = if t.IsPastDay then secondDay else firstDay := by
  have nonneg := t.millis_nonneg
  have lt := time.millis_lt
  have inDays : t.millis < 2 * millisPerDay := by
    unfold millisPerDay at lt ⊢
    omega
  have inRange := (isRepresentable_iff _).mpr (isInRange_of_mem_days nonneg inDays)
  refine ⟨by rw [ofMillis?_eq, if_pos inRange], ?_⟩
  rw [date_ofMillis]
  split
  · rename_i past
    have beyond : ¬t.millis < millisPerDay := fun inDay => time.millis_lt_iff.mp inDay past
    have day : t.millis / millisPerDay = 1 := by
      unfold millisPerDay at beyond lt ⊢
      omega
    rw [day]
    rfl
  · rename_i inDay
    have inDay := time.millis_lt_iff.mpr inDay
    have day : t.millis / millisPerDay = 0 := by
      unfold millisPerDay at inDay ⊢
      omega
    rw [day]
    rfl

end Instant

end Calendar

/-! ## Columns -/

namespace Column

open Calendar.Instant

/-- A text that is a time of day and fits no form that is tried before. -/
structure IsTimeText (s : String) (t : TimeOfDay) : Prop where
  notInternet : readInternet? (trim s.toList) = none
  notDateTime : readDateTime? (trim s.toList) = none
  notDate : readDate? (trim s.toList) = none
  isTime : readTime? (trim s.toList) = some t

theorem asDate_ofTime {t : TimeOfDay} (time : t.IsTime) :
    (ofTime t).asDate = .ok (some (ofMillis t.millis)) := by
  unfold ofTime asDate
  dsimp only
  rw [(ofMillis?_time time).1]
  rfl

theorem IsTimeText.asDate_eq {s : String} {t : TimeOfDay} (text : IsTimeText s t) :
    (Column.string s).asDate = .ok (some (ofMillis t.millis)) := by
  unfold asDate readInstant?
  dsimp only
  rw [text.notInternet, text.notDateTime, text.notDate, text.isTime]
  dsimp only
  rw [Option.bind_some, (ofMillis?_time (TimeOfDay.isTime_of_readTime? text.isTime)).1]
  rfl

/-- The column of a time of day denotes an instant of the first day of 1970, except in the leap second at
the end of the day, which is the first second of the day after it. A text that is nothing but a time is
taken for the same instant. Of two times the column of the later one holds no fewer milliseconds, unless
the earlier one is in a leap second and the later one in the second behind it, with fewer milliseconds
in its second. -/
theorem times_of_the_day (t : TimeOfDay) :
    (t.IsTime → ∃ i,
      (ofTime t).asDate = .ok (some i) ∧ (ofTime t).asLong = .ok (some i.millis) ∧
      0 ≤ i.millis ∧ (i.millis < millisPerDay ↔ ¬t.IsPastDay) ∧
      i.date = if t.IsPastDay then secondDay else firstDay) ∧
    (∀ s, IsTimeText s t → t.IsTime ∧ (Column.string s).asDate = (ofTime t).asDate) ∧
    ∀ later : TimeOfDay, t.IsTime → t.NotAfter later → ∃ m n,
      (ofTime t).asLong = .ok (some m) ∧ (ofTime later).asLong = .ok (some n) ∧
      (m ≤ n ↔ ¬t.Overtakes later) := by
  refine ⟨fun time => ?_, fun s text => ?_, fun later time notAfter => ?_⟩
  · refine ⟨ofMillis t.millis, asDate_ofTime time, ?_, ?_, ?_, (ofMillis?_time time).2⟩
    · rw [millis_ofMillis]
      rfl
    · rw [millis_ofMillis]
      exact t.millis_nonneg
    · rw [millis_ofMillis]
      exact time.millis_lt_iff
  · have time := TimeOfDay.isTime_of_readTime? text.isTime
    exact ⟨time, text.asDate_eq.trans (asDate_ofTime time).symm⟩
  · exact ⟨t.millis, later.millis, rfl, rfl, notAfter.millis_le_iff time⟩

/-- Half a second into a leap second, the one behind the last second of 10:00. -/
def lateInLeapSecond : TimeOfDay := ⟨36059, 1500000000⟩

/-- The start of 10:01. -/
def afterLeapSecond : TimeOfDay := ⟨36060, 0⟩

/-- Half a leap second has more milliseconds than the minute behind it, on the same day; a text of an
ordinary time is taken for the instant of its column. -/
theorem times_of_the_day_leapSecond :
    lateInLeapSecond.IsTime ∧ lateInLeapSecond.NotAfter afterLeapSecond ∧
      IsTimeText "10:20:30" ⟨37230, 0⟩ ∧
      (∃ i, (ofTime lateInLeapSecond).asDate = .ok (some i) ∧ i.date = firstDay) ∧
      (Column.string "10:20:30").asDate = (ofTime ⟨37230, 0⟩).asDate ∧
      ∃ m n, (ofTime lateInLeapSecond).asLong = .ok (some m) ∧
        (ofTime afterLeapSecond).asLong = .ok (some n) ∧ ¬m ≤ n := by
  have time : lateInLeapSecond.IsTime := ⟨by decide, by decide⟩
  have notAfter : lateInLeapSecond.NotAfter afterLeapSecond := .inl (by decide)
  have text : IsTimeText "10:20:30" ⟨37230, 0⟩ := ⟨rfl, rfl, rfl, rfl⟩
  obtain ⟨instants, _, order⟩ := times_of_the_day lateInLeapSecond
  obtain ⟨_, texts, _⟩ := times_of_the_day ⟨37230, 0⟩
  obtain ⟨i, asDate, _, _, _, date⟩ := instants time
  obtain ⟨m, n, earlier, later, le_iff⟩ := order _ time notAfter
  refine ⟨time, notAfter, text, ⟨i, asDate, date⟩, (texts _ text).2, m, n, earlier, later, ?_⟩
  exact fun le => le_iff.mp le ⟨rfl, by decide⟩

/-- The leap second at the end of the day is on the next day, made as a time and read as a text, and a
leap second has more milliseconds than the time behind it. -/
theorem leap_second_on_the_next_day :
    ¬ (∀ t : TimeOfDay, t.IsTime →
        ∃ m, (ofTime t).asLong = .ok (some m) ∧ 0 ≤ m ∧ m ≤ 86399999) ∧
    ¬ (∀ s t, IsTimeText s t →
        ∃ i, (Column.string s).asDate = .ok (some i) ∧ i.date = firstDay) ∧
    ¬ (∀ s t : TimeOfDay, s.IsTime → t.IsTime → s.NotAfter t →
        ∃ m n, (ofTime s).asLong = .ok (some m) ∧ (ofTime t).asLong = .ok (some n) ∧ m ≤ n) := by
  refine ⟨fun all => ?_, fun all => ?_, fun all => ?_⟩
  · obtain ⟨m, holds, _, le⟩ := all ⟨86399, 1000000000⟩ ⟨by decide, by decide⟩
    cases holds
    exact absurd le (by decide)
  · have text : IsTimeText "23:59:60" ⟨86399, 1000000000⟩ := ⟨rfl, rfl, rfl, rfl⟩
    obtain ⟨i, holds, date⟩ := all _ _ text
    rw [text.asDate_eq] at holds
    cases holds
    exact absurd date (by decide)
  · obtain ⟨m, n, earlier, later, le⟩ := all lateInLeapSecond afterLeapSecond ⟨by decide, by decide⟩
      ⟨by decide, by decide⟩ (.inl (by decide))
    cases earlier
    cases later
    exact absurd le (by decide)

end Column

end BatchSync
