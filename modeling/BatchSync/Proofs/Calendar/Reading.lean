import BatchSync.Calendar.Text
import BatchSync.Proofs.Calendar.Days
import BatchSync.Proofs.Number.Digits

/-!
# Reading dates back

A text is read in the first of four forms that fits.

1. `Date.readDatePart?_text` and `TimeOfDay.readTime?_text` read the fields back in the form in which
   they were written.
2. No form that is tried before takes the text of a later one: the internet form wants an offset from
   UTC (`readInternet?_date`, `readInternet?_instant`, `readInternet?_time`), a date and a time want both,
   and a time has no year (`readDatePart?_time`).
3. `readInstant?_date`, `readInstant?_time` and `readInstant?_instant` put these together.
-/

namespace BatchSync.Calendar

open BatchSync.Text

/-! ## Numbers -/

/-- Reads digits that end where others do not go on, or after as many as may be read. -/
theorem readNumber?_append {least most : Nat} {ds rest : List Char}
    (digit : ∀ c ∈ ds, isDigit c = true) (least_le : least ≤ ds.length) (le_most : ds.length ≤ most)
    (apart : NoDigitFirst (rest.take (most - ds.length))) :
    readNumber? least most (ds ++ rest) = some (readDigits ds, rest) := by
  have run : ((ds ++ rest).take most).takeWhile isDigit = ds := by
    rw [List.take_append, List.take_of_length_le le_most]
    exact takeWhile_isDigit_append digit apart
  rw [readNumber?, run]
  simp only [if_neg (Nat.not_lt.mpr least_le), List.drop_left]

/-- Digits that are too few are no number. -/
theorem readNumber?_append_of_lt {least most : Nat} {ds rest : List Char}
    (digit : ∀ c ∈ ds, isDigit c = true) (lt : ds.length < least) (le_most : ds.length ≤ most)
    (apart : NoDigitFirst (rest.take (most - ds.length))) :
    readNumber? least most (ds ++ rest) = none := by
  have run : ((ds ++ rest).take most).takeWhile isDigit = ds := by
    rw [List.take_append, List.take_of_length_le le_most]
    exact takeWhile_isDigit_append digit apart
  rw [readNumber?, run]
  simp only [if_pos lt]

theorem noDigitFirst_take {cs : List Char} (h : NoDigitFirst cs) (count : Nat) :
    NoDigitFirst (cs.take count) := by
  cases count with
  | zero => exact noDigitFirst_nil
  | succ count =>
    cases cs with
    | nil => exact noDigitFirst_nil
    | cons c cs => exact noDigitFirst_cons (h c rfl)

variable {n : Nat} (rest : List Char)

/-- Reads a number that is written with as many digits as are read. -/
theorem readNumber?_paddedDigits {least width : Nat} (le : least ≤ width + 1)
    (lt : n < Nat.pow 10 (width + 1)) :
    readNumber? least (width + 1) (paddedDigits (width + 1) n ++ rest) = some (n, rest) := by
  have length := length_paddedDigits_of_lt lt
  rw [readNumber?_append isDigit_of_mem_paddedDigits (by omega) (by omega)
    (by rw [length, Nat.sub_self]; exact noDigitFirst_nil), readDigits_paddedDigits]

theorem isBlank_of_isDigit {c : Char} (digit : isDigit c = true) : isBlank c = false := by
  obtain ⟨ge, le⟩ := toNat_of_isDigit digit
  simp only [isBlank, blankCodes, List.contains_eq_mem, List.mem_cons, List.not_mem_nil, or_false,
    decide_eq_false_iff_not]
  omega

/-- There are no blanks before digits. -/
theorem trimLeft_append {ds : List Char} (digit : ∀ c ∈ ds, isDigit c = true) (ne : ds ≠ []) :
    trimLeft (ds ++ rest) = ds ++ rest := by
  cases ds with
  | nil => exact absurd rfl ne
  | cons c ds =>
    exact trimLeft_cons_of_not_isBlank (isBlank_of_isDigit (digit c List.mem_cons_self))

theorem paddedDigits_ne_nil (width : Nat) : paddedDigits width n ≠ [] :=
  List.append_ne_nil_of_right_ne_nil _ (digits_ne_nil n)

theorem readField?_paddedDigits (lt : n < 100) :
    readField? (paddedDigits 2 n ++ rest) = some (n, rest) := by
  rw [readField?, trimLeft_append rest isDigit_of_mem_paddedDigits (paddedDigits_ne_nil 2)]
  exact readNumber?_paddedDigits rest (by decide) lt

/-! ## Years -/

/-- Without a sign, a year has at most four digits. -/
theorem readYear?_of_digits {ds : List Char} (digit : ∀ c ∈ ds, isDigit c = true) (ne : ds ≠ [])
    (read : readNumber? 1 4 (ds ++ rest) = some (n, rest)) :
    readYear? (ds ++ rest) = some ((n : Int), rest) := by
  unfold readYear?
  rw [trimLeft_append rest digit ne]
  cases ds with
  | nil => exact absurd rfl ne
  | cons c ds =>
    have digit := digit c List.mem_cons_self
    split
    · rename_i eq
      cases (List.cons.inj eq).1
      cases digit
    · rename_i eq
      cases (List.cons.inj eq).1
      cases digit
    · rw [read]
      rfl

/-- Behind a sign, a year has any number of digits. -/
theorem readNumber?_any {width : Nat} {rest : List Char} (apart : NoDigitFirst rest) :
    readNumber? 1 (paddedDigits width n ++ rest).length (paddedDigits width n ++ rest) =
      some (n, rest) := by
  have pos := List.length_pos_iff.mpr (paddedDigits_ne_nil (n := n) width)
  rw [readNumber?_append isDigit_of_mem_paddedDigits pos (by simp) (noDigitFirst_take apart _),
    readDigits_paddedDigits]

theorem readYear?_yearText {rest : List Char} (year : Int) (apart : NoDigitFirst rest) :
    readYear? (yearText year ++ rest) = some (year, rest) := by
  unfold yearText
  by_cases negative : year < 0
  · rw [if_pos negative]
    show (readNumber? 1 (paddedDigits 4 year.natAbs ++ rest).length
      (paddedDigits 4 year.natAbs ++ rest)).map _ = _
    rw [readNumber?_any apart]
    simp only [Option.map_some]
    rw [Int.ofNat_natAbs_of_nonpos (by omega), Int.neg_neg]
  · rw [if_neg negative]
    by_cases long : 9999 < year
    · rw [if_pos long]
      show (readNumber? 1 (paddedDigits 4 year.natAbs ++ rest).length
        (paddedDigits 4 year.natAbs ++ rest)).map _ = _
      rw [readNumber?_any apart]
      simp only [Option.map_some]
      rw [Int.natAbs_of_nonneg (by omega)]
    · rw [if_neg long]
      have lt : year.natAbs < Nat.pow 10 4 := by
        show year.natAbs < 10000
        omega
      rw [readYear?_of_digits rest isDigit_of_mem_paddedDigits (paddedDigits_ne_nil 4)
        (readNumber?_paddedDigits rest (by decide) lt), Int.natAbs_of_nonneg (by omega)]

/-! ## The form that is written -/

/-- A step of a reader that succeeds leads to the next one. -/
theorem bind_of_some {α β : Type} {x : Option α} {f : α → Option β} {a : α} {b : Option β}
    (hx : x = some a) (h : f a = b) : (x >>= f) = b := by
  rw [hx]
  exact h

@[simp] theorem expect?_cons_self (c : Char) (cs : List Char) : expect? c (c :: cs) = some cs :=
  if_pos rfl

/-- A date that there is, in a year that has dates. -/
structure Date.IsInRange (d : Date) : Prop extends d.IsValid where
  year_mem : firstYear ≤ d.year ∧ d.year ≤ lastYear

variable {d : Date} {t : TimeOfDay}

theorem Date.IsValid.month_lt (valid : d.IsValid) : d.month < 100 := by
  have := valid.month_mem
  omega

theorem Date.IsValid.day_lt (valid : d.IsValid) : d.day < 100 := by
  have := valid.day_mem
  have := daysInMonth_le d.year d.month
  omega

theorem Date.IsInRange.ofYmd?_eq (inRange : d.IsInRange) :
    Date.ofYmd? d.year d.month d.day = some d := by
  obtain ⟨⟨month_mem, day_mem⟩, year_mem⟩ := inRange
  exact if_pos ⟨year_mem.1, year_mem.2, month_mem.1, month_mem.2, day_mem.1, day_mem.2⟩

theorem Date.text_append (d : Date) : d.text ++ rest =
    yearText d.year ++ '-' :: (paddedDigits 2 d.month ++ '-' :: (paddedDigits 2 d.day ++ rest)) := by
  simp only [Date.text, List.append_assoc, List.cons_append]

theorem Date.readDatePart?_text (inRange : d.IsInRange) :
    readDatePart? (d.text ++ rest) = some (d, rest) := by
  have year : ∀ cs, readYear? (yearText d.year ++ '-' :: cs) = some (d.year, '-' :: cs) :=
    fun cs => readYear?_yearText d.year (noDigitFirst_cons rfl)
  have month := readField?_paddedDigits ('-' :: (paddedDigits 2 d.day ++ rest)) inRange.month_lt
  have day := readField?_paddedDigits rest inRange.day_lt
  rw [d.text_append, readDatePart?]
  simp only [year, month, day, expect?_cons_self, inRange.ofYmd?_eq, Option.bind_eq_bind,
    Option.bind_some]
  rfl

/-- A time of day that is no leap second. -/
def TimeOfDay.IsPlain (t : TimeOfDay) : Prop := t.seconds < secondsPerDay

theorem TimeOfDay.text_eq (t : TimeOfDay) : t.text = paddedDigits 2 (t.seconds / 3600) ++
    ':' :: (paddedDigits 2 (t.seconds / 60 % 60) ++ ':' :: (paddedDigits 2 (t.seconds % 60) ++ [])) := by
  rw [TimeOfDay.text, List.append_nil]

/-- What is read of a time of day is the time without the fraction of its second. -/
theorem TimeOfDay.IsPlain.readTime?_text (plain : t.IsPlain) :
    readTime? t.text = some ⟨t.seconds, 0⟩ := by
  have plain : t.seconds < 86400 := plain
  have hour : t.seconds / 3600 < 24 := by omega
  have minute : t.seconds / 60 % 60 < 60 := by omega
  have second : t.seconds % 60 < 60 := by omega
  have ofHms : TimeOfDay.ofHms? (t.seconds / 3600) (t.seconds / 60 % 60) (t.seconds % 60) 0 =
      some ⟨t.seconds, 0⟩ := by
    rw [TimeOfDay.ofHms?, if_pos ⟨hour, minute, by omega⟩, if_neg (by omega)]
    congr 2
    omega
  rw [readTime?, t.text_eq, readTimePart?]
  simp only [readField?_paddedDigits _ (show t.seconds / 3600 < 100 by omega),
    readField?_paddedDigits _ (show t.seconds / 60 % 60 < 100 by omega),
    readField?_paddedDigits _ (show t.seconds % 60 < 100 by omega), expect?_cons_self, ofHms,
    Option.bind_eq_bind, Option.bind_some]
  rfl

/-! ## Forms that do not fit -/

/-- The internet form wants two digits in every other field. -/
theorem readNumber?_twoDigits (lt : n < 100) :
    readNumber? 2 2 (paddedDigits 2 n ++ rest) = some (n, rest) :=
  readNumber?_paddedDigits rest (Nat.le_refl 2) lt

/-- The internet form wants a year of four digits, which not every year has. -/
theorem readNumber?_yearText (year : Int) : readNumber? 4 4 (yearText year ++ rest) = none ∨
    ∃ n, readNumber? 4 4 (yearText year ++ rest) = some (n, rest) := by
  have sign : ∀ {c : Char} (cs : List Char), isDigit c = false →
      readNumber? 4 4 ([] ++ c :: cs) = none := fun cs apart =>
    readNumber?_append_of_lt nofun (by decide) (by decide)
      (noDigitFirst_take (noDigitFirst_cons apart) _)
  unfold yearText
  by_cases negative : year < 0
  · rw [if_pos negative]
    exact .inl (sign _ rfl)
  · rw [if_neg negative]
    by_cases long : 9999 < year
    · rw [if_pos long]
      exact .inl (sign _ rfl)
    · rw [if_neg long]
      have lt : year.natAbs < Nat.pow 10 4 := by
        show year.natAbs < 10000
        omega
      exact .inr ⟨_, readNumber?_paddedDigits rest (Nat.le_refl 4) lt⟩

/-- The internet form wants a time behind the date. -/
theorem readInternet?_date (valid : d.IsValid) : readInternet? d.text = none := by
  have text := d.text_append []
  rw [List.append_nil] at text
  rw [text, readInternet?]
  rcases readNumber?_yearText _ d.year with short | ⟨n, read⟩
  · rw [short]
    rfl
  · refine bind_of_some read (bind_of_some (expect?_cons_self ..) ?_)
    refine bind_of_some (readNumber?_twoDigits _ valid.month_lt) ?_
    refine bind_of_some (expect?_cons_self ..) ?_
    exact bind_of_some (readNumber?_twoDigits _ valid.day_lt) rfl

/-- The internet form wants an offset from UTC behind the time. -/
theorem readInternet?_instant (valid : d.IsValid) (plain : t.IsPlain) :
    readInternet? (d.text ++ ' ' :: t.text) = none := by
  have plain : t.seconds < 86400 := plain
  rw [d.text_append, t.text_eq, readInternet?]
  rcases readNumber?_yearText _ d.year with short | ⟨n, read⟩
  · rw [short]
    rfl
  · refine bind_of_some read (bind_of_some (expect?_cons_self ..) ?_)
    refine bind_of_some (readNumber?_twoDigits _ valid.month_lt) ?_
    refine bind_of_some (expect?_cons_self ..) ?_
    refine bind_of_some (readNumber?_twoDigits _ valid.day_lt) ?_
    refine bind_of_some (rfl : _ = some _) ?_
    refine bind_of_some (readNumber?_twoDigits _ (by omega)) ?_
    refine bind_of_some (expect?_cons_self ..) ?_
    refine bind_of_some (readNumber?_twoDigits _ (by omega)) ?_
    refine bind_of_some (expect?_cons_self ..) ?_
    exact bind_of_some (readNumber?_twoDigits _ (by omega)) rfl

/-- The internet form wants a year of four digits, and a time begins with two. -/
theorem readInternet?_time (plain : t.IsPlain) : readInternet? t.text = none := by
  have plain : t.seconds < 86400 := plain
  have length : (paddedDigits 2 (t.seconds / 3600)).length = 2 :=
    length_paddedDigits_of_lt (show t.seconds / 3600 < 100 by omega)
  rw [t.text_eq, readInternet?, readNumber?_append_of_lt isDigit_of_mem_paddedDigits (by omega)
    (by omega) (noDigitFirst_take (noDigitFirst_cons rfl) _)]
  rfl

/-- The hour of a time may be taken for a year, but no month follows. -/
theorem readDatePart?_time (plain : t.IsPlain) : readDatePart? t.text = none := by
  have plain : t.seconds < 86400 := plain
  have length : (paddedDigits 2 (t.seconds / 3600)).length = 2 :=
    length_paddedDigits_of_lt (show t.seconds / 3600 < 100 by omega)
  rw [t.text_eq, readDatePart?]
  refine bind_of_some (readYear?_of_digits _ isDigit_of_mem_paddedDigits (paddedDigits_ne_nil 2)
    (readNumber?_append isDigit_of_mem_paddedDigits (by omega) (by omega)
      (noDigitFirst_take (noDigitFirst_cons rfl) _))) ?_
  rfl

/-! ## Whole texts -/

/-- A text that ends with digits has no blanks there. -/
theorem trim_append {cs ds : List Char} (begins : trimLeft (cs ++ ds) = cs ++ ds)
    (digit : ∀ c ∈ ds, isDigit c = true) (ne : ds ≠ []) : trim (cs ++ ds) = cs ++ ds := by
  rw [trim, begins, List.reverse_append,
    trimLeft_append _ (fun c mem => digit c (List.mem_reverse.mp mem)) (List.reverse_ne_nil_iff.mpr ne),
    List.reverse_append, List.reverse_reverse, List.reverse_reverse]

theorem trimLeft_yearText (year : Int) : trimLeft (yearText year ++ rest) = yearText year ++ rest := by
  unfold yearText
  by_cases negative : year < 0
  · rw [if_pos negative]
    exact trimLeft_cons_of_not_isBlank rfl
  · rw [if_neg negative]
    by_cases long : 9999 < year
    · rw [if_pos long]
      exact trimLeft_cons_of_not_isBlank rfl
    · rw [if_neg long]
      exact trimLeft_append rest isDigit_of_mem_paddedDigits (paddedDigits_ne_nil 4)

theorem Date.trim_text (d : Date) : trim d.text = d.text := by
  have split : d.text = yearText d.year ++ '-' :: (paddedDigits 2 d.month ++ ['-']) ++
      paddedDigits 2 d.day := by
    simp [Date.text]
  have begins := trimLeft_yearText ('-' :: (paddedDigits 2 d.month ++ ['-']) ++ paddedDigits 2 d.day)
    d.year
  rw [← List.append_assoc, ← split] at begins
  rw [split] at begins ⊢
  exact trim_append begins isDigit_of_mem_paddedDigits (paddedDigits_ne_nil 2)

theorem trim_time (cs : List Char) (begins : trimLeft (cs ++ t.text) = cs ++ t.text) :
    trim (cs ++ t.text) = cs ++ t.text := by
  have split : cs ++ t.text = cs ++ (paddedDigits 2 (t.seconds / 3600) ++
      ':' :: (paddedDigits 2 (t.seconds / 60 % 60) ++ [':'])) ++ paddedDigits 2 (t.seconds % 60) := by
    simp [TimeOfDay.text]
  rw [split] at begins ⊢
  exact trim_append begins isDigit_of_mem_paddedDigits (paddedDigits_ne_nil 2)

theorem TimeOfDay.trim_text (t : TimeOfDay) : trim t.text = t.text := by
  refine trim_time [] ?_
  rw [List.nil_append, t.text_eq]
  exact trimLeft_append _ isDigit_of_mem_paddedDigits (paddedDigits_ne_nil 2)

theorem trim_dateAndTime (d : Date) (t : TimeOfDay) :
    trim (d.text ++ ' ' :: t.text) = d.text ++ ' ' :: t.text := by
  have split : d.text ++ ' ' :: t.text = d.text ++ [' '] ++ t.text := by simp
  rw [split]
  refine trim_time _ ?_
  rw [List.append_assoc, d.text_append]
  exact trimLeft_yearText _ d.year

/-- A date alone is read as its midnight. -/
theorem readInstant?_date (inRange : d.IsInRange) :
    readInstant? d.text = some (Instant.ofDateAndTime d TimeOfDay.midnight) := by
  have read := d.readDatePart?_text [] inRange
  rw [List.append_nil] at read
  have noTime : readDateTime? d.text = none := bind_of_some read rfl
  have date : readDate? d.text = some d := by
    rw [readDate?, read]
    rfl
  rw [readInstant?, d.trim_text]
  simp only [readInternet?_date inRange.toIsValid, noTime, date]

/-- A date and a time are read as they are, without the fraction of the second. -/
theorem readInstant?_dateAndTime (inRange : d.IsInRange) (plain : t.IsPlain) :
    readInstant? (d.text ++ ' ' :: t.text) = some (Instant.ofDateAndTime d ⟨t.seconds, 0⟩) := by
  have time : readTime? (' ' :: t.text) = some ⟨t.seconds, 0⟩ := plain.readTime?_text
  have read : readDateTime? (d.text ++ ' ' :: t.text) =
      some (Instant.ofDateAndTime d ⟨t.seconds, 0⟩) :=
    bind_of_some (d.readDatePart?_text _ inRange) (bind_of_some time rfl)
  rw [readInstant?, trim_dateAndTime]
  simp only [readInternet?_instant inRange.toIsValid plain, read]

/-- A time alone is read as one of the first day of 1970, without the fraction of the second. -/
theorem readInstant?_time (plain : t.IsPlain) :
    readInstant? t.text = Instant.ofMillis? (TimeOfDay.millis ⟨t.seconds, 0⟩) := by
  have noDate := readDatePart?_time plain
  have noDateTime : readDateTime? t.text = none := by
    rw [readDateTime?, noDate]
    rfl
  have noDate : readDate? t.text = none := by
    rw [readDate?, noDate]
    rfl
  rw [readInstant?, t.trim_text]
  simp only [readInternet?_time plain, noDateTime, noDate]
  rw [plain.readTime?_text, Option.bind_some]

end BatchSync.Calendar
