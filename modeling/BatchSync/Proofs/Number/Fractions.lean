import BatchSync.Proofs.Number.Decimals
import Mathlib.Data.List.Basic
import Mathlib.Data.Nat.Find
import Mathlib.Tactic.Ring

/-!
# Fractions that are dropped

A decimal keeps as many digits behind the point as there are places and as its mantissa takes
(`keptPlaces`). The first digit that it does not keep rounds the others, and if all of these are nines the
rounding carries into the whole number (`carry`). So of digits, a point and digits the whole number is
read and the carry is added to it, unless the sum is no mantissa (`Progress.read?_fraction`).
-/

namespace BatchSync

open BatchSync.Text BatchSync.Calendar

/-! ## Digits behind a number -/

theorem readDigitsFrom_append (n : Nat) (cs ds : List Char) :
    readDigitsFrom n (cs ++ ds) = readDigitsFrom (readDigitsFrom n cs) ds := List.foldl_append

theorem readDigitsFrom_cons (n : Nat) (c : Char) (ds : List Char) :
    readDigitsFrom n (c :: ds) = readDigitsFrom (10 * n + (c.toNat - 48)) ds := by
  unfold readDigitsFrom
  rw [List.foldl_cons]

theorem readDigitsFrom_concat (n : Nat) (ds : List Char) (c : Char) :
    readDigitsFrom n (ds ++ [c]) = 10 * readDigitsFrom n ds + (c.toNat - 48) :=
  readDigitsFrom_append n ds [c]

/-- Digits behind a number shift it by their count. -/
theorem readDigitsFrom_eq (n : Nat) (ds : List Char) :
    readDigitsFrom n ds = n * Nat.pow 10 ds.length + readDigits ds := by
  induction ds generalizing n with
  | nil => exact (Nat.mul_one n).symm
  | cons c ds ih =>
    have power : Nat.pow 10 (ds.length + 1) = Nat.pow 10 ds.length * 10 := rfl
    rw [readDigits_eq_from, readDigitsFrom_cons, readDigitsFrom_cons, ih, ih, List.length_cons, power]
    ring

theorem readDigits_lt {ds : List Char} (digit : ∀ c ∈ ds, isDigit c = true) :
    readDigits ds < Nat.pow 10 ds.length := by
  induction ds with
  | nil => exact Nat.one_pos
  | cons c ds ih =>
    have rest := ih fun c mem => digit c (List.mem_cons_of_mem _ mem)
    have first := toNat_of_isDigit (digit c List.mem_cons_self)
    have power : Nat.pow 10 (ds.length + 1) = Nat.pow 10 ds.length * 10 := rfl
    rw [readDigits_eq_from, readDigitsFrom_cons, readDigitsFrom_eq, List.length_cons, power]
    have most : c.toNat - 48 ≤ 9 := by omega
    have shifted := Nat.mul_le_mul_right (Nat.pow 10 ds.length) most
    rw [Nat.mul_zero, Nat.zero_add]
    omega

/-- Whether all of the digits are nines. -/
def allNines (ds : List Char) : Bool := ds.all (· == '9')

theorem allNines_iff {ds : List Char} : allNines ds = true ↔ ∀ c ∈ ds, c = '9' := by
  unfold allNines
  simp only [List.all_eq_true, beq_iff_eq]

/-- A number that is followed by a power of ten has nines for its digits. -/
theorem readDigits_succ_eq_iff {ds : List Char} (digit : ∀ c ∈ ds, isDigit c = true) :
    readDigits ds + 1 = Nat.pow 10 ds.length ↔ allNines ds = true := by
  rw [allNines_iff]
  induction ds with
  | nil => exact iff_of_true rfl (List.forall_mem_nil _)
  | cons c ds ih =>
    have rest := ih fun c mem => digit c (List.mem_cons_of_mem _ mem)
    have lt := readDigits_lt fun c mem => digit c (List.mem_cons_of_mem _ mem)
    have first := toNat_of_isDigit (digit c List.mem_cons_self)
    have power : Nat.pow 10 (ds.length + 1) = Nat.pow 10 ds.length * 10 := rfl
    have nine : c = '9' ↔ c.toNat = 57 := Char.toNat_inj.symm
    rw [List.forall_mem_cons, ← rest, nine, readDigits_eq_from, readDigitsFrom_cons, readDigitsFrom_eq,
      List.length_cons, power, Nat.mul_zero, Nat.zero_add]
    generalize Nat.pow 10 ds.length = p at lt ⊢
    generalize readDigits ds = r at lt ⊢
    obtain ⟨v, value⟩ : ∃ v, c.toNat = 48 + v := ⟨c.toNat - 48, by omega⟩
    rw [value, Nat.add_sub_cancel_left]
    constructor
    · intro full
      have notSmall : ¬v ≤ 8 := fun small => by
        have := Nat.mul_le_mul_right p small
        omega
      obtain rfl : v = 9 := by omega
      omega
    · rintro ⟨code, full⟩
      obtain rfl : v = 9 := by omega
      omega

/-- One more in the last place is one more in front of the digits if these are all nines, and otherwise
does not go so far. -/
theorem succ_div_pow {w : Nat} {ds : List Char} (digit : ∀ c ∈ ds, isDigit c = true) :
    (readDigitsFrom w ds + 1) / Nat.pow 10 ds.length = if allNines ds then w + 1 else w := by
  have lt := readDigits_lt digit
  have nines := readDigits_succ_eq_iff digit
  have pos : 0 < Nat.pow 10 ds.length := Nat.pow_pos (by decide)
  rw [readDigitsFrom_eq, Nat.add_assoc]
  split
  · rename_i all
    rw [nines.mpr all, ← Nat.succ_mul, Nat.mul_div_cancel _ pos]
  · rename_i other
    have lt : readDigits ds + 1 < Nat.pow 10 ds.length :=
      Nat.lt_of_le_of_ne lt fun full => other (nines.mp full)
    rw [Nat.mul_comm, Nat.mul_add_div pos, Nat.div_eq_of_lt lt, Nat.add_zero]

theorem div_pow {w : Nat} {ds : List Char} (digit : ∀ c ∈ ds, isDigit c = true) :
    readDigitsFrom w ds / Nat.pow 10 ds.length = w := by
  have pos : 0 < Nat.pow 10 ds.length := Nat.pow_pos (by decide)
  rw [readDigitsFrom_eq, Nat.mul_comm, Nat.mul_add_div pos, Nat.div_eq_of_lt (readDigits_lt digit),
    Nat.add_zero]

namespace ScaledDecimal

/-! ## What is kept of a fraction -/

/-- Whether the first digits of a fraction and the whole number are a mantissa. -/
def Takes (whole : Nat) (fraction : List Char) (count : Nat) : Prop :=
  readDigitsFrom whole (fraction.take count) < mantissaLimit

instance (whole : Nat) (fraction : List Char) : DecidablePred (Takes whole fraction) := fun count =>
  inferInstanceAs (Decidable (readDigitsFrom whole (fraction.take count) < mantissaLimit))

/-- How many digits behind the point a decimal keeps: as many as there are places and as leave a
mantissa. -/
def keptPlaces (whole : Nat) (fraction : List Char) : Nat :=
  Nat.findGreatest (Takes whole fraction) (min maxScale fraction.length)

/-- Whether rounding by the first digit that is not kept carries into the whole number: it rounds up from
five on, and this carries through nines. A mantissa that is one too large then gives up its last place and
is rounded there, too. -/
def Carries (whole : Nat) (kept : List Char) (c : Char) : Prop :=
  5 ≤ c.toNat - 48 ∧
    (allNines kept = true ∨ kept.length = 1 ∧ readDigitsFrom whole kept + 1 = mantissaLimit)

instance (whole : Nat) (kept : List Char) (c : Char) : Decidable (Carries whole kept c) := by
  unfold Carries
  infer_instance

/-- What rounding adds to the whole number. -/
def carry (whole : Nat) (fraction : List Char) : Nat :=
  match fraction.drop (keptPlaces whole fraction) with
  | [] => 0
  | c :: _ => if Carries whole (fraction.take (keptPlaces whole fraction)) c then 1 else 0

theorem carry_le_one (whole : Nat) (fraction : List Char) : carry whole fraction ≤ 1 := by
  unfold carry
  split
  · exact Nat.zero_le 1
  · split <;> decide

/-- Nothing is carried if all digits are kept. -/
theorem carry_of_fits {whole : Nat} {fraction : List Char} (places : fraction.length ≤ maxScale)
    (fits : readDigitsFrom whole fraction < mantissaLimit) : carry whole fraction = 0 := by
  have all : Takes whole fraction fraction.length := by
    unfold Takes
    rwa [List.take_length]
  have kept : keptPlaces whole fraction = fraction.length := by
    unfold keptPlaces
    rw [Nat.min_eq_right places]
    exact Nat.findGreatest_eq all
  unfold carry
  rw [kept, List.drop_length]

/-- The digits of a fraction that are kept, and those that are not. -/
structure Keeps (whole : Nat) (kept dropped : List Char) : Prop where
  places : kept.length ≤ maxScale
  fits : readDigitsFrom whole kept < mantissaLimit
  most : ∀ c ∈ dropped.head?,
    kept.length = maxScale ∨ mantissaLimit ≤ readDigitsFrom whole (kept ++ [c])

theorem keeps_keptPlaces {whole : Nat} (fits : whole < mantissaLimit) (fraction : List Char) :
    Keeps whole (fraction.take (keptPlaces whole fraction))
      (fraction.drop (keptPlaces whole fraction)) := by
  have le : keptPlaces whole fraction ≤ min maxScale fraction.length := Nat.findGreatest_le _
  have length : (fraction.take (keptPlaces whole fraction)).length = keptPlaces whole fraction :=
    List.length_take_of_le (by omega)
  refine ⟨by omega, ?_, ?_⟩
  · exact Nat.findGreatest_spec (P := Takes whole fraction) (Nat.zero_le _) fits
  · intro c first
    rw [List.head?_drop, Option.mem_def] at first
    have lt := (List.getElem?_eq_some_iff.mp first).1
    rw [length, or_iff_not_imp_left]
    intro places
    have more : fraction.take (keptPlaces whole fraction + 1) =
        fraction.take (keptPlaces whole fraction) ++ [c] := by
      rw [List.take_add_one, first]
      rfl
    have next_le : keptPlaces whole fraction + 1 ≤ min maxScale fraction.length := by omega
    have beyond : ¬Takes whole fraction (keptPlaces whole fraction + 1) :=
      Nat.findGreatest_is_greatest (Nat.lt_succ_self _) next_le
    rw [← more]
    exact Nat.not_lt.mp beyond

/-! ## Reading a fraction -/

/-- Digits that are kept behind the point are read one by one. -/
theorem Progress.read?_kept {kept : List Char} (digit : ∀ c ∈ kept, isDigit c = true)
    (dropped : List Char) {m places : Nat} (room : places + kept.length ≤ maxScale)
    (fits : readDigitsFrom m kept < mantissaLimit) :
    Progress.read? ⟨m, places, true, true⟩ (kept ++ dropped) =
      Progress.read? ⟨readDigitsFrom m kept, places + kept.length, true, true⟩ dropped := by
  induction kept generalizing m places with
  | nil => rfl
  | cons c kept ih =>
    have value := digitValue?_of_isDigit (digit c List.mem_cons_self)
    have next : m * 10 + (c.toNat - 48) = 10 * m + (c.toNat - 48) := by omega
    rw [readDigitsFrom_cons] at fits ⊢
    rw [List.length_cons] at room ⊢
    have goesOn : 10 * m + (c.toNat - 48) < mantissaLimit :=
      Nat.lt_of_le_of_lt (le_readDigitsFrom _ kept) fits
    rw [List.cons_append, Progress.read?, value]
    dsimp only
    rw [if_neg (by omega), next, if_pos goesOn, if_pos rfl,
      ih (fun c mem => digit c (List.mem_cons_of_mem _ mem)) (by omega) fits,
      Nat.add_right_comm, Nat.add_assoc]

/-- The first digit that is not kept rounds off, and what follows it is not read. -/
theorem Progress.read?_dropped {c : Char} (digit : isDigit c = true) (rest : List Char)
    {m places : Nat}
    (full : places = maxScale ∨ mantissaLimit ≤ 10 * m + (c.toNat - 48)) :
    Progress.read? ⟨m, places, true, true⟩ (c :: rest) =
      Progress.roundOff? ⟨m, places, true, true⟩ c := by
  have value := digitValue?_of_isDigit digit
  have next : m * 10 + (c.toNat - 48) = 10 * m + (c.toNat - 48) := by omega
  rw [Progress.read?]
  dsimp only
  by_cases places_eq : places = maxScale
  · rw [if_pos ⟨rfl, Nat.le_of_eq places_eq.symm⟩]
  · have large := full.resolve_left places_eq
    split
    · rfl
    · rw [value]
      dsimp only
      rw [next, if_neg (Nat.not_lt.mpr large), if_pos rfl]

/-- Rounding off by a digit. -/
theorem Progress.roundOff?_of_isDigit {c : Char} (digit : isDigit c = true) (m places : Nat) :
    Progress.roundOff? ⟨m, places, true, true⟩ c =
      if c.toNat - 48 < 5 then some (m, places)
      else if m + 1 < mantissaLimit then some (m + 1, places)
      else if places = 0 then none
      else some ((m + 5) / 10, places - 1) := by
  unfold Progress.roundOff?
  rw [digitValue?_of_isDigit digit]
  rfl

/-! ## The whole number that is read -/

theorem mantissaLimit_eq : mantissaLimit = 79228162514264337593543950336 := rfl

/-- Digits that are all nines end with one. -/
theorem not_allNines {w : Nat} {ds : List Char} (ne : ds ≠ [])
    (last : (readDigitsFrom w ds + 1) % 10 ≠ 0) : ¬allNines ds = true := by
  rw [allNines_iff]
  obtain ⟨ds, d, rfl⟩ := (List.eq_nil_or_concat' ds).resolve_left ne
  intro nines
  have nine : '9'.toNat - 48 = 9 := rfl
  rw [readDigitsFrom_concat, nines d (List.mem_append_right _ List.mem_cons_self)] at last
  omega

/-- A mantissa that rounding makes one too large gives up its last place. The digit before that is no
nine, so that this carries only if there is none. -/
theorem overflow_div {w : Nat} {kept : List Char} (digit : ∀ c ∈ kept, isDigit c = true)
    (ne : kept ≠ []) (full : readDigitsFrom w kept + 1 = mantissaLimit) :
    (readDigitsFrom w kept + 5) / 10 / Nat.pow 10 (kept.length - 1) =
      if kept.length = 1 then w + 1 else w := by
  obtain ⟨init, d, rfl⟩ := (List.eq_nil_or_concat' kept).resolve_left ne
  have code := toNat_of_isDigit (digit d (List.mem_append_right _ List.mem_cons_self))
  rw [readDigitsFrom_concat, mantissaLimit_eq] at full
  have shorter : (10 * readDigitsFrom w init + (d.toNat - 48) + 5) / 10 =
      readDigitsFrom w init + 1 := by omega
  rw [readDigitsFrom_concat, shorter, List.length_append, List.length_singleton, Nat.add_sub_cancel,
    succ_div_pow fun c mem => digit c (List.mem_append_left _ mem)]
  cases init with
  | nil => exact (if_pos rfl).trans (if_pos rfl).symm
  | cons c init =>
    have other := not_allNines (w := w) (List.cons_ne_nil c init) (by omega)
    rw [if_neg other, if_neg (by rw [List.length_cons]; omega)]

section Rounding

variable {w : Nat} {kept : List Char} (digit : ∀ c ∈ kept, isDigit c = true)

/-- The whole number of a mantissa and its places. -/
def wholeOf (read : Nat × Nat) : Nat := read.1 / Nat.pow 10 read.2

include digit in
/-- Rounding off that carries makes the whole number one more, if there is room for it. -/
theorem map_roundOff?_of_carries {c : Char} (isDigit : isDigit c = true)
    (fits : readDigitsFrom w kept < mantissaLimit) (carries : Carries w kept c) :
    (Progress.roundOff? ⟨readDigitsFrom w kept, kept.length, true, true⟩ c).map wholeOf =
      if w + 1 < mantissaLimit then some (w + 1) else none := by
  obtain ⟨up, carries⟩ := carries
  rw [Progress.roundOff?_of_isDigit isDigit, if_neg (by omega)]
  by_cases room : readDigitsFrom w kept + 1 < mantissaLimit
  · have nines := carries.resolve_right fun last => Nat.ne_of_lt room last.2
    have whole := succ_div_pow (w := w) digit
    rw [if_pos nines] at whole
    have le : w + 1 ≤ readDigitsFrom w kept + 1 := whole ▸ Nat.div_le_self _ _
    rw [if_pos room, Option.map_some, wholeOf, whole, if_pos (Nat.lt_of_le_of_lt le room)]
  · have full : readDigitsFrom w kept + 1 = mantissaLimit := by omega
    rw [if_neg room]
    by_cases none_kept : kept = []
    · subst none_kept
      have beyond : ¬w + 1 < mantissaLimit := room
      rw [if_neg beyond]
      rfl
    · have other : ¬allNines kept = true := not_allNines none_kept (by rw [full]; decide)
      have one := (carries.resolve_left other).1
      have whole := overflow_div digit none_kept full
      rw [if_pos one] at whole
      have le : w + 1 ≤ (readDigitsFrom w kept + 5) / 10 := whole ▸ Nat.div_le_self _ _
      rw [mantissaLimit_eq] at full
      have lt : w + 1 < mantissaLimit := by
        rw [mantissaLimit_eq]
        omega
      rw [if_neg (by omega), Option.map_some, wholeOf, whole, if_pos lt]

include digit in
/-- Rounding off that does not carry leaves the whole number. -/
theorem map_roundOff?_of_not_carries {c : Char} (isDigit : isDigit c = true)
    (fits : readDigitsFrom w kept < mantissaLimit) (stays : ¬Carries w kept c) :
    (Progress.roundOff? ⟨readDigitsFrom w kept, kept.length, true, true⟩ c).map wholeOf = some w := by
  rw [Progress.roundOff?_of_isDigit isDigit]
  by_cases down : c.toNat - 48 < 5
  · rw [if_pos down, Option.map_some, wholeOf, div_pow digit]
  obtain ⟨other, notOne⟩ := not_or.mp fun carries => stays ⟨Nat.not_lt.mp down, carries⟩
  rw [if_neg down]
  by_cases room : readDigitsFrom w kept + 1 < mantissaLimit
  · rw [if_pos room, Option.map_some, wholeOf, succ_div_pow digit, if_neg other]
  · have full : readDigitsFrom w kept + 1 = mantissaLimit := by omega
    have some_kept : kept ≠ [] := by
      rintro rfl
      exact other rfl
    have length := List.length_pos_iff.mpr some_kept
    rw [if_neg room, if_neg (by omega), Option.map_some, wholeOf, overflow_div digit some_kept full,
      if_neg fun one => notOne ⟨one, full⟩]

end Rounding

/-- Of a fraction behind the point, the whole number is read and the carry is added to it. -/
theorem Progress.read?_fraction {whole : Nat} (fits : whole < mantissaLimit) {fraction : List Char}
    (digit : ∀ c ∈ fraction, isDigit c = true) :
    (Progress.read? ⟨whole, 0, true, true⟩ fraction).map wholeOf =
      if whole + carry whole fraction < mantissaLimit then some (whole + carry whole fraction)
      else none := by
  have keeps := keeps_keptPlaces fits fraction
  unfold carry
  generalize keptPlaces whole fraction = places at keeps ⊢
  obtain ⟨places_le, takes, most⟩ := keeps
  have kept : ∀ c ∈ fraction.take places, isDigit c = true :=
    fun c mem => digit c (List.mem_of_mem_take mem)
  have room : 0 + (fraction.take places).length ≤ maxScale := by omega
  have read := Progress.read?_kept kept (fraction.drop places) room takes
  rw [List.take_append_drop, Nat.zero_add] at read
  rw [read]
  cases dropped : fraction.drop places with
  | nil =>
    rw [Progress.read?, if_pos rfl, Option.map_some, wholeOf, div_pow kept]
    exact (if_pos fits).symm
  | cons c rest =>
    have isDigit : isDigit c = true :=
      digit c (List.mem_of_mem_drop (dropped ▸ List.mem_cons_self : c ∈ fraction.drop places))
    have full := most c (by rw [dropped]; rfl)
    rw [readDigitsFrom_concat] at full
    rw [Progress.read?_dropped isDigit rest full]
    dsimp only
    by_cases carries : Carries whole (fraction.take places) c
    · simp only [map_roundOff?_of_carries kept isDigit takes carries, if_pos carries]
    · simp only [map_roundOff?_of_not_carries kept isDigit takes carries, if_neg carries]
      exact (if_pos fits).symm

end ScaledDecimal

end BatchSync
