import BatchSync.Number.Digits
import BatchSync.Text.Blank

/-!
# Runs of digits

What is read of a text that begins with a written number: its digits, as far as the text behind them
does not begin with one (`NoDigitFirst`). So a number and what follows it are determined by the text of
both (`digits_append_inj`, `integerText_append_inj`).
-/

namespace BatchSync

open BatchSync.Text

/-! ## Digits -/

/-- A test that only one of two characters passes tells them apart. -/
theorem ne_of_test {p : Char → Bool} {c m : Char} (passes : p c = true) (other : p m = false) :
    c ≠ m :=
  ne_of_apply_ne p (by rw [passes, other]; exact nofun)

theorem isDigit_digitChar {d : Nat} (lt : d < 10) : isDigit (digitChar d) = true := by
  have all : ∀ d : Fin 10, isDigit (digitChar d) = true := by decide
  exact all ⟨d, lt⟩

/-- The codes of the digits. -/
theorem toNat_of_isDigit {c : Char} (digit : isDigit c = true) : 48 ≤ c.toNat ∧ c.toNat ≤ 57 := by
  unfold isDigit digitValue? at digit
  split at digit
  · rename_i mem
    exact ⟨Char.le_def.mp mem.1, Char.le_def.mp mem.2⟩
  · cases digit

theorem isDigit_of_mem_digits {n : Nat} : ∀ c ∈ digits n, isDigit c = true := by
  fun_induction digits n with
  | case1 n lt =>
    intro c mem
    rw [List.mem_singleton.mp mem]
    exact isDigit_digitChar lt
  | case2 n ge ih =>
    intro c mem
    rcases List.mem_append.mp mem with mem | mem
    · exact ih c mem
    · rw [List.mem_singleton.mp mem]
      exact isDigit_digitChar (Nat.mod_lt _ (by decide))

theorem digits_ne_nil (n : Nat) : digits n ≠ [] := by
  rw [digits]
  split
  · exact List.cons_ne_nil _ _
  · exact List.append_ne_nil_of_right_ne_nil _ (List.cons_ne_nil _ _)

/-- A number below a power of ten has no more digits than that. -/
theorem length_digits_le {k n : Nat} (lt : n < Nat.pow 10 (k + 1)) : (digits n).length ≤ k + 1 := by
  induction k generalizing n with
  | zero =>
    have lt : n < 10 := lt
    rw [digits, if_pos lt]
    exact Nat.le_refl _
  | succ k ih =>
    rw [digits]
    split
    · exact Nat.le_add_left _ _
    · have lt : n < Nat.pow 10 (k + 1) * 10 := lt
      have rest := ih (n := n / 10) (Nat.div_lt_of_lt_mul (by omega))
      rw [List.length_append, List.length_singleton]
      omega

/-! ## Leading zeros -/

theorem isDigit_of_mem_paddedDigits {width n : Nat} : ∀ c ∈ paddedDigits width n, isDigit c = true := by
  intro c mem
  rcases List.mem_append.mp mem with mem | mem
  · rw [List.eq_of_mem_replicate mem]
    rfl
  · exact isDigit_of_mem_digits c mem

theorem readDigits_zeros_append (count : Nat) (cs : List Char) :
    readDigits (List.replicate count '0' ++ cs) = readDigits cs := by
  induction count with
  | zero => rfl
  | succ count ih => exact ih

/-- A number is read back from its digits, whatever zeros stand before them. -/
theorem readDigits_paddedDigits (width n : Nat) : readDigits (paddedDigits width n) = n :=
  (readDigits_zeros_append ..).trans (readDigits_digits n)

theorem length_paddedDigits (width n : Nat) :
    (paddedDigits width n).length = max width (digits n).length := by
  unfold paddedDigits
  rw [List.length_append, List.length_replicate]
  omega

theorem length_paddedDigits_of_lt {k n : Nat} (lt : n < Nat.pow 10 (k + 1)) :
    (paddedDigits (k + 1) n).length = k + 1 := by
  have := length_digits_le lt
  rw [length_paddedDigits]
  omega

/-! ## What follows a number -/

/-- Whether a text does not begin with a digit. -/
def NoDigitFirst (cs : List Char) : Prop := ∀ c ∈ cs.head?, isDigit c = false

theorem noDigitFirst_nil : NoDigitFirst [] := nofun

theorem noDigitFirst_cons {c : Char} {cs : List Char} (h : isDigit c = false) :
    NoDigitFirst (c :: cs) := by
  rintro d ⟨⟩
  exact h

/-- The digits at the start of a text end where others do not go on. -/
theorem takeWhile_isDigit_append {ds rest : List Char} (digit : ∀ c ∈ ds, isDigit c = true)
    (apart : NoDigitFirst rest) : (ds ++ rest).takeWhile isDigit = ds := by
  rw [List.takeWhile_append_of_pos digit]
  cases rest with
  | nil => exact List.append_nil ds
  | cons c rest =>
    rw [List.takeWhile_cons_of_neg (by rw [apart c rfl]; exact Bool.false_ne_true), List.append_nil]

/-- A number and what follows it are determined by the text of both. -/
theorem digits_append_inj {m n : Nat} {r s : List Char} (hr : NoDigitFirst r) (hs : NoDigitFirst s)
    (h : digits m ++ r = digits n ++ s) : m = n ∧ r = s := by
  have same : digits m = digits n := by
    rw [← takeWhile_isDigit_append isDigit_of_mem_digits hr, h,
      takeWhile_isDigit_append isDigit_of_mem_digits hs]
  refine ⟨?_, ?_⟩
  · rw [← readDigits_digits m, same, readDigits_digits]
  · rw [same] at h
    exact List.append_cancel_left h

/-- A number does not begin with a sign. -/
theorem digits_append_ne_minus (n : Nat) (cs rest : List Char) : digits n ++ rest ≠ '-' :: cs := by
  intro h
  cases hd : digits n with
  | nil => exact digits_ne_nil n hd
  | cons c ds =>
    rw [hd] at h
    have digit := isDigit_of_mem_digits c (hd ▸ List.mem_cons_self : c ∈ digits n)
    rw [(List.cons.inj h).1] at digit
    cases digit

/-- An integer and what follows it are determined by the text of both. -/
theorem integerText_append_inj {m n : Int} {r s : List Char} (hr : NoDigitFirst r)
    (hs : NoDigitFirst s) (h : integerText m ++ r = integerText n ++ s) : m = n ∧ r = s := by
  unfold integerText at h
  split at h <;> split at h
  · obtain ⟨abs, rest⟩ := digits_append_inj hr hs (List.cons.inj h).2
    exact ⟨by omega, rest⟩
  · exact (digits_append_ne_minus _ _ _ h.symm).elim
  · exact (digits_append_ne_minus _ _ _ h).elim
  · obtain ⟨abs, rest⟩ := digits_append_inj hr hs h
    exact ⟨by omega, rest⟩

end BatchSync
