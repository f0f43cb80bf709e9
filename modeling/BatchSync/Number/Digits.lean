/-!
# Decimal digits of natural numbers

Writing a natural number with decimal digits, and reading a run of digits. Main statement:
`readDigits_digits`, a number is read back from its digits.
-/

namespace BatchSync

/-- The character of a digit below ten. -/
def digitChar (d : Nat) : Char := Char.ofNat (48 + d)

/-- The decimal digits of a number, the most significant one first. -/
def digits (n : Nat) : List Char :=
  if n < 10 then [digitChar n] else digits (n / 10) ++ [digitChar (n % 10)]
termination_by n
decreasing_by omega

/-- The number that a run of digits denotes. -/
def readDigits (cs : List Char) : Nat := cs.foldl (fun n c => 10 * n + (c.toNat - 48)) 0

theorem digitChar_toNat {d : Nat} (h : d < 10) : (digitChar d).toNat = 48 + d := by
  have : ∀ d : Fin 10, (digitChar d).toNat = 48 + d := by decide
  exact this ⟨d, h⟩

/-- Reading the digits of a number gives the number. -/
theorem readDigits_digits (n : Nat) : readDigits (digits n) = n := by
  fun_induction digits n with
  | case1 n h => simp [readDigits, digitChar_toNat h]
  | case2 n h ih =>
    have hd : n % 10 < 10 := Nat.mod_lt _ (by decide)
    simp only [readDigits, List.foldl_append, List.foldl_cons, List.foldl_nil] at ih ⊢
    rw [ih, digitChar_toNat hd]
    omega

/-- The decimal text of an integer. -/
def integerText (n : Int) : List Char :=
  if n < 0 then '-' :: digits n.natAbs else digits n.natAbs

/-- The decimal digits of a number, filled up with leading zeros to at least the given length. -/
def paddedDigits (width n : Nat) : List Char :=
  let ds := digits n
  List.replicate (width - ds.length) '0' ++ ds

end BatchSync
