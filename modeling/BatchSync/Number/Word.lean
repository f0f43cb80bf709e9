/-!
# Bounds of words

Where whole numbers of a fixed number of bits end.
-/

namespace BatchSync

/-- The bound of words of 32 bits. -/
def halfWordLimit : Nat := 4294967296

/-- The bound of signed words of 64 bits, and what their least value is below zero. -/
def signedWordLimit : Nat := 9223372036854775808

/-- The bound of words of 64 bits. -/
def wordLimit : Nat := 18446744073709551616

theorem toNat_lt_wordLimit (w : UInt64) : w.toNat < wordLimit := w.toNat_lt

/-- A number too large for a word wraps. -/
theorem toNat_ofNat_eq_mod (n : Nat) : (UInt64.ofNat n).toNat = n % wordLimit := by
  simp [wordLimit]

/-- A sum too large for a word wraps. -/
theorem toNat_add_eq_mod (v w : UInt64) : (v + w).toNat = (v.toNat + w.toNat) % wordLimit := by
  simp [wordLimit, UInt64.toNat_add]

end BatchSync
