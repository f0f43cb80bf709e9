/-!
# Faults in UTF-8

The first place where a byte sequence stops being UTF-8. A fault names the index up to which the
bytes are valid and the length of the wrong part, which ends before the first byte that cannot
continue the sequence begun; a sequence cut off by the end of the input is incomplete.
-/

namespace BatchSync.Text

/-- The first fault of a byte sequence that is not UTF-8. -/
structure Utf8Fault where
  /-- Number of bytes before the fault. -/
  validUpTo : Nat
  /-- Length of the wrong part, or none if the input ends inside a sequence. -/
  wrongLength : Option Nat
  deriving DecidableEq

/-- The wording of a fault. -/
def Utf8Fault.message (f : Utf8Fault) : String :=
  match f.wrongLength with
  | some n => s!"invalid utf-8 sequence of {n} bytes from index {f.validUpTo}"
  | none => s!"incomplete utf-8 byte sequence from index {f.validUpTo}"

namespace Utf8

/-- What may follow a leading byte: the bounds of the second byte, and how many bytes follow in all. -/
structure Lead where
  low : UInt8
  high : UInt8
  following : Nat

/-- The sequences that a byte can begin. ASCII begins a sequence of one byte; the second byte of a
longer one excludes overlong forms, surrogates and code points past the last. -/
def lead? (b : UInt8) : Option Lead :=
  if b < 0x80 then some ⟨0, 0, 0⟩
  else if 0xC2 ≤ b ∧ b ≤ 0xDF then some ⟨0x80, 0xBF, 1⟩
  else if b = 0xE0 then some ⟨0xA0, 0xBF, 2⟩
  else if b = 0xED then some ⟨0x80, 0x9F, 2⟩
  else if 0xE1 ≤ b ∧ b ≤ 0xEF then some ⟨0x80, 0xBF, 2⟩
  else if b = 0xF0 then some ⟨0x90, 0xBF, 3⟩
  else if 0xF1 ≤ b ∧ b ≤ 0xF3 then some ⟨0x80, 0xBF, 3⟩
  else if b = 0xF4 then some ⟨0x80, 0x8F, 3⟩
  else none

/-- Checks the bytes after a leading byte: the first of them lies in the given bounds, all others
are plain continuation bytes. Answers the wrong length, counted from the leading byte, or the rest. -/
def checkFollowing : UInt8 → UInt8 → Nat → Nat → List UInt8 → Except (Option Nat) (List UInt8)
  | _, _, 0, _, rest => .ok rest
  | _, _, _ + 1, _, [] => .error none
  | low, high, n + 1, seen, b :: rest =>
    if low ≤ b ∧ b ≤ high then checkFollowing 0x80 0xBF n (seen + 1) rest else .error (some seen)

/-- The bytes that are left after a checked sequence are no more than there were. -/
theorem checkFollowing_length_le {low high : UInt8} {n seen : Nat} {bytes rest : List UInt8}
    (h : checkFollowing low high n seen bytes = .ok rest) : rest.length ≤ bytes.length := by
  fun_induction checkFollowing low high n seen bytes with
  | case1 => simp_all
  | case2 => simp at h
  | case3 _ _ _ _ _ _ _ ih => exact Nat.le_succ_of_le (ih h)
  | case4 => simp at h

/-- The first fault of bytes of which the given number has been accepted before. -/
def faultFrom (index : Nat) (bytes : List UInt8) : Option Utf8Fault :=
  match bytes with
  | [] => none
  | b :: following =>
    match lead? b with
    | none => some ⟨index, some 1⟩
    | some l =>
      match h : checkFollowing l.low l.high l.following 1 following with
      | .error wrong => some ⟨index, wrong⟩
      | .ok rest => faultFrom (index + 1 + l.following) rest
termination_by bytes.length
decreasing_by exact Nat.lt_succ_of_le (checkFollowing_length_le h)

end Utf8

/-- The first fault of a byte sequence, or none if it is UTF-8. -/
def utf8Fault? (bytes : ByteArray) : Option Utf8Fault := Utf8.faultFrom 0 bytes.data.toList

/-- Reads bytes as UTF-8. -/
def decodeUtf8 (bytes : ByteArray) : Except Utf8Fault String :=
  match utf8Fault? bytes with
  | some fault => .error fault
  | none =>
    match String.fromUTF8? bytes with
    | some s => .ok s
    | none => .error ⟨0, none⟩

end BatchSync.Text
