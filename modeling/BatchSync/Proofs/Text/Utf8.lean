import BatchSync.Text.Utf8

/-!
# Sequences of UTF-8

The bytes of one character are a sequence of one to four bytes (`IsSequence`): overlong forms,
surrogates and code points past the last are excluded by the bounds of the second byte. These are the
bytes that encode a character (`isSequence_utf8EncodeChar`, `IsSequence.exists_char`), and the check for
faults goes over exactly one of them at a time (`IsSequence.checked`, `exists_isSequence`). So bytes have
no fault just if they are the encoding of a text (`utf8Fault?_eq_none_iff`), and then they are decoded to
it (`decodeUtf8_eq_ok_iff`).
-/

namespace BatchSync.Text

namespace Utf8

/-- A byte that continues a sequence. -/
def IsContinuation (b : UInt8) : Prop := 0x80 ≤ b.toNat ∧ b.toNat ≤ 0xBF

/-- The bytes of one character. -/
inductive IsSequence : List UInt8 → Prop where
  | one {b : UInt8} (ascii : b.toNat < 0x80) : IsSequence [b]
  | two {b x : UInt8} (lead : 0xC2 ≤ b.toNat ∧ b.toNat ≤ 0xDF) (second : IsContinuation x) :
      IsSequence [b, x]
  | three {b x y : UInt8} (lead : 0xE0 ≤ b.toNat ∧ b.toNat ≤ 0xEF) (second : IsContinuation x)
      (third : IsContinuation y) (notOverlong : b.toNat = 0xE0 → 0xA0 ≤ x.toNat)
      (notSurrogate : b.toNat = 0xED → x.toNat ≤ 0x9F) : IsSequence [b, x, y]
  | four {b x y z : UInt8} (lead : 0xF0 ≤ b.toNat ∧ b.toNat ≤ 0xF4) (second : IsContinuation x)
      (third : IsContinuation y) (fourth : IsContinuation z)
      (notOverlong : b.toNat = 0xF0 → 0x90 ≤ x.toNat) (inRange : b.toNat = 0xF4 → x.toNat ≤ 0x8F) :
      IsSequence [b, x, y, z]

/-! ## Characters -/

theorem toNat_ofNat_of_lt {n : Nat} (lt : n < 256) : (UInt8.ofNat n).toNat = n := by
  rw [UInt8.toNat_ofNat', Nat.mod_eq_of_lt lt]

theorem ofNat_eq_of_toNat {n : Nat} {b : UInt8} (eq : b.toNat = n) : UInt8.ofNat n = b := by
  rw [← eq, UInt8.ofNat_toNat]

theorem isContinuation_ofNat (n : Nat) : IsContinuation (UInt8.ofNat (n % 0x40 + 0x80)) := by
  unfold IsContinuation
  rw [toNat_ofNat_of_lt (by omega)]
  omega

/-- The code of a character is none of a surrogate. -/
theorem code_valid (c : Char) :
    c.val.toNat < 0xD800 ∨ 0xDFFF < c.val.toNat ∧ c.val.toNat < 0x110000 := c.valid

/-- The encoding of a character is a sequence. -/
theorem isSequence_utf8EncodeChar (c : Char) : IsSequence (String.utf8EncodeChar c) := by
  have valid := code_valid c
  unfold String.utf8EncodeChar
  generalize c.val.toNat = n at valid
  dsimp only
  split
  · have lead := toNat_ofNat_of_lt (n := n) (by omega)
    exact .one (by omega)
  split
  · have lead := toNat_ofNat_of_lt (n := n / 64 % 0x20 + 0xC0) (by omega)
    exact .two (by omega) (isContinuation_ofNat n)
  split
  · have lead := toNat_ofNat_of_lt (n := n / 4096 % 0x10 + 0xE0) (by omega)
    have second := toNat_ofNat_of_lt (n := n / 64 % 0x40 + 0x80) (by omega)
    exact .three (by omega) (isContinuation_ofNat _) (isContinuation_ofNat n) (by omega) (by omega)
  · have lead := toNat_ofNat_of_lt (n := n / 262144 % 0x08 + 0xF0) (by omega)
    have second := toNat_ofNat_of_lt (n := n / 4096 % 0x40 + 0x80) (by omega)
    exact .four (by omega) (isContinuation_ofNat _) (isContinuation_ofNat _) (isContinuation_ofNat n)
      (by omega) (by omega)

/-- There is a character of each code but those of surrogates. -/
theorem exists_char_of_code {n : Nat} (valid : n < 0xD800 ∨ 0xDFFF < n ∧ n < 0x110000) :
    ∃ c : Char, c.val.toNat = n :=
  ⟨Char.ofNatAux n valid, rfl⟩

/-- A sequence is the encoding of a character. -/
theorem IsSequence.exists_char {bytes : List UInt8} (sequence : IsSequence bytes) :
    ∃ c, String.utf8EncodeChar c = bytes := by
  cases sequence with
  | @one b ascii =>
    obtain ⟨c, code⟩ := exists_char_of_code (n := b.toNat) (by omega)
    refine ⟨c, ?_⟩
    unfold String.utf8EncodeChar
    rw [code, if_pos (by omega), UInt8.ofNat_toNat]
  | @two b x lead second =>
    unfold IsContinuation at second
    obtain ⟨c, code⟩ := exists_char_of_code
      (n := (b.toNat - 0xC0) * 0x40 + (x.toNat - 0x80)) (by omega)
    refine ⟨c, ?_⟩
    unfold String.utf8EncodeChar
    rw [code]
    dsimp only
    rw [if_neg (by omega), if_pos (by omega), ofNat_eq_of_toNat (b := b) (by omega),
      ofNat_eq_of_toNat (b := x) (by omega)]
  | @three b x y lead second third notOverlong notSurrogate =>
    unfold IsContinuation at second third
    obtain ⟨c, code⟩ := exists_char_of_code
      (n := (b.toNat - 0xE0) * 0x1000 + (x.toNat - 0x80) * 0x40 + (y.toNat - 0x80)) (by omega)
    refine ⟨c, ?_⟩
    unfold String.utf8EncodeChar
    rw [code]
    dsimp only
    rw [if_neg (by omega), if_neg (by omega), if_pos (by omega), ofNat_eq_of_toNat (b := b) (by omega),
      ofNat_eq_of_toNat (b := x) (by omega), ofNat_eq_of_toNat (b := y) (by omega)]
  | @four b x y z lead second third fourth notOverlong inRange =>
    unfold IsContinuation at second third fourth
    obtain ⟨c, code⟩ := exists_char_of_code
      (n := (b.toNat - 0xF0) * 0x40000 + (x.toNat - 0x80) * 0x1000 + (y.toNat - 0x80) * 0x40 +
        (z.toNat - 0x80)) (by omega)
    refine ⟨c, ?_⟩
    unfold String.utf8EncodeChar
    rw [code]
    dsimp only
    rw [if_neg (by omega), if_neg (by omega), if_neg (by omega), ofNat_eq_of_toNat (b := b) (by omega),
      ofNat_eq_of_toNat (b := x) (by omega), ofNat_eq_of_toNat (b := y) (by omega),
      ofNat_eq_of_toNat (b := z) (by omega)]

/-! ## Checking one sequence -/

/-- What follows a byte that begins no sequence of one byte is checked byte by byte. -/
theorem checkFollowing_cons {low high b : UInt8} (n seen : Nat) (bytes : List UInt8)
    (inBounds : low.toNat ≤ b.toNat ∧ b.toNat ≤ high.toNat) :
    checkFollowing low high (n + 1) seen (b :: bytes) =
      checkFollowing 0x80 0xBF n (seen + 1) bytes := if_pos inBounds

theorem checkFollowing_of_isContinuation {b : UInt8} (n seen : Nat) (bytes : List UInt8)
    (continues : IsContinuation b) :
    checkFollowing 0x80 0xBF (n + 1) seen (b :: bytes) =
      checkFollowing 0x80 0xBF n (seen + 1) bytes := checkFollowing_cons n seen bytes continues

theorem exists_of_checkFollowing {low high : UInt8} {n seen : Nat} {bytes rest : List UInt8}
    (checked : checkFollowing low high (n + 1) seen bytes = .ok rest) :
    ∃ b following, bytes = b :: following ∧ (low.toNat ≤ b.toNat ∧ b.toNat ≤ high.toNat) ∧
      checkFollowing 0x80 0xBF n (seen + 1) following = .ok rest := by
  cases bytes with
  | nil => cases checked
  | cons b following =>
    unfold checkFollowing at checked
    split at checked
    · rename_i inBounds
      exact ⟨b, following, rfl, inBounds, checked⟩
    · cases checked

/-- Which bytes may begin a sequence, and how they bound the byte behind them. -/
theorem lead?_eq (b : UInt8) : lead? b =
    if b.toNat < 0x80 then some ⟨0, 0, 0⟩
    else if 0xC2 ≤ b.toNat ∧ b.toNat ≤ 0xDF then some ⟨0x80, 0xBF, 1⟩
    else if b.toNat = 0xE0 then some ⟨0xA0, 0xBF, 2⟩
    else if b.toNat = 0xED then some ⟨0x80, 0x9F, 2⟩
    else if 0xE1 ≤ b.toNat ∧ b.toNat ≤ 0xEF then some ⟨0x80, 0xBF, 2⟩
    else if b.toNat = 0xF0 then some ⟨0x90, 0xBF, 3⟩
    else if 0xF1 ≤ b.toNat ∧ b.toNat ≤ 0xF3 then some ⟨0x80, 0xBF, 3⟩
    else if b.toNat = 0xF4 then some ⟨0x80, 0x8F, 3⟩
    else none := by
  unfold lead?
  simp only [UInt8.lt_iff_toNat_lt, UInt8.le_iff_toNat_le, ← UInt8.toNat_inj, UInt8.reduceToNat]

/-- The byte behind one that begins three bytes lies in the bounds that this sets. -/
theorem lead?_of_three {b x : UInt8} (lead : 0xE0 ≤ b.toNat ∧ b.toNat ≤ 0xEF)
    (second : IsContinuation x) (notOverlong : b.toNat = 0xE0 → 0xA0 ≤ x.toNat)
    (notSurrogate : b.toNat = 0xED → x.toNat ≤ 0x9F) :
    ∃ low high, lead? b = some ⟨low, high, 2⟩ ∧ low.toNat ≤ x.toNat ∧ x.toNat ≤ high.toNat := by
  rw [lead?_eq, if_neg (by omega), if_neg (by omega)]
  split
  · rename_i first
    exact ⟨_, _, rfl, notOverlong first, second.2⟩
  split
  · rename_i surrogates
    exact ⟨_, _, rfl, second.1, notSurrogate surrogates⟩
  · rw [if_pos (by omega)]
    exact ⟨_, _, rfl, second⟩

/-- The byte behind one that begins four bytes lies in the bounds that this sets. -/
theorem lead?_of_four {b x : UInt8} (lead : 0xF0 ≤ b.toNat ∧ b.toNat ≤ 0xF4)
    (second : IsContinuation x) (notOverlong : b.toNat = 0xF0 → 0x90 ≤ x.toNat)
    (inRange : b.toNat = 0xF4 → x.toNat ≤ 0x8F) :
    ∃ low high, lead? b = some ⟨low, high, 3⟩ ∧ low.toNat ≤ x.toNat ∧ x.toNat ≤ high.toNat := by
  rw [lead?_eq, if_neg (by omega), if_neg (by omega), if_neg (by omega), if_neg (by omega),
    if_neg (by omega)]
  split
  · rename_i first
    exact ⟨_, _, rfl, notOverlong first, second.2⟩
  split
  · exact ⟨_, _, rfl, second⟩
  · rw [if_pos (by omega)]
    exact ⟨_, _, rfl, second.1, inRange (by omega)⟩

/-- The check goes over a sequence. -/
theorem IsSequence.checked {b : UInt8} {following : List UInt8}
    (sequence : IsSequence (b :: following)) :
    ∃ l, lead? b = some l ∧ l.following = following.length ∧
      ∀ rest, checkFollowing l.low l.high l.following 1 (following ++ rest) = .ok rest := by
  cases sequence with
  | one ascii => exact ⟨_, by rw [lead?_eq, if_pos ascii], rfl, fun rest => rfl⟩
  | two lead second =>
    refine ⟨⟨0x80, 0xBF, 1⟩, by rw [lead?_eq, if_neg (by omega), if_pos lead], rfl, fun rest => ?_⟩
    exact checkFollowing_of_isContinuation 0 1 rest second
  | three lead second third notOverlong notSurrogate =>
    obtain ⟨low, high, begins, inBounds⟩ := lead?_of_three lead second notOverlong notSurrogate
    refine ⟨_, begins, rfl, fun rest => ?_⟩
    exact (checkFollowing_cons 1 1 _ inBounds).trans (checkFollowing_of_isContinuation 0 2 rest third)
  | four lead second third fourth notOverlong inRange =>
    obtain ⟨low, high, begins, inBounds⟩ := lead?_of_four lead second notOverlong inRange
    refine ⟨_, begins, rfl, fun rest => ?_⟩
    exact (checkFollowing_cons 2 1 _ inBounds).trans
      ((checkFollowing_of_isContinuation 1 2 _ third).trans
        (checkFollowing_of_isContinuation 0 3 rest fourth))

/-- Checking two bytes behind the first. -/
theorem exists_of_checkFollowing_two {low high : UInt8} {bytes rest : List UInt8}
    (checked : checkFollowing low high 2 1 bytes = .ok rest) :
    ∃ x y, bytes = [x, y] ++ rest ∧ (low.toNat ≤ x.toNat ∧ x.toNat ≤ high.toNat) ∧
      IsContinuation y := by
  obtain ⟨x, following, rfl, second, checked⟩ := exists_of_checkFollowing checked
  obtain ⟨y, following, rfl, third, checked⟩ := exists_of_checkFollowing checked
  cases checked
  exact ⟨x, y, rfl, second, third⟩

/-- Checking three bytes behind the first. -/
theorem exists_of_checkFollowing_three {low high : UInt8} {bytes rest : List UInt8}
    (checked : checkFollowing low high 3 1 bytes = .ok rest) :
    ∃ x y z, bytes = [x, y, z] ++ rest ∧ (low.toNat ≤ x.toNat ∧ x.toNat ≤ high.toNat) ∧
      IsContinuation y ∧ IsContinuation z := by
  obtain ⟨x, following, rfl, second, checked⟩ := exists_of_checkFollowing checked
  obtain ⟨y, following, rfl, third, checked⟩ := exists_of_checkFollowing checked
  obtain ⟨z, following, rfl, fourth, checked⟩ := exists_of_checkFollowing checked
  cases checked
  exact ⟨x, y, z, rfl, second, third, fourth⟩

/-- What the check goes over is a sequence. -/
theorem exists_isSequence {b : UInt8} {l : Lead} {bytes rest : List UInt8}
    (begins : lead? b = some l)
    (checked : checkFollowing l.low l.high l.following 1 bytes = .ok rest) :
    ∃ following, bytes = following ++ rest ∧ IsSequence (b :: following) := by
  rw [lead?_eq] at begins
  split at begins
  · rename_i ascii
    cases begins
    cases checked
    exact ⟨[], rfl, .one ascii⟩
  split at begins
  · rename_i lead
    cases begins
    obtain ⟨x, following, rfl, second, checked⟩ := exists_of_checkFollowing checked
    cases checked
    exact ⟨[x], rfl, .two lead second⟩
  split at begins
  · rename_i first
    cases begins
    obtain ⟨x, y, rfl, ⟨low, high⟩, third⟩ := exists_of_checkFollowing_two checked
    have low : 0xA0 ≤ x.toNat := low
    exact ⟨[x, y], rfl, .three (by omega) ⟨by omega, high⟩ third (fun _ => low) (by omega)⟩
  split at begins
  · rename_i surrogates
    cases begins
    obtain ⟨x, y, rfl, ⟨low, high⟩, third⟩ := exists_of_checkFollowing_two checked
    have high : x.toNat ≤ 0x9F := high
    exact ⟨[x, y], rfl, .three (by omega) ⟨low, by omega⟩ third (by omega) (fun _ => high)⟩
  split at begins
  · rename_i lead
    cases begins
    obtain ⟨x, y, rfl, second, third⟩ := exists_of_checkFollowing_two checked
    exact ⟨[x, y], rfl, .three (by omega) second third (by omega) (by omega)⟩
  split at begins
  · rename_i first
    cases begins
    obtain ⟨x, y, z, rfl, ⟨low, high⟩, third, fourth⟩ := exists_of_checkFollowing_three checked
    have low : 0x90 ≤ x.toNat := low
    exact ⟨[x, y, z], rfl, .four (by omega) ⟨by omega, high⟩ third fourth (fun _ => low) (by omega)⟩
  split at begins
  · rename_i lead
    cases begins
    obtain ⟨x, y, z, rfl, second, third, fourth⟩ := exists_of_checkFollowing_three checked
    exact ⟨[x, y, z], rfl, .four (by omega) second third fourth (by omega) (by omega)⟩
  split at begins
  · rename_i last
    cases begins
    obtain ⟨x, y, z, rfl, ⟨low, high⟩, third, fourth⟩ := exists_of_checkFollowing_three checked
    have high : x.toNat ≤ 0x8F := high
    exact ⟨[x, y, z], rfl, .four (by omega) ⟨low, by omega⟩ third fourth (by omega) (fun _ => high)⟩
  · cases begins

/-! ## Texts -/

/-- Bytes of which one sequence has been checked have the faults of the rest. -/
theorem faultFrom_of_checked {index : Nat} {b : UInt8} {l : Lead} {bytes rest : List UInt8}
    (begins : lead? b = some l)
    (checked : checkFollowing l.low l.high l.following 1 bytes = .ok rest) :
    faultFrom index (b :: bytes) = faultFrom (index + 1 + l.following) rest := by
  rw [faultFrom, begins]
  dsimp only
  split
  · rename_i fails
    rw [checked] at fails
    cases fails
  · rename_i rest' goesOn
    rw [checked] at goesOn
    cases goesOn
    rfl

/-- The encoding of a text has no fault. -/
theorem faultFrom_utf8EncodeChar (cs : List Char) (index : Nat) :
    faultFrom index (cs.flatMap String.utf8EncodeChar) = none := by
  induction cs generalizing index with
  | nil => rw [List.flatMap_nil, faultFrom]
  | cons c cs ih =>
    have sequence := isSequence_utf8EncodeChar c
    rw [List.flatMap_cons]
    cases bytes : String.utf8EncodeChar c with
    | nil => exact absurd bytes String.utf8EncodeChar_ne_nil
    | cons b following =>
      rw [bytes] at sequence
      obtain ⟨l, begins, length, checked⟩ := sequence.checked
      rw [List.cons_append, faultFrom_of_checked begins (checked _), ih]

/-- Bytes without a fault are the encoding of a text. -/
theorem exists_of_faultFrom_eq_none {index : Nat} {bytes : List UInt8}
    (faultless : faultFrom index bytes = none) :
    ∃ cs : List Char, bytes = cs.flatMap String.utf8EncodeChar := by
  fun_induction faultFrom index bytes with
  | case1 => exact ⟨[], rfl⟩
  | case2 => cases faultless
  | case3 => cases faultless
  | case4 index b bytes l begins rest checked ih =>
    obtain ⟨cs, rfl⟩ := ih faultless
    obtain ⟨following, rfl, sequence⟩ := exists_isSequence begins checked
    obtain ⟨c, encoded⟩ := sequence.exists_char
    exact ⟨c :: cs, by rw [List.flatMap_cons, encoded]; rfl⟩

end Utf8

/-- Bytes have no fault just if they are the UTF-8 of a text. -/
theorem utf8Fault?_eq_none_iff (bytes : ByteArray) :
    utf8Fault? bytes = none ↔ bytes.IsValidUTF8 := by
  unfold utf8Fault?
  constructor
  · intro faultless
    obtain ⟨cs, encoded⟩ := Utf8.exists_of_faultFrom_eq_none faultless
    refine .intro cs (ByteArray.ext (Array.toList_inj.mp ?_))
    rw [encoded, List.utf8Encode, List.toList_data_toByteArray]
  · rintro ⟨cs, rfl⟩
    rw [List.utf8Encode, List.toList_data_toByteArray]
    exact Utf8.faultFrom_utf8EncodeChar cs 0

theorem fromUTF8?_eq_some_iff {bytes : ByteArray} {s : String} :
    String.fromUTF8? bytes = some s ↔ s.toUTF8 = bytes := by
  unfold String.fromUTF8?
  constructor
  · intro decoded
    split at decoded
    · cases decoded
      rfl
    · cases decoded
  · rintro rfl
    exact dif_pos s.isValidUTF8

/-- Bytes are decoded to the text that they encode. -/
theorem decodeUtf8_eq_ok_iff {bytes : ByteArray} {s : String} :
    decodeUtf8 bytes = .ok s ↔ s.toUTF8 = bytes := by
  rw [← fromUTF8?_eq_some_iff]
  unfold decodeUtf8
  cases fault : utf8Fault? bytes with
  | some f =>
    refine ⟨nofun, fun decoded => ?_⟩
    have valid : bytes.IsValidUTF8 := fromUTF8?_eq_some_iff.mp decoded ▸ s.isValidUTF8
    rw [(utf8Fault?_eq_none_iff bytes).mpr valid] at fault
    cases fault
  | none => cases String.fromUTF8? bytes <;> simp

/-- Bytes that encode no text have a fault, with which they are refused. -/
theorem exists_fault_of_not_isValidUTF8 {bytes : ByteArray} (invalid : ¬bytes.IsValidUTF8) :
    ∃ fault, utf8Fault? bytes = some fault ∧ decodeUtf8 bytes = .error fault := by
  obtain ⟨fault, found⟩ :=
    Option.ne_none_iff_exists'.mp (mt (utf8Fault?_eq_none_iff bytes).mp invalid)
  refine ⟨fault, found, ?_⟩
  unfold decodeUtf8
  rw [found]

end BatchSync.Text
