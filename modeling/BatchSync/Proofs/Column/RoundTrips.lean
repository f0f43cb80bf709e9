import BatchSync.Proofs.Column.Integers
import BatchSync.Proofs.Text.Utf8

/-!
# Texts and bytes of columns

The text of an integer is read back to it, whatever its size (`readWhole?_integerText`), and bytes have a
text just if they are its UTF-8. So what a column is written as is read back from the column that holds
the writing (`Column.texts_and_bytes_come_back`).
-/

namespace BatchSync

open BatchSync.Text

/-! ## The text of an integer -/

/-- Digits are read without any of them grouped. -/
theorem readGroupedDigits?_of_digits {ds : List Char} (digit : ∀ c ∈ ds, isDigit c = true)
    (ne : ds ≠ []) : readGroupedDigits? ds = some (readDigits ds) := by
  have all : ds.filter isDigit = ds := List.filter_eq_self.mpr digit
  cases ds with
  | nil => exact absurd rfl ne
  | cons c ds =>
    have rest : ds.all (fun c => isDigit c || c == '_') = true :=
      List.all_eq_true.mpr fun d mem => by rw [digit d (List.mem_cons_of_mem _ mem), Bool.true_or]
    rw [readGroupedDigits?, digit c List.mem_cons_self, rest, all]
    rfl

/-- The sign and the magnitude of an integer. -/
theorem signed_natAbs (n : Int) : signed (decide (n < 0)) n.natAbs = n := by
  unfold signed
  by_cases negative : n < 0
  · rw [decide_eq_true negative, if_pos rfl]
    omega
  · rw [decide_eq_false negative, if_neg Bool.false_ne_true]
    omega

theorem readInteger?_integerText (n : Int) : readInteger? (integerText n) = some n := by
  unfold readInteger?
  rw [splitSign_integerText]
  dsimp only
  rw [readGroupedDigits?_of_digits isDigit_of_mem_digits (digits_ne_nil _), readDigits_digits,
    Option.map_some, signed_natAbs]

/-- The text of an integer is read back to it. -/
theorem readWhole?_integerText (n : Int) : readWhole? (integerText n) = some n := by
  unfold readWhole?
  rw [trim_integerText, readInteger?_integerText]

namespace Column

theorem toList_shown (n : Int) : (shown n).toList = integerText n := String.toList_ofList

/-- A text that is read as an integer, asked for one of 64 bits. -/
theorem asLong_of_readWhole? {s : String} {n : Int} (read : readWhole? s.toList = some n) :
    (Column.string s).asLong =
      if fitsInt64 n then .ok (some n) else .error ⟨.string, .long, some s!"'{s}' is out of range"⟩ := by
  unfold asLong
  dsimp only
  rw [read]
  dsimp only
  rw [int64?]
  split
  · rfl
  · rfl

theorem readWhole?_shown (n : Int) : readWhole? (shown n).toList = some n := by
  rw [toList_shown, readWhole?_integerText]

/-! ## The text of bytes -/

theorem asString_bytes_eq_ok_iff (bytes : ByteArray) (s : String) :
    (Column.bytes bytes).asString = .ok (some s) ↔ s.toUTF8 = bytes := by
  rw [← decodeUtf8_eq_ok_iff]
  unfold asString
  dsimp only
  cases decodeUtf8 bytes with
  | ok text => simp
  | error fault => exact ⟨nofun, nofun⟩

/-- Columns that are written as texts or bytes are read back from them. The text of an integer of any
size is read back to it, and to one of 64 bits just if it fits; bytes have a text just if they are UTF-8,
and otherwise their first fault is named; the text of bytes has these bytes again, and the bytes of a text
have this text again. -/
theorem texts_and_bytes_come_back :
    (∀ n : Int, ∃ s,
      (Column.long n).asString = .ok (some s) ∧
      (Column.string s).asBigInteger = .ok (some n) ∧
      (Column.string s).asLong =
        if -(signedWordLimit : Int) ≤ n ∧ n < signedWordLimit then .ok (some n)
        else .error ⟨.string, .long, some s!"'{s}' is out of range"⟩) ∧
    (∀ bytes : ByteArray,
      ((∃ s, (Column.bytes bytes).asString = .ok (some s)) ↔ bytes.IsValidUTF8) ∧
      (∀ s, (Column.bytes bytes).asString = .ok (some s) →
        (Column.string s).asBytes = .ok (some bytes)) ∧
      (¬bytes.IsValidUTF8 → ∃ fault, utf8Fault? bytes = some fault ∧
        (Column.bytes bytes).asString = .error ⟨.bytes, .string, some fault.message⟩)) ∧
    ∀ s : String, ∃ bytes,
      (Column.string s).asBytes = .ok (some bytes) ∧ (Column.bytes bytes).asString = .ok (some s) := by
  refine ⟨fun n => ⟨shown n, rfl, ?_, ?_⟩, fun bytes => ⟨⟨?_, ?_⟩, ?_, ?_⟩, fun s => ⟨s.toUTF8, rfl, ?_⟩⟩
  · unfold asBigInteger
    dsimp only
    rw [readWhole?_shown]
    rfl
  · rw [asLong_of_readWhole? (readWhole?_shown n)]
    simp only [fitsInt64_iff]
  · rintro ⟨s, decoded⟩
    rw [← (asString_bytes_eq_ok_iff bytes s).mp decoded]
    exact s.isValidUTF8
  · intro valid
    exact ⟨String.fromUTF8 bytes valid, (asString_bytes_eq_ok_iff ..).mpr rfl⟩
  · intro s decoded
    rw [← (asString_bytes_eq_ok_iff bytes s).mp decoded]
    rfl
  · intro invalid
    obtain ⟨fault, found, refused⟩ := exists_fault_of_not_isValidUTF8 invalid
    refine ⟨fault, found, ?_⟩
    unfold asString
    dsimp only
    rw [refused]
    rfl
  · exact (asString_bytes_eq_ok_iff ..).mpr rfl

/-- The three bytes of a euro sign. -/
def euroBytes : ByteArray := ⟨#[0xE2, 0x82, 0xAC]⟩

/-- Three bytes that would encode a surrogate. -/
def surrogateBytes : ByteArray := ⟨#[0xED, 0xA0, 0x80]⟩

theorem utf8Fault?_surrogateBytes : utf8Fault? surrogateBytes = some ⟨0, some 1⟩ := by cbv

/-- The sign comes back both ways, and the surrogate has no text. -/
theorem texts_and_bytes_come_back_euro :
    (Column.bytes euroBytes).asString = .ok (some "€") ∧
      (Column.string "€").asBytes = .ok (some euroBytes) ∧
      ¬surrogateBytes.IsValidUTF8 ∧
      ∃ fault, (Column.bytes surrogateBytes).asString =
        .error ⟨.bytes, .string, some (Utf8Fault.message fault)⟩ := by
  have all := texts_and_bytes_come_back.2.1
  have euro : (Column.bytes euroBytes).asString = .ok (some "€") :=
    (asString_bytes_eq_ok_iff ..).mpr (by decide)
  have invalid : ¬surrogateBytes.IsValidUTF8 := by
    rw [← utf8Fault?_eq_none_iff, utf8Fault?_surrogateBytes]
    nofun
  obtain ⟨fault, _, refused⟩ := (all surrogateBytes).2.2 invalid
  exact ⟨euro, (all euroBytes).2.1 _ euro, invalid, fault, refused⟩

end Column

end BatchSync
