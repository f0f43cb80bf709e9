import BatchSync.Json.Reader
import BatchSync.Yaml.Cursor

/-!
# Tags of YAML

A tag names the kind of a node. It is written in ASCII, where a percent sign and two hexadecimal
digits denote an octet, and two tags are the same if their octets are. Escaped octets have to form
sequences of the lengths that their leading bits announce, as those of UTF-8 do, but what a sequence
denotes is not looked at. An octet of zero ends a tag.
-/

namespace BatchSync.Yaml

/-- A tag, by its octets. -/
structure Tag where
  octets : List UInt8
  deriving DecidableEq

/-! ## Octets -/

/-- Whether a character may stand in a tag. -/
def isTagChar (verbatim : Bool) (c : Char) : Bool :=
  isWord c || ";/?:@&=+$.%!~*'()".contains c || (verbatim && ",[]".contains c)

/-- The octet of an ASCII character. -/
def octetOf (c : Char) : UInt8 := UInt8.ofNat c.toNat

/-- How many octets follow one that begins a sequence, by its leading bits. -/
def followers? (n : Nat) : Option Nat :=
  if n < 0x80 then some 0
  else if n < 0xC0 then none
  else if n < 0xE0 then some 1
  else if n < 0xF0 then some 2
  else if n < 0xF8 then some 3
  else none

/-- The octets that the characters of a tag denote, after a sequence that still wants the given
number of octets, all of them escaped. -/
def tagOctets? : Nat → List Char → Option (List UInt8)
  | wanted, '%' :: a :: b :: rest =>
    match Json.hexValue? a, Json.hexValue? b with
    | some high, some low =>
      let n := 16 * high + low
      let wanted? :=
        if wanted = 0 then followers? n
        else if 0x80 ≤ n ∧ n < 0xC0 then some (wanted - 1) else none
      match wanted? with
      | some wanted => (tagOctets? wanted rest).map (UInt8.ofNat n :: ·)
      | none => none
    | _, _ => none
  | 0, c :: rest => if c = '%' then none else (tagOctets? 0 rest).map (octetOf c :: ·)
  | 0, [] => some []
  | _ + 1, _ => none

/-! ## Tags -/

namespace Tag

/-- The tag of octets, as far as none of them is zero. -/
def ofOctets (os : List UInt8) : Tag := ⟨os.takeWhile (· != 0)⟩

/-- The tag with a text of ASCII characters. -/
def ofText (s : String) : Tag := ofOctets (s.toList.map octetOf)

/-- A tag with a part after it. -/
def append (t suffix : Tag) : Tag := ⟨t.octets ++ suffix.octets⟩

/-- The tag of a single mark, which says no more of a scalar than no tag does. -/
def nonSpecific : Tag := ofText "!"

/-- The part before the names of the kinds that every document knows. -/
def core : Tag := ofText "tag:yaml.org,2002:"

/-- The tag of a kind that every document knows. -/
def ofKind (kind : String) : Tag := core.append (ofText kind)

end Tag

end BatchSync.Yaml
