/-!
# Blank characters

The characters with the Unicode property `White_Space`, and trimming by them. Every numeral, date
and truth value of the library is read after its text has been trimmed.
-/

namespace BatchSync.Text

/-- The code points with the property `White_Space`. -/
def blankCodes : List Nat :=
  [0x09, 0x0A, 0x0B, 0x0C, 0x0D, 0x20, 0x85, 0xA0, 0x1680, 0x2000, 0x2001, 0x2002, 0x2003, 0x2004,
    0x2005, 0x2006, 0x2007, 0x2008, 0x2009, 0x200A, 0x2028, 0x2029, 0x202F, 0x205F, 0x3000]

/-- Whether a character has the property `White_Space`. -/
def isBlank (c : Char) : Bool := blankCodes.contains c.toNat

/-- Twenty-five characters are blank. -/
example : blankCodes.length = 25 := rfl

/-- The text without its leading blanks. -/
def trimLeft (cs : List Char) : List Char := cs.dropWhile isBlank

/-- The text without its leading and its trailing blanks. -/
def trim (cs : List Char) : List Char := (trimLeft (trimLeft cs).reverse).reverse

theorem trimLeft_cons_of_not_isBlank {c : Char} {cs : List Char} (h : isBlank c = false) :
    trimLeft (c :: cs) = c :: cs := by
  simp [trimLeft, h]

/-- A character in lower case, if it is an upper-case letter of ASCII. -/
def asciiLower (c : Char) : Char := c.toLower

/-- Whether two texts differ at most in the case of ASCII letters. -/
def eqIgnoringAsciiCase (a b : List Char) : Bool := a.map asciiLower == b.map asciiLower

/-- The value of a decimal digit of ASCII. -/
def digitValue? (c : Char) : Option Nat :=
  if '0' ≤ c ∧ c ≤ '9' then some (c.toNat - '0'.toNat) else none

/-- Whether a character is a decimal digit of ASCII. -/
def isDigit (c : Char) : Bool := (digitValue? c).isSome

end BatchSync.Text
