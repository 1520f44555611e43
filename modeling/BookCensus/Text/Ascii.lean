/-!
# Letters A to Z

Markup and selectors fold the case of the twenty-six ASCII letters and of no
other character.
-/

namespace BookCensus.Text

/-- The lower-case form of A to Z; every other character is its own. -/
def lowerChar (c : Char) : Char :=
  if 'A' ≤ c ∧ c ≤ 'Z' then Char.ofNat (c.toNat + 32) else c

/-- `lowerChar` on every character. -/
def lowerChars (cs : List Char) : List Char :=
  cs.map lowerChar

/-- `lowerChar` on every character of a string. -/
def lower (s : String) : String :=
  String.ofList (lowerChars s.toList)

/-- Equal up to the case of A to Z. -/
def sameIgnoringCase (s t : String) : Bool :=
  lowerChars s.toList == lowerChars t.toList

/-- A letter A to Z or a to z. -/
def isLetter (c : Char) : Bool :=
  ('a' ≤ c && c ≤ 'z') || ('A' ≤ c && c ≤ 'Z')

/-- A digit 0 to 9. -/
def isDigit (c : Char) : Bool :=
  '0' ≤ c && c ≤ '9'

/-- The value of a digit in base sixteen. -/
def hexValue? (c : Char) : Option Nat :=
  if '0' ≤ c ∧ c ≤ '9' then some (c.toNat - '0'.toNat)
  else if 'a' ≤ c ∧ c ≤ 'f' then some (c.toNat - 'a'.toNat + 10)
  else if 'A' ≤ c ∧ c ≤ 'F' then some (c.toNat - 'A'.toNat + 10)
  else none

/-- A digit in base sixteen. -/
def isHexDigit (c : Char) : Bool :=
  (hexValue? c).isSome

/-- The number that a list of base-ten digits denotes. -/
def decimalValue (cs : List Char) : Nat :=
  cs.foldl (fun n c => n * 10 + (c.toNat - '0'.toNat)) 0

/-- The number that a list of base-sixteen digits denotes; other characters
count as zero. -/
def hexadecimalValue (cs : List Char) : Nat :=
  cs.foldl (fun n c => n * 16 + (hexValue? c).getD 0) 0

/-- The character with a code point, if there is one. -/
def charOfCode? (n : Nat) : Option Char :=
  if n.isValidChar then some (Char.ofNat n) else none

end BookCensus.Text
