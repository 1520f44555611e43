import BookCensus.Json.Value
import BookCensus.Number.Shortest

/-!
# Writing JSON

Two layouts: `compact` has no space outside strings, `pretty` puts every item
and member on a line of its own, indented by two spaces a level, and keeps an
empty array or object on one line.

In a string the quotation mark, the backslash and the control characters below
U+0020 are escaped, by a letter where the grammar has one; every other
character stands for itself.
-/

namespace BookCensus.Json

/-- A digit in base sixteen, in lower case. -/
def hexDigit (n : Nat) : Char :=
  Nat.digitChar n

/-- A character as it stands inside a string. -/
def escapeChar (c : Char) : List Char :=
  if c == '"' then ['\\', '"']
  else if c == '\\' then ['\\', '\\']
  else if c == '\n' then ['\\', 'n']
  else if c == '\r' then ['\\', 'r']
  else if c == '\t' then ['\\', 't']
  else if c == '\x08' then ['\\', 'b']
  else if c == '\x0c' then ['\\', 'f']
  else if c.toNat < 0x20 then
    ['\\', 'u', '0', '0', hexDigit (c.toNat / 16), hexDigit (c.toNat % 16)]
  else [c]

/-- A string between quotation marks. -/
def quoteChars (s : List Char) : List Char :=
  '"' :: (s.flatMap escapeChar ++ ['"'])

/-- Floating-point numbers are written positionally from 10⁻⁵ up to below 10¹⁶,
and an exponent has its sign and at least two digits. -/
def floatStyle : Number.FloatStyle :=
  ⟨-5, 15, 2⟩

/-- The text of an integer. -/
def intChars (n : Int) : List Char :=
  (toString n).toList

mutual

/-- A value with no space outside strings. -/
def compactChars : Json → List Char
  | .null => ['n', 'u', 'l', 'l']
  | .bool true => ['t', 'r', 'u', 'e']
  | .bool false => ['f', 'a', 'l', 's', 'e']
  | .int n => intChars n
  | .float x => floatStyle.write x
  | .string s => quoteChars s.toList
  | .array items => '[' :: (compactItems items ++ [']'])
  | .object members => '\x7b' :: (compactMembers members ++ ['\x7d'])

/-- Items with a comma between neighbours. -/
def compactItems : List Json → List Char
  | [] => []
  | [v] => compactChars v
  | v :: w :: rest => compactChars v ++ ',' :: compactItems (w :: rest)

/-- Members with a comma between neighbours. -/
def compactMembers : List (String × Json) → List Char
  | [] => []
  | [(k, v)] => quoteChars k.toList ++ ':' :: compactChars v
  | (k, v) :: m :: rest =>
      quoteChars k.toList ++ ':' :: (compactChars v ++ ',' :: compactMembers (m :: rest))

end

/-- A new line indented to a level. -/
def newline (level : Nat) : List Char :=
  '\n' :: List.replicate (2 * level) ' '

mutual

/-- A value laid out over lines, its own lines indented to `level`. -/
def prettyChars (level : Nat) : Json → List Char
  | .array [] => ['[', ']']
  | .object [] => ['\x7b', '\x7d']
  | .array (v :: rest) =>
      '[' :: (newline (level + 1) ++ prettyItems (level + 1) (v :: rest)
        ++ newline level ++ [']'])
  | .object (m :: rest) =>
      '\x7b' :: (newline (level + 1) ++ prettyMembers (level + 1) (m :: rest)
        ++ newline level ++ ['\x7d'])
  | .null => ['n', 'u', 'l', 'l']
  | .bool true => ['t', 'r', 'u', 'e']
  | .bool false => ['f', 'a', 'l', 's', 'e']
  | .int n => intChars n
  | .float x => floatStyle.write x
  | .string s => quoteChars s.toList

/-- Items, each on a line of its own. -/
def prettyItems (level : Nat) : List Json → List Char
  | [] => []
  | [v] => prettyChars level v
  | v :: w :: rest =>
      prettyChars level v ++ ',' :: (newline level ++ prettyItems level (w :: rest))

/-- Members, each on a line of its own. -/
def prettyMembers (level : Nat) : List (String × Json) → List Char
  | [] => []
  | [(k, v)] => quoteChars k.toList ++ ':' :: ' ' :: prettyChars level v
  | (k, v) :: m :: rest =>
      quoteChars k.toList ++ ':' :: ' ' ::
        (prettyChars level v ++ ',' :: (newline level ++ prettyMembers level (m :: rest)))

end

/-- The text of a value on one line. -/
def compact (v : Json) : String :=
  String.ofList v.compactChars

/-- The text of a value over several lines. -/
def pretty (v : Json) : String :=
  String.ofList (v.prettyChars 0)

end BookCensus.Json
