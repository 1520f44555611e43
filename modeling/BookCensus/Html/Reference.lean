import BookCensus.Html.NamedCharacter

/-!
# Character references

What an ampersand stands for.  Where the characters after it make no reference
it stands for itself.  In the value of an attribute a name without semicolon is
no reference when a letter, a digit or an equals sign follows.
-/

namespace BookCensus.Html

open Text

/-- What the codes 128 to 159 stand for: the characters that a widespread
eight-bit set has there. -/
def westernCodes : List Nat :=
  [0x20ac, 0x81, 0x201a, 0x0192, 0x201e, 0x2026, 0x2020, 0x2021, 0x02c6, 0x2030, 0x0160,
   0x2039, 0x0152, 0x8d, 0x017d, 0x8f, 0x90, 0x2018, 0x2019, 0x201c, 0x201d, 0x2022, 0x2013,
   0x2014, 0x02dc, 0x2122, 0x0161, 0x203a, 0x0153, 0x9d, 0x017e, 0x0178]

/-- The character that a number refers to. -/
def numberedCharacter (n : Nat) : Char :=
  if n == 0 then '\ufffd'
  else if 0x80 ≤ n ∧ n < 0xa0 then
    (charOfCode? (westernCodes.getD (n - 0x80) n)).getD '\ufffd'
  else (charOfCode? n).getD '\ufffd'

/-- Drop a semicolon. -/
def dropSemicolon : List Char → List Char
  | ';' :: rest => rest
  | rest => rest

/-- A reference by number, from the sign `#` on. -/
def numericReference? (cs : List Char) : Option (Char × List Char) :=
  match cs with
  | '#' :: x :: rest =>
      if x == 'x' || x == 'X' then
        let digits := rest.takeWhile isHexDigit
        if digits.isEmpty then none
        else
          some (numberedCharacter (hexadecimalValue digits),
            dropSemicolon (rest.drop digits.length))
      else
        let digits := (x :: rest).takeWhile isDigit
        if digits.isEmpty then none
        else
          some (numberedCharacter (decimalValue digits),
            dropSemicolon ((x :: rest).drop digits.length))
  | _ => none

/-- What the text after an ampersand begins with: the characters referred to,
or the ampersand itself, and the rest. -/
def reference (inAttribute : Bool) (cs : List Char) : List Char × List Char :=
  match cs with
  | '#' :: _ =>
      match numericReference? cs with
      | some (c, rest) => ([c], rest)
      | none => (['&'], cs)
  | c :: _ =>
      if !(isLetter c || isDigit c) then (['&'], cs)
      else
        match longestSpelling? cs with
        | none => (['&'], cs)
        | some (spelling, chars, rest) =>
            let goesOn := rest.head?.any fun d => d == '=' || isLetter d || isDigit d
            if inAttribute && spelling.getLast? != some ';' && goesOn then (['&'], cs)
            else (chars, rest)
  | [] => (['&'], [])

end BookCensus.Html
