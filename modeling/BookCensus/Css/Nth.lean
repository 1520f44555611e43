import BookCensus.Css.Lexer

/-!
# Series of places

The argument of a test of places, such as `2n + 1`, `odd` or `-n+3`: a step and
an offset, both within thirty-two bits.
-/

namespace BookCensus.Css.Nth

open Text

/-- Drop the spaces at the front. -/
def skipSpaces (cs : List Component) : List Component :=
  cs.dropWhile Component.isSpace

/-- The number at the front, which must have no sign, times a sign. -/
def unsignedOffset? (step sign : Int) (cs : List Component) :
    Option ((Int × Int) × List Component) :=
  match skipSpaces cs with
  | .token (.number ⟨some b, false⟩) :: rest => some ((step, sign * b), rest)
  | _ => none

/-- The offset after the letter n: a number with its sign, a sign and a number,
or nothing. -/
def offset? (step : Int) (cs : List Component) : Option ((Int × Int) × List Component) :=
  match skipSpaces cs with
  | .token (.delim '+') :: rest => unsignedOffset? step 1 rest
  | .token (.delim '-') :: rest => unsignedOffset? step (-1) rest
  | .token (.number ⟨some b, true⟩) :: rest => some ((step, b), rest)
  | _ => some ((step, 0), cs)

/-- The offset in a name such as `n-3`. -/
def dashDigits? : List Char → Option Int
  | n :: '-' :: d :: rest =>
      if lowerChar n == 'n' && (d :: rest).all isDigit then
        some (clampWhole (-(decimalValue (d :: rest) : Int)))
      else none
  | _ => none

/-- What follows a step whose unit is `unit`. -/
def afterUnit? (step : Int) (unit : String) (rest : List Component) :
    Option ((Int × Int) × List Component) :=
  if sameIgnoringCase unit "n" then offset? step rest
  else if sameIgnoringCase unit "n-" then unsignedOffset? step (-1) rest
  else (dashDigits? unit.toList).map fun b => ((step, b), rest)

/-- The series at the front, and what stands after it. -/
def ofComponents? (cs : List Component) : Option ((Int × Int) × List Component) :=
  match skipSpaces cs with
  | .token (.number ⟨some b, _⟩) :: rest => some ((0, b), rest)
  | .token (.dimension ⟨some a, _⟩ unit) :: rest => afterUnit? a unit rest
  | .token (.ident word) :: rest =>
      if sameIgnoringCase word "even" then some ((2, 0), rest)
      else if sameIgnoringCase word "odd" then some ((2, 1), rest)
      else
        match word.toList with
        | '-' :: unit => afterUnit? (-1) (String.ofList unit) rest
        | unit => afterUnit? 1 (String.ofList unit) rest
  | .token (.delim '+') :: .token (.ident unit) :: rest => afterUnit? 1 unit rest
  | _ => none

/-- Whether the place `index`, counted from one, is in the series.  The distance
to the offset must not pass the range of thirty-two bits. -/
def holds (step offset : Int) (index : Nat) : Bool :=
  let distance := (index : Int) - offset
  if 2147483647 < distance then false
  else if step == 0 then distance == 0
  else 0 ≤ Int.tdiv distance step && step * Int.tdiv distance step == distance

end BookCensus.Css.Nth
