import BookCensus.Pattern.Error
import BookCensus.Text.Blank

/-!
# A place in a pattern under way

A cursor is the rest of a pattern together with the place where it begins.
Under the flag for verbose patterns, blanks and comments are passed over
wherever a reader asks for the next character that counts.
-/

namespace BookCensus.Pattern

open Text

/-- The characters still to be read, the place of the first of them, and
whether blanks and comments are to be passed over. -/
structure Cursor where
  rest : List Char
  position : Position
  verbose : Bool

/-- The answer of a reader: a value and what is left, or a fault. -/
abbrev Reader (α : Type) := Cursor → Except Fault (α × Cursor)

namespace Cursor

/-- The beginning of a pattern. -/
def ofChars (cs : List Char) : Cursor :=
  ⟨cs, .start, false⟩

/-- The next character. -/
def char? (cur : Cursor) : Option Char :=
  cur.rest.head?

/-- Nothing is left. -/
def atEnd (cur : Cursor) : Bool :=
  cur.rest.isEmpty

/-- Behind the next character. -/
def bump (cur : Cursor) : Cursor :=
  match cur.rest with
  | [] => cur
  | c :: rest => { cur with rest := rest, position := cur.position.past c }

/-- The empty stretch at the cursor. -/
def here (cur : Cursor) : Span :=
  ⟨cur.position, cur.position⟩

/-- The stretch of the next character. -/
def charSpan (cur : Cursor) : Span :=
  ⟨cur.position, cur.bump.position⟩

/-- The stretch from a place to the cursor. -/
def since (cur : Cursor) (start : Position) : Span :=
  ⟨start, cur.position⟩

/-- Behind characters that are known to be next. -/
def bumpMany : Nat → Cursor → Cursor
  | 0, cur => cur
  | n + 1, cur => bumpMany n cur.bump

/-- Behind a text, if it is next. -/
def bumpIf? (text : String) (cur : Cursor) : Option Cursor :=
  if text.toList.isPrefixOf cur.rest then some (bumpMany text.length cur) else none

/-- How many characters the blanks and comments at the front take. -/
def skippable (inComment : Bool) : List Char → Nat
  | [] => 0
  | c :: rest =>
      if inComment then 1 + skippable (c != '\n') rest
      else if isBlank c then 1 + skippable false rest
      else if c = '#' then 1 + skippable true rest
      else 0

/-- Past blanks and comments, where they do not count. -/
def skip (cur : Cursor) : Cursor :=
  if cur.verbose then bumpMany (skippable false cur.rest) cur else cur

/-- Behind the next character and the blanks and comments that follow it. -/
def advance (cur : Cursor) : Cursor :=
  cur.bump.skip

/-- The character that counts behind the next one.  One comment sign is looked
past, but not the comment it opens. -/
def peek? (cur : Cursor) : Option Char :=
  let after := cur.rest.drop 1
  if cur.verbose then
    match after.dropWhile isBlank with
    | [] => after.head?
    | '#' :: comment => (comment.dropWhile isBlank).head?.or after.head?
    | c :: _ => some c
  else after.head?

/-- Past blanks, whether or not they count. -/
def skipBlanks (cur : Cursor) : Cursor :=
  bumpMany (cur.rest.takeWhile isBlank).length cur

end Cursor

/-- Refuse a stretch. -/
def refuse {α : Type} (cause : Cause) (span : Span) : Except Fault α :=
  .error ⟨cause, span, none⟩

end BookCensus.Pattern
