import BookCensus.Pattern.Escape

/-!
# Classes in brackets

Inside brackets stand characters, ranges, named classes and further brackets.
What stands side by side is joined; `&&`, `--` and `~~` combine everything to
their left with everything up to the next of them.

The classes that are open are kept innermost first.
-/

namespace BookCensus.Pattern

open Text

/-- A class whose closing bracket has not been reached: the stretch of its
opening, whether it is negated, what stands left of the last operator, and the
items since then with the latest first. -/
structure OpenClass where
  opening : Span
  negated : Bool
  left : Option (ClassOperator × ClassSyntax)
  since : Position
  items : List ClassSyntax

namespace OpenClass

/-- Add an item. -/
def push (c : OpenClass) (item : ClassSyntax) : OpenClass :=
  { c with items := item :: c.items }

/-- The items since the last operator, joined. -/
def joined (c : OpenClass) : ClassSyntax :=
  match c.items.reverse with
  | [] => .empty ⟨c.since, c.since⟩
  | [item] => item
  | first :: more =>
      .union ⟨first.span.start, ((first :: more).getLast?.getD first).span.stop⟩ (first :: more)

/-- Everything so far. -/
def body (c : OpenClass) : ClassSyntax :=
  match c.left with
  | none => c.joined
  | some (operator, left) =>
      .binary ⟨left.span.start, c.joined.span.stop⟩ operator left c.joined

/-- Everything so far becomes the left side of an operator. -/
def operate (c : OpenClass) (operator : ClassOperator) (since : Position) : OpenClass :=
  { c with left := some (operator, c.body), since := since, items := [] }

end OpenClass

/-- The named classes of ASCII. -/
def asciiClass? : String → Option (List (Nat × Nat))
  | "alnum" => some [(0x30, 0x39), (0x41, 0x5a), (0x61, 0x7a)]
  | "alpha" => some [(0x41, 0x5a), (0x61, 0x7a)]
  | "ascii" => some [(0x00, 0x7f)]
  | "blank" => some [(0x09, 0x09), (0x20, 0x20)]
  | "cntrl" => some [(0x00, 0x1f), (0x7f, 0x7f)]
  | "digit" => some [(0x30, 0x39)]
  | "graph" => some [(0x21, 0x7e)]
  | "lower" => some [(0x61, 0x7a)]
  | "print" => some [(0x20, 0x7e)]
  | "punct" => some [(0x21, 0x2f), (0x3a, 0x40), (0x5b, 0x60), (0x7b, 0x7e)]
  | "space" => some [(0x09, 0x0d), (0x20, 0x20)]
  | "upper" => some [(0x41, 0x5a)]
  | "word" => some [(0x30, 0x39), (0x41, 0x5a), (0x5f, 0x5f), (0x61, 0x7a)]
  | "xdigit" => some [(0x30, 0x39), (0x41, 0x46), (0x61, 0x66)]
  | _ => none

/-- A named class of ASCII between `[:` and `:]`, if one is spelled here. -/
def asciiItem? (cur : Cursor) : Option (ClassSyntax × Cursor) :=
  match cur.bumpIf? "[:" with
  | none => none
  | some inside =>
      let (negated, name) :=
        match inside.bumpIf? "^" with
        | some past => (true, past)
        | none => (false, inside)
      let letters := name.rest.takeWhile (· != ':')
      match (Cursor.bumpMany letters.length name).bumpIf? ":]" with
      | none => none
      | some past =>
          (asciiClass? (String.ofList letters)).map fun ranges =>
            (.ascii (past.since cur.position) negated ranges, past)

/-- The opening of a class: a caret negates it, dashes at the front stand for
themselves, and so does a closing bracket that would leave the class empty. -/
def openClass : Reader OpenClass := fun cur => do
  let start := cur.position
  let unclosed {α : Type} (stop : Position) : Except Fault α := refuse .classUnclosed ⟨start, stop⟩
  let inside := cur.advance
  if inside.atEnd then unclosed inside.position
  let (negated, inside) :=
    if inside.char? = some '^' then (true, inside.advance) else (false, inside)
  if inside.atEnd then unclosed inside.position
  let since := inside.position
  let rec dashes : Nat → List ClassSyntax → Cursor → List ClassSyntax × Cursor
    | 0, items, cur => (items, cur)
    | fuel + 1, items, cur =>
        if cur.char? = some '-' then
          dashes fuel (.literal ⟨cur.charSpan, '-', false⟩ :: items) cur.advance
        else (items, cur)
  let (items, inside) := dashes inside.rest.length [] inside
  if inside.atEnd then unclosed start
  if items.isEmpty && inside.char? = some ']' then
    let past := inside.advance
    if past.atEnd then unclosed past.position
    let items := [.literal ⟨inside.charSpan, ']', false⟩]
    return (⟨past.since start, negated, none, since, items⟩, past)
  return (⟨inside.since start, negated, none, since, items⟩, inside)

/-- One unit inside brackets. -/
def classUnit : Reader Primitive := fun cur =>
  match cur.char? with
  | some '\\' => escape cur
  | some c => .ok (.literal ⟨cur.charSpan, c, false⟩, cur.bump)
  | none => refuse .classUnclosed cur.here

/-- A unit or a range inside a class whose opening is given. -/
def classItem (opening : Span) : Reader ClassSyntax := fun cur => do
  let (first, cur) ← classUnit cur
  let cur := cur.skip
  if cur.atEnd then refuse .classUnclosed opening
  let next := cur.peek?
  if cur.char? != some '-' || next = some ']' || next = some '-' then
    return (← first.toItem, cur)
  let cur := cur.advance
  if cur.atEnd then refuse .classUnclosed opening
  let (last, cur) ← classUnit cur
  let span : Span := ⟨first.span.start, last.span.stop⟩
  let low ← first.toLiteral
  let high ← last.toLiteral
  if high.char < low.char then refuse .classRangeInvalid span
  return (.range span low high, cur)

/-- Read until the outermost class is closed. -/
def classRest : Nat → OpenClass → List OpenClass → Reader Syntax
  | 0, inner, _, _ => refuse .classUnclosed inner.opening
  | fuel + 1, inner, outer, cur => do
      let cur := cur.skip
      let operator? (text : String) (operator : ClassOperator) : Option (OpenClass × Cursor) :=
        (cur.bumpIf? text).map fun past => (inner.operate operator past.position, past)
      match cur.char? with
      | none => refuse .classUnclosed inner.opening
      | some '[' =>
          match asciiItem? cur with
          | some (item, past) => classRest fuel (inner.push item) outer past
          | none =>
              let (opened, past) ← openClass cur
              classRest fuel opened (inner :: outer) past
      | some ']' =>
          let past := cur.bump
          let span := past.since inner.opening.start
          match outer with
          | [] => return (.bracketed span inner.negated inner.body, past)
          | parent :: outer =>
              let closed : ClassSyntax := .bracketed span inner.negated inner.body
              classRest fuel (parent.push closed) outer past
      | some _ =>
          match (operator? "&&" .intersection).or
              ((operator? "--" .difference).or (operator? "~~" .symmetricDifference)) with
          | some (operated, past) => classRest fuel operated outer past
          | none =>
              let (item, past) ← classItem inner.opening cur
              classRest fuel (inner.push item) outer past

/-- A class, from its opening bracket on. -/
def bracketed : Reader Syntax := fun cur => do
  let (opened, past) ← openClass cur
  classRest cur.rest.length opened [] past

end BookCensus.Pattern
