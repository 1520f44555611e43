import BookCensus.Pattern.Cursor
import BookCensus.Text.Ascii

/-!
# Escapes

A backslash makes a sign stand for itself, spells a character by its number,
names a class or a condition, or is refused.
-/

namespace BookCensus.Pattern

open Text

/-- One unit of a pattern outside brackets. -/
inductive Primitive where
  | literal (literal : Literal)
  | assertion (span : Span) (kind : Assertion)
  | dot (span : Span)
  | shorthand (span : Span) (negated : Bool) (kind : Shorthand)
  | unicode (span : Span) (negated : Bool) (name : ClassName)

namespace Primitive

/-- Where a unit stands. -/
def span : Primitive → Span
  | .literal l => l.span
  | .assertion s _ => s
  | .dot s => s
  | .shorthand s _ _ => s
  | .unicode s _ _ => s

/-- A unit as a part of a pattern. -/
def toSyntax : Primitive → Syntax
  | .literal l => .literal l
  | .assertion s kind => .assertion s kind
  | .dot s => .dot s
  | .shorthand s negated kind => .shorthand s negated kind
  | .unicode s negated name => .unicode s negated name

/-- A unit as an item of a class: conditions are none. -/
def toItem : Primitive → Except Fault ClassSyntax
  | .literal l => .ok (.literal l)
  | .shorthand s negated kind => .ok (.shorthand s negated kind)
  | .unicode s negated name => .ok (.unicode s negated name)
  | p => refuse .classEscapeInvalid p.span

/-- A unit as an end of a range: only characters are. -/
def toLiteral : Primitive → Except Fault Literal
  | .literal l => .ok l
  | p => refuse .classRangeLiteral p.span

end Primitive

/-- The signs with a meaning of their own. -/
def isMeta (c : Char) : Bool :=
  "\\.+*?()|[]\x7b\x7d^$#&-~".toList.contains c

/-- The characters that may be escaped without need: those of ASCII that are
neither letters nor digits nor angle brackets. -/
def isEscapable (c : Char) : Bool :=
  isMeta c
    || (c.toNat < 0x80 && !isLetter c && !isDigit c && c != '<' && c != '>')

/-- The character spelled by digits in base sixteen.  Numbers with more than
eight digits that count are too large for any character. -/
def spelledChar? (digits : List Char) : Option Char :=
  charOfCode? (hexadecimalValue digits)

/-- As many hexadecimal digits as a letter asks for. -/
def fixedHex (start : Position) (isByte : Bool) :
    Nat → List Char → Position → Reader Literal
  | 0, digits, first, cur =>
      match spelledChar? digits.reverse with
      | some c => .ok (⟨cur.since start, c, isByte && c.toNat < 0x100⟩, cur)
      | none => refuse .escapeHexInvalid (cur.since first)
  | n + 1, digits, first, cur =>
      match cur.char? with
      | none => refuse .escapeUnexpectedEnd cur.here
      | some c =>
          if isHexDigit c then fixedHex start isByte n (c :: digits) first cur.advance
          else refuse .escapeHexInvalidDigit cur.charSpan

/-- Hexadecimal digits up to a closing brace. -/
def bracedHex (start brace first : Position) : Nat → List Char → Reader Literal
  | 0, _, cur => refuse .escapeUnexpectedEnd (cur.since brace)
  | fuel + 1, digits, cur =>
      match cur.char? with
      | none => refuse .escapeUnexpectedEnd (cur.since brace)
      | some '}' =>
          let past := cur.advance
          if digits.isEmpty then refuse .escapeHexEmpty (past.since brace)
          else
            match spelledChar? digits.reverse with
            | some c => .ok (⟨past.since start, c, false⟩, past)
            | none => refuse .escapeHexInvalid (cur.since first)
      | some c =>
          if isHexDigit c then bracedHex start brace first fuel (c :: digits) cur.advance
          else refuse .escapeHexInvalidDigit cur.charSpan

/-- A character spelled by its number, from the letter on. -/
def hexLiteral (start : Position) (letter : Char) : Reader Literal := fun cur =>
  let digits := cur.advance
  match digits.char? with
  | none => refuse .escapeUnexpectedEnd digits.here
  | some '{' =>
      bracedHex start digits.position digits.charSpan.stop digits.rest.length [] digits.advance
  | some _ =>
      let count := if letter = 'x' then 2 else if letter = 'u' then 4 else 8
      fixedHex start (letter = 'x') count [] digits.position digits

/-- The name of a class in braces, split at a sign of equality. -/
def ClassName.ofChars (cs : List Char) : ClassName :=
  let cut (mark : List Char) : Option (List Char × List Char) :=
    (List.range cs.length).findSome? fun i =>
      (mark.isPrefixOf? (cs.drop i)).map fun after => (cs.take i, after)
  match (cut ['!', '=']).or ((cut [':']).or (cut ['='])) with
  | some (property, value) => .valued (String.ofList property) (String.ofList value)
  | none => .named (String.ofList cs)

/-- The characters of a class name up to the closing brace. -/
def bracedName : Nat → List Char → Reader (List Char)
  | 0, _, cur => refuse .escapeUnexpectedEnd cur.here
  | fuel + 1, name, cur =>
      match cur.char? with
      | none => refuse .escapeUnexpectedEnd cur.here
      | some '}' => .ok (name.reverse, cur.bump)
      | some c => bracedName fuel (c :: name) cur.advance

/-- A Unicode class, from the letter on. -/
def unicodeClass (start : Position) (negated : Bool) : Reader Primitive := fun cur => do
  let name := cur.advance
  match name.char? with
  | none => refuse .escapeUnexpectedEnd name.here
  | some '{' =>
      let (cs, past) ← bracedName name.rest.length [] name.advance
      return (.unicode (past.since start) negated (.ofChars cs), past)
  | some '\\' => refuse .unicodeClassInvalid name.charSpan
  | some c =>
      let past := name.advance
      return (.unicode (past.since start) negated (.named (String.singleton c)), past)

/-- The letters and dashes of a named boundary. -/
def boundaryName : Nat → List Char → Cursor → List Char × Cursor
  | 0, name, cur => (name.reverse, cur)
  | fuel + 1, name, cur =>
      match cur.char? with
      | some c =>
          if isLetter c || c = '-' then boundaryName fuel (c :: name) cur.advance
          else (name.reverse, cur)
      | none => (name.reverse, cur)

/-- What may follow `\b`: a boundary named in braces.  Braces around anything
that cannot be a name are left for a repetition. -/
def namedBoundary? (start : Position) (cur : Cursor) :
    Except Fault (Option (Assertion × Cursor)) :=
  match cur.char? with
  | some '{' =>
      let inside := cur.advance
      match inside.char? with
      | none => refuse .wordBoundaryUnexpectedEnd (inside.since start)
      | some c =>
          if isLetter c || c = '-' then
            let (name, past) := boundaryName inside.rest.length [] inside
            if past.char? = some '}' then
              let kind? : Option Assertion :=
                match String.ofList name with
                | "start" => some .wordStart
                | "end" => some .wordEnd
                | "start-half" => some .wordStartHalf
                | "end-half" => some .wordEndHalf
                | _ => none
              match kind? with
              | some kind => .ok (some (kind, past.bump))
              | none => refuse .wordBoundaryUnrecognized (past.since inside.position)
            else refuse .wordBoundaryUnclosed (past.since cur.position)
          else .ok none
  | _ => .ok none

/-- The escapes of a single letter. -/
def letterEscape (span : Span) : Char → Except Fault Primitive
  | 'a' => .ok (.literal ⟨span, '\x07', false⟩)
  | 'f' => .ok (.literal ⟨span, '\x0c', false⟩)
  | 't' => .ok (.literal ⟨span, '\t', false⟩)
  | 'n' => .ok (.literal ⟨span, '\n', false⟩)
  | 'r' => .ok (.literal ⟨span, '\r', false⟩)
  | 'v' => .ok (.literal ⟨span, '\x0b', false⟩)
  | 'd' => .ok (.shorthand span false .digit)
  | 's' => .ok (.shorthand span false .space)
  | 'w' => .ok (.shorthand span false .word)
  | 'D' => .ok (.shorthand span true .digit)
  | 'S' => .ok (.shorthand span true .space)
  | 'W' => .ok (.shorthand span true .word)
  | 'A' => .ok (.assertion span .textStart)
  | 'z' => .ok (.assertion span .textEnd)
  | 'b' => .ok (.assertion span .wordBoundary)
  | 'B' => .ok (.assertion span .noWordBoundary)
  | '<' => .ok (.assertion span .wordStart)
  | '>' => .ok (.assertion span .wordEnd)
  | c =>
      if isEscapable c then .ok (.literal ⟨span, c, false⟩)
      else refuse .escapeUnrecognized span

/-- An escape, from the backslash on. -/
def escape : Reader Primitive := fun cur => do
  let start := cur.position
  let letter := cur.bump
  match letter.char? with
  | none => refuse .escapeUnexpectedEnd (letter.since start)
  | some c =>
      let past := letter.bump
      if isDigit c then refuse .unsupportedBackreference (past.since start)
      else if c = 'x' || c = 'u' || c = 'U' then
        let (l, past) ← hexLiteral start c letter
        return (.literal l, past)
      else if c = 'p' || c = 'P' then unicodeClass start (c = 'P') letter
      else if c = 'b' then
        match ← namedBoundary? start past with
        | some (kind, past) => return (.assertion (past.since start) kind, past)
        | none => return (.assertion (past.since start) .wordBoundary, past)
      else
        let unit ← letterEscape (past.since start) c
        return (unit, past)

/-- A number in base ten with blanks around it allowed.  The answer has the
digits, none if there were none, and their stretch. -/
def decimalDigits (cur : Cursor) : List Char × Span × Cursor :=
  let start := cur.skipBlanks
  let rec digits : Nat → List Char → Cursor → List Char × Cursor
    | 0, ds, cur => (ds.reverse, cur)
    | fuel + 1, ds, cur =>
        match cur.char? with
        | some c => if isDigit c then digits fuel (c :: ds) cur.advance else (ds.reverse, cur)
        | none => (ds.reverse, cur)
  let (ds, past) := digits start.rest.length [] start
  (ds, past.since start.position, past.skipBlanks)

/-- A count: a number that fits thirty-two bits. -/
def count : Reader (Except Fault Nat) := fun cur =>
  let (ds, span, past) := decimalDigits cur
  let value := decimalValue ds
  if ds.isEmpty then .ok (refuse .repetitionCountEmpty span, past)
  else if value < 4294967296 then .ok (.ok value, past)
  else .ok (refuse .decimalInvalid span, past)

end BookCensus.Pattern
