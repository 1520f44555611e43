/-!
# The written form of a pattern

A pattern is read into a tree that still knows where each part stands in the
text, because a part that has no meaning is reported together with its place.
-/

namespace BookCensus.Pattern

/-- A place between two characters: how many characters stand before it, and
its line and column, both counted from one. -/
structure Position where
  offset : Nat
  line : Nat
  column : Nat
  deriving DecidableEq, Repr

/-- The very beginning. -/
def Position.start : Position := ⟨0, 1, 1⟩

/-- The place behind a character. -/
def Position.past (p : Position) (c : Char) : Position :=
  if c = '\n' then ⟨p.offset + 1, p.line + 1, 1⟩ else ⟨p.offset + 1, p.line, p.column + 1⟩

/-- A stretch of the text. -/
structure Span where
  start : Position
  stop : Position
  deriving DecidableEq, Repr

/-- What reading can be told to do differently. -/
inductive Flag where
  | ignoreCase
  | multiLine
  | dotAll
  | swapGreed
  | unicode
  | carriageReturn
  | verbose
  deriving DecidableEq, Repr

/-- The letter of a flag. -/
def Flag.ofChar? : Char → Option Flag
  | 'i' => some .ignoreCase
  | 'm' => some .multiLine
  | 's' => some .dotAll
  | 'U' => some .swapGreed
  | 'u' => some .unicode
  | 'R' => some .carriageReturn
  | 'x' => some .verbose
  | _ => none

/-- A flag letter, or the dash behind which letters switch off. -/
structure FlagItem where
  span : Span
  flag : Option Flag
  deriving DecidableEq, Repr

/-- What a list of flag items says about one flag: the last word on it counts. -/
def Flag.setting? (flag : Flag) (items : List FlagItem) : Option Bool :=
  (items.foldl (fun (on, answer) item =>
    match item.flag with
    | none => (false, answer)
    | some f => (on, if f = flag then some on else answer))
    (true, (none : Option Bool))).2

/-- A character that stands for itself; two digits behind `\x` may also be
meant as a byte. -/
structure Literal where
  span : Span
  char : Char
  isByte : Bool
  deriving DecidableEq, Repr

/-- A condition on a place in the text. -/
inductive Assertion where
  | lineStart
  | lineEnd
  | textStart
  | textEnd
  | wordBoundary
  | noWordBoundary
  | wordStart
  | wordEnd
  | wordStartHalf
  | wordEndHalf
  deriving DecidableEq, Repr

/-- The classes with letters of their own: digits, blanks, word characters. -/
inductive Shorthand where
  | digit
  | space
  | word
  deriving DecidableEq, Repr

/-- The name of a Unicode class: a property, or a property and a value. -/
inductive ClassName where
  | named (name : String)
  | valued (property value : String)
  deriving DecidableEq, Repr

/-- The operations on classes. -/
inductive ClassOperator where
  | intersection
  | difference
  | symmetricDifference
  deriving DecidableEq, Repr

/-- What stands in brackets. -/
inductive ClassSyntax where
  | empty (span : Span)
  | literal (literal : Literal)
  | range (span : Span) (first last : Literal)
  | ascii (span : Span) (negated : Bool) (ranges : List (Nat × Nat))
  | unicode (span : Span) (negated : Bool) (name : ClassName)
  | shorthand (span : Span) (negated : Bool) (kind : Shorthand)
  | bracketed (span : Span) (negated : Bool) (body : ClassSyntax)
  | union (span : Span) (items : List ClassSyntax)
  | binary (span : Span) (operator : ClassOperator) (left right : ClassSyntax)

/-- How often a part is to be repeated: at least, and at most if there is a bound. -/
structure Quantity where
  least : Nat
  most : Option Nat
  deriving DecidableEq, Repr

/-- A group is captured, or only sets flags for what is inside. -/
inductive GroupKind where
  | capturing
  | plain (flags : List FlagItem)
  deriving DecidableEq, Repr

/-- The written form. -/
inductive Syntax where
  | empty (span : Span)
  | flags (span : Span) (items : List FlagItem)
  | literal (literal : Literal)
  | dot (span : Span)
  | assertion (span : Span) (kind : Assertion)
  | unicode (span : Span) (negated : Bool) (name : ClassName)
  | shorthand (span : Span) (negated : Bool) (kind : Shorthand)
  | bracketed (span : Span) (negated : Bool) (body : ClassSyntax)
  | repetition (span : Span) (quantity : Quantity) (body : Syntax)
  | group (span : Span) (kind : GroupKind) (body : Syntax)
  | alternation (span : Span) (branches : List Syntax)
  | sequence (span : Span) (parts : List Syntax)

/-- Where a part stands. -/
def Syntax.span : Syntax → Span
  | .empty span => span
  | .flags span _ => span
  | .literal l => l.span
  | .dot span => span
  | .assertion span _ => span
  | .unicode span _ _ => span
  | .shorthand span _ _ => span
  | .bracketed span _ _ => span
  | .repetition span _ _ => span
  | .group span _ _ => span
  | .alternation span _ => span
  | .sequence span _ => span

/-- Where an item of a class stands. -/
def ClassSyntax.span : ClassSyntax → Span
  | .empty span => span
  | .literal l => l.span
  | .range span _ _ => span
  | .ascii span _ _ => span
  | .unicode span _ _ => span
  | .shorthand span _ _ => span
  | .bracketed span _ _ => span
  | .union span _ => span
  | .binary span _ _ _ => span

end BookCensus.Pattern
