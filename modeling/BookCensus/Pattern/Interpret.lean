import BookCensus.Pattern.Parser
import BookCensus.Pattern.Expr
import BookCensus.Unicode.Script
import BookCensus.Unicode.CaseFold

/-!
# From the written form to what it describes

Flags decide what the parts of a pattern describe.  A list of flags holds from
its place to the end of the group around it; the flags of a group hold inside
the group.  Where Unicode is switched off, only ASCII can be described, since
other bytes alone are no characters.
-/

namespace BookCensus.Pattern

open Text

/-- The flags in force. -/
structure Settings where
  ignoreCase : Bool
  multiLine : Bool
  dotAll : Bool
  unicode : Bool
  carriageReturn : Bool

/-- The flags at the beginning of a pattern. -/
def Settings.initial : Settings :=
  ⟨false, false, false, true, false⟩

/-- The flags with some set anew. -/
def Settings.update (s : Settings) (items : List FlagItem) : Settings where
  ignoreCase := (Flag.ignoreCase.setting? items).getD s.ignoreCase
  multiLine := (Flag.multiLine.setting? items).getD s.multiLine
  dotAll := (Flag.dotAll.setting? items).getD s.dotAll
  unicode := (Flag.unicode.setting? items).getD s.unicode
  carriageReturn := (Flag.carriageReturn.setting? items).getD s.carriageReturn

/-- The name of a property in the form of the tables: lower case, no spaces,
dashes or underscores, no `is` at the front, ASCII only. -/
def looseName (name : String) : String :=
  let cs := name.toList
  let isPrefixed := lowerChars (cs.take 2) = ['i', 's']
  let cs := if isPrefixed then cs.drop 2 else cs
  let kept := lowerChars (cs.filter fun c => c != ' ' && c != '_' && c != '-' && c.toNat < 0x80)
  if isPrefixed && kept = ['c'] then "isc" else String.ofList kept

/-- The characters that a class name stands for. -/
def ClassName.chars (name : ClassName) : Except Cause CharSet :=
  match name with
  | .named name =>
      let name := looseName name
      let property? := if ["cf", "sc", "lc"].contains name then none else Unicode.property? name
      match property?.or ((Unicode.category? name).or (Unicode.script? name)) with
      | some s => .ok s
      | none => .error .propertyNotFound
  | .valued property value =>
      let property := looseName property
      let value := looseName value
      let found (s? : Option CharSet) : Except Cause CharSet :=
        match s? with
        | some s => .ok s
        | none => .error .propertyValueNotFound
      if ["gc", "generalcategory"].contains property then found (Unicode.category? value)
      else if ["sc", "script"].contains property then found (Unicode.script? value)
      else if ["scx", "scriptextensions"].contains property then
        found (Unicode.scriptExtension? value)
      else if (Unicode.property? property).isSome then .error .propertyValueNotFound
      else .error .propertyNotFound

/-- The ASCII characters. -/
def asciiChars : CharSet :=
  .range 0 0x7f

/-- The word characters of any script. -/
def unicodeWord : CharSet :=
  let property (name : String) : CharSet := (Unicode.property? name).getD .empty
  ((property "alphabetic").union (property "joincontrol")).union
    (Unicode.ofCategories ["Mn", "Mc", "Me", "Nd", "Pc"])

/-- The characters of a shorthand. -/
def Shorthand.chars (unicode : Bool) : Shorthand → CharSet
  | .digit => if unicode then Unicode.ofCategories ["Nd"] else .range 0x30 0x39
  | .space =>
      if unicode then (Unicode.property? "whitespace").getD .empty
      else .ofRanges [(0x09, 0x0d), (0x20, 0x20)]
  | .word =>
      if unicode then unicodeWord
      else .ofRanges [(0x30, 0x39), (0x41, 0x5a), (0x5f, 0x5f), (0x61, 0x7a)]

namespace Settings

/-- A set with the other cases of its characters. -/
def fold (s : Settings) (set : CharSet) : CharSet :=
  if s.unicode then Unicode.foldClosure set else (Unicode.foldClosure set).inter asciiChars

/-- A class once its characters are known: first the other cases are added,
then what is negated is negated. -/
def complete (s : Settings) (span : Span) (negated : Bool) (set : CharSet) :
    Except Fault CharSet :=
  let set := if s.ignoreCase then s.fold set else set
  let set := if negated then set.complement else set
  if !s.unicode && !set.isAscii then refuse .invalidUtf8 span else .ok set

/-- A Unicode class. -/
def unicodeChars (s : Settings) (span : Span) (negated : Bool) (name : ClassName) :
    Except Fault CharSet :=
  if s.unicode then
    match name.chars with
    | .ok set => s.complete span negated set
    | .error cause => refuse cause span
  else refuse .unicodeNotAllowed span

/-- A shorthand, which has no cases. -/
def shorthandChars (s : Settings) (span : Span) (negated : Bool) (kind : Shorthand) :
    Except Fault CharSet :=
  { s with ignoreCase := false }.complete span negated (kind.chars s.unicode)

/-- A character inside brackets. -/
def classChar (s : Settings) (l : Literal) : Except Fault Char :=
  if s.unicode || l.char.toNat < 0x80 then .ok l.char
  else if l.isByte then refuse .invalidUtf8 l.span
  else refuse .unicodeNotAllowed l.span

/-- A character outside brackets. -/
def char (s : Settings) (l : Literal) : Except Fault Expr :=
  let set := CharSet.single l.char
  if s.unicode then .ok (.char (if s.ignoreCase then s.fold set else set))
  else if l.isByte && 0x80 ≤ l.char.toNat then refuse .invalidUtf8 l.span
  else if s.ignoreCase && l.char.toNat < 0x80 then .ok (.char (s.fold set))
  else .ok (.char set)

/-- Any character, short of the ends of lines unless they are included. -/
def dot (s : Settings) (span : Span) : Except Fault Expr :=
  if !s.unicode then refuse .invalidUtf8 span
  else if s.dotAll then .ok (.char .all)
  else if s.carriageReturn then
    .ok (.char ((CharSet.single '\r').union (.single '\n')).complement)
  else .ok (.char (CharSet.single '\n').complement)

/-- The condition that an assertion states. -/
def condition (s : Settings) : Assertion → Look
  | .lineStart => if s.multiLine then .lineStart s.carriageReturn else .textStart
  | .lineEnd => if s.multiLine then .lineEnd s.carriageReturn else .textEnd
  | .textStart => .textStart
  | .textEnd => .textEnd
  | .wordBoundary => .wordBoundary s.unicode
  | .noWordBoundary => .noWordBoundary s.unicode
  | .wordStart => .wordStart s.unicode
  | .wordEnd => .wordEnd s.unicode
  | .wordStartHalf => .wordStartHalf s.unicode
  | .wordEndHalf => .wordEndHalf s.unicode

end Settings

mutual

/-- The characters of what stands in brackets. -/
def ClassSyntax.chars (s : Settings) : ClassSyntax → Except Fault CharSet
  | .empty _ => .ok .empty
  | .literal l => do
      let c ← s.classChar l
      return .single c
  | .range _ first last => do
      let low ← s.classChar first
      let high ← s.classChar last
      return .range low.toNat high.toNat
  | .ascii span negated ranges => s.complete span negated ⟨ranges⟩
  | .unicode span negated name => s.unicodeChars span negated name
  | .shorthand span negated kind => s.shorthandChars span negated kind
  | .bracketed span negated body => do
      let set ← body.chars s
      s.complete span negated set
  | .union _ items => itemChars s items
  | .binary _ operator left right => do
      let left ← left.chars s
      let right ← right.chars s
      let left := if s.ignoreCase then s.fold left else left
      let right := if s.ignoreCase then s.fold right else right
      return match operator with
        | .intersection => left.inter right
        | .difference => left.diff right
        | .symmetricDifference => left.symmDiff right

/-- The characters of several items. -/
def itemChars (s : Settings) : List ClassSyntax → Except Fault CharSet
  | [] => .ok .empty
  | item :: rest => do
      let set ← item.chars s
      let more ← itemChars s rest
      return set.union more

end

mutual

/-- What a part of a pattern describes, and the flags in force behind it. -/
def Syntax.interpret (s : Settings) : Syntax → Except Fault (Expr × Settings)
  | .empty _ => .ok (.nothing, s)
  | .flags _ items => .ok (.nothing, s.update items)
  | .literal l => do
      let e ← s.char l
      return (e, s)
  | .dot span => do
      let e ← s.dot span
      return (e, s)
  | .assertion _ kind => .ok (.look (s.condition kind), s)
  | .unicode span negated name => do
      let set ← s.unicodeChars span negated name
      return (.char set, s)
  | .shorthand span negated kind => do
      let set ← s.shorthandChars span negated kind
      return (.char set, s)
  | .bracketed span negated body => do
      let set ← body.chars s
      let set ← s.complete span negated set
      return (.char set, s)
  | .repetition _ quantity body => do
      let (e, s) ← body.interpret s
      return (.repetition quantity.least quantity.most e, s)
  | .group _ .capturing body => do
      let (e, _) ← body.interpret s
      return (.capture e, s)
  | .group _ (.plain items) body => do
      let (e, _) ← body.interpret (s.update items)
      return (e, s)
  | .alternation _ branches => do
      let (es, s) ← interpretAll s branches
      return (.alternation es, s)
  | .sequence _ parts => do
      let (es, s) ← interpretAll s parts
      return (.sequence es, s)

/-- `Syntax.interpret` from part to part. -/
def interpretAll (s : Settings) : List Syntax → Except Fault (List Expr × Settings)
  | [] => .ok ([], s)
  | part :: rest => do
      let (e, s) ← part.interpret s
      let (es, s) ← interpretAll s rest
      return (e :: es, s)

end

end BookCensus.Pattern
