import BookCensus.Css.Selector
import BookCensus.Css.Nth

/-!
# Reading structural selectors

A selector list is read from the components of its text.  A part that cannot be
read makes the whole list unreadable, except inside the two forgiving tests
`:is` and `:where`: there it becomes a selector that holds of no element,
unless a mistake stands among the components that had not been looked at when
reading stopped.  So every reader answers with what is left also when it fails.
-/

namespace BookCensus.Css

open Text

/-- The answer of a reader: what it read, or failure, and the components it left. -/
inductive Reading (α : Type) where
  | read (value : α) (rest : List Component)
  | failed (rest : List Component)

/-- What may not stand in the selector under way: a test for relatives inside
another, a combinator where a single compound is due. -/
structure Limits where
  insideHas : Bool
  compoundOnly : Bool

/-- A list is strict, forgiving, or a list of selectors relative to an anchor. -/
inductive ListKind where
  | strict
  | forgiving
  | relative
  deriving DecidableEq

/-- Split at the commas. -/
def splitCommas (cs : List Component) : List (List Component) :=
  match cs with
  | [] => [[]]
  | c :: rest =>
      match splitCommas rest with
      | [] => [[c]]
      | part :: parts => if c.isComma then [] :: part :: parts else (c :: part) :: parts

/-- The local name after a bar; a star will do outside attribute tests. -/
def afterBar (inAttribute : Bool) : List Component → Reading (Option String)
  | .token (.ident name) :: rest => .read (some name) rest
  | .token (.delim '*') :: rest => if inAttribute then .failed rest else .read none rest
  | _ :: rest => .failed rest
  | [] => .failed []

/-- The type selector at the front, if there is one.  No prefix is declared, so
a name before a bar is refused. -/
def typeSelector (cs : List Component) : Reading (Option (List Simple)) :=
  let named : Option String → List Simple
    | some name => [.typeName name]
    | none => [.universal]
  match cs with
  | .token (.ident _) :: .token (.delim '|') :: rest => .failed rest
  | .token (.ident name) :: rest => .read (some [.typeName name]) rest
  | .token (.delim '*') :: .token (.delim '|') :: rest =>
      match afterBar false rest with
      | .read name rest => .read (some (named name)) rest
      | .failed rest => .failed rest
  | .token (.delim '*') :: rest => .read (some [.universal]) rest
  | .token (.delim '|') :: rest =>
      match afterBar false rest with
      | .read name rest => .read (some (.noNamespace :: named name)) rest
      | .failed rest => .failed rest
  | _ => .read none cs

/-- The combinator at the front, if there is one.  Spaces make one unless they
end the selector. -/
def combinator? (cs : List Component) : Option (Combinator × List Component) :=
  match Nth.skipSpaces cs with
  | .token (.delim '>') :: rest => some (.child, rest)
  | .token (.delim '+') :: rest => some (.nextSibling, rest)
  | .token (.delim '~') :: rest => some (.laterSibling, rest)
  | [] => none
  | rest => if cs.head?.any Component.isSpace then some (.descendant, rest) else none

/-- The name of an attribute at the front, and whether it may be in any
namespace. -/
def attributeName? (cs : List Component) : Option ((Bool × String) × List Component) :=
  match cs with
  | .token (.ident _) :: .token (.delim '|') :: _ => none
  | .token (.ident name) :: rest => some ((false, name), rest)
  | .token (.delim '*') :: .token (.delim '|') :: .token (.ident name) :: rest =>
      some ((true, name), rest)
  | .token (.delim '|') :: .token (.ident name) :: rest => some ((false, name), rest)
  | _ => none

/-- The comparison that a sign asks for. -/
def comparison? : Component → Option Comparison
  | .token (.delim '=') => some .equal
  | .token (.sign .includes) => some .includes
  | .token (.sign .dash) => some .dash
  | .token (.sign .starts) => some .starts
  | .token (.sign .ends) => some .ends
  | .token (.sign .within) => some .within
  | _ => none

/-- The flag after a value; without one the name of the attribute decides. -/
def caseRule? (anyNamespace : Bool) (name : String) (cs : List Component) : Option CaseRule :=
  match Nth.skipSpaces cs with
  | [] =>
      if !anyNamespace && caselessAttributes.contains (lower name) then some .ignoringOnHtml
      else some .exact
  | .token (.ident flag) :: rest =>
      if !(Nth.skipSpaces rest).isEmpty then none
      else if sameIgnoringCase flag "i" then some .ignoring
      else if sameIgnoringCase flag "s" then some .exact
      else none
  | _ => none

/-- The attribute test inside square brackets. -/
def attributeTest? (cs : List Component) : Option AttributeTest := do
  let ((anyNamespace, name), rest) ← attributeName? (Nth.skipSpaces cs)
  match Nth.skipSpaces rest with
  | [] => some ⟨anyNamespace, name, none⟩
  | sign :: rest =>
      let comparison ← comparison? sign
      match Nth.skipSpaces rest with
      | .token (.ident value) :: rest
      | .token (.string value) :: rest =>
          let caseRule ← caseRule? anyNamespace name rest
          some ⟨anyNamespace, name, some ⟨comparison, value, caseRule⟩⟩
      | _ => none

/-- The tests that a name after a colon stands for. -/
def namedTest? (name : String) : Option (List Simple) :=
  let first (sameType : Bool) : Simple := .place ⟨false, sameType, 0, 1⟩
  let last (sameType : Bool) : Simple := .place ⟨true, sameType, 0, 1⟩
  match lower name with
  | "first-child" => some [first false]
  | "last-child" => some [last false]
  | "only-child" => some [first false, last false]
  | "first-of-type" => some [first true]
  | "last-of-type" => some [last true]
  | "only-of-type" => some [first true, last true]
  | "root" => some [.root]
  | "empty" => some [.empty]
  | "scope" => some [.scope]
  | _ => none

/-- The test of places that a name before a series stands for. -/
def placeTest? (name : String) (cs : List Component) : Option Simple := do
  let (fromEnd, sameType) ← match name with
    | "nth-child" => some (false, false)
    | "nth-of-type" => some (false, true)
    | "nth-last-child" => some (true, false)
    | "nth-last-of-type" => some (true, true)
    | _ => none
  let ((step, offset), rest) ← Nth.ofComponents? cs
  if (Nth.skipSpaces rest).isEmpty then some (.place ⟨fromEnd, sameType, step, offset⟩) else none

mutual

/-- The selectors of a list, none where the list cannot be read. -/
def selectors? : Nat → Limits → ListKind → List (List Component) → Option (List Complex)
  | _, _, _, [] => some []
  | 0, _, _, _ => none
  | fuel + 1, limits, kind, part :: parts =>
      let settle (selector? : Option Complex) (rest : List Component) : Option Complex :=
        match selector? with
        | some selector => some selector
        | none => if kind == .forgiving && Component.allSound rest then some .invalid else none
      let answer := match complex fuel limits kind part with
        | .read selector rest =>
            let rest := Nth.skipSpaces rest
            settle (if rest.isEmpty then some selector else none) rest
        | .failed rest => settle none rest
      match answer with
      | none => none
      | some selector => (selectors? fuel limits kind parts).map (selector :: ·)

/-- One complex selector. -/
def complex : Nat → Limits → ListKind → List Component → Reading Complex
  | 0, _, _, cs => .failed cs
  | fuel + 1, limits, kind, cs =>
      let cs := Nth.skipSpaces cs
      if kind == .relative then
        let (lead, cs) := (combinator? cs).getD (.descendant, cs)
        match compound fuel limits cs with
        | .read [] rest => .failed rest
        | .read tests rest => chain fuel limits (.join (.compound [.anchor]) lead tests) rest
        | .failed rest => .failed rest
      else
        match compound fuel limits cs with
        | .read [] rest => .failed rest
        | .read tests rest => chain fuel limits (.compound tests) rest
        | .failed rest => .failed rest

/-- The combinators and compounds that follow `left`. -/
def chain : Nat → Limits → Complex → List Component → Reading Complex
  | 0, _, _, cs => .failed cs
  | fuel + 1, limits, left, cs =>
      match combinator? cs with
      | none => .read left cs
      | some (combinator, rest) =>
          if limits.compoundOnly then .failed rest
          else
            match compound fuel limits rest with
            | .read [] rest => .failed rest
            | .read tests rest => chain fuel limits (.join left combinator tests) rest
            | .failed rest => .failed rest

/-- One compound: a type selector, perhaps, and any number of other tests. -/
def compound : Nat → Limits → List Component → Reading (List Simple)
  | 0, _, cs => .failed cs
  | fuel + 1, limits, cs =>
      match typeSelector (Nth.skipSpaces cs) with
      | .failed rest => .failed rest
      | .read type rest => tests fuel limits (type.getD []) rest

/-- The tests after those already read. -/
def tests : Nat → Limits → List Simple → List Component → Reading (List Simple)
  | 0, _, _, cs => .failed cs
  | fuel + 1, limits, done, cs =>
      match cs with
      | .token (.idHash name) :: rest => tests fuel limits (done ++ [.id name]) rest
      | .token (.delim '.') :: .token (.ident name) :: rest =>
          tests fuel limits (done ++ [.hasClass name]) rest
      | .token (.delim '.') :: rest => .failed (rest.drop 1)
      | .block .square contents :: rest =>
          match attributeTest? contents with
          | some test => tests fuel limits (done ++ [.attribute test]) rest
          | none => .failed rest
      | .token .colon :: .token (.ident name) :: rest =>
          match namedTest? name with
          | some named => tests fuel limits (done ++ named) rest
          | none => .failed rest
      | .token .colon :: .call name contents :: rest =>
          match functionalTest? fuel limits (lower name) contents with
          | some test => tests fuel limits (done ++ [test]) rest
          | none => .failed rest
      | .token .colon :: .token .colon :: rest => .failed (rest.drop 1)
      | .token .colon :: rest => .failed (rest.drop 1)
      | _ => .read done cs

/-- The test that a name in lower case and its argument stand for. -/
def functionalTest? : Nat → Limits → String → List Component → Option Simple
  | 0, _, _, _ => none
  | fuel + 1, limits, name, contents =>
      match name with
      | "is" | "where" =>
          (selectors? fuel limits .forgiving (splitCommas contents)).map .matchesAny
      | "not" => (selectors? fuel limits .strict (splitCommas contents)).map .matchesNone
      | "has" =>
          if limits.insideHas then none
          else
            (selectors? fuel ⟨true, limits.compoundOnly⟩ .relative (splitCommas contents)).map
              .hasRelative
      | "host" =>
          match complex fuel ⟨limits.insideHas, true⟩ .strict contents with
          | .read _ rest => if (Nth.skipSpaces rest).isEmpty then some .never else none
          | .failed _ => none
      | _ => placeTest? name contents

end

/-- The selector list that a text denotes, if it denotes one. -/
def SelectorList.parse? (text : List Char) : Option SelectorList :=
  let components := Component.ofTokens (Token.ofText text)
  selectors? (8 * text.length + 16) ⟨false, false⟩ .strict (splitCommas components)

end BookCensus.Css
