import BookCensus.Selector.Hybrid
import BookCensus.Css.Parser
import BookCensus.Css.Match
import BookCensus.Css.Wording
import BookCensus.Pattern

/-!
# Compiled selectors

A plan is a hybrid selector whose parts have been read: the base, and a filter
on the elements that it matches.  What the argument of `:hasText` means is
decided by a mode: a piece of text, or a pattern.
-/

namespace BookCensus

open Text

/-- What the argument of `:hasText` is taken for. -/
inductive TextMatch where
  | substring
  | pattern
  deriving DecidableEq, Repr, Inhabited

/-- The name of a mode. -/
def TextMatch.name : TextMatch → String
  | .substring => "substring"
  | .pattern => "pattern"

/-- The mode with a name. -/
def TextMatch.ofName? : String → Option TextMatch
  | "substring" => some .substring
  | "pattern" => some .pattern
  | _ => none

/-- A test for the text of an element: it has a piece in it, or a pattern fits
somewhere in it. -/
inductive TextTest where
  | substring (needle : String)
  | pattern (pattern : Pattern)
  deriving Repr

namespace TextTest

/-- The test for the argument of `:hasText`.  Blanks count as single spaces in
a piece of text, as they do in the text of elements. -/
def compile (argument : String) : TextMatch → Except SelectorError TextTest
  | .substring => .ok (.substring (collapse argument))
  | .pattern =>
      match Pattern.compile argument with
      | .ok p => .ok (.pattern p)
      | .error cause => .error (.invalidPattern argument cause)

/-- Whether a text passes a test. -/
def accepts (text : String) : TextTest → Bool
  | .substring needle => contains text needle
  | .pattern p => p.isMatch text

end TextTest

/-- A structural selector that was read, with the text it was read from. -/
structure Structural where
  source : String
  list : Css.SelectorList

variable [Css.Wording]

namespace Structural

/-- Read a structural selector, whose blanks at both ends do not count.  It is refused under the
text as it was given, with what the engine says of the text without those blanks. -/
def compile (source : String) : Except SelectorError Structural :=
  let text := trimBlank source.toList
  match Css.SelectorList.parse? text with
  | some list => .ok ⟨source, list⟩
  | none => .error (.malformed source (Css.Wording.complaint text))

end Structural

/-- What is asked of the elements that the base of a selector matches. -/
inductive MatchFilter where
  | all
  | hasDescendant (inner : Structural)
  | hasText (test : TextTest)

/-- A hybrid selector with its parts read. -/
structure Plan where
  selector : Hybrid
  base : Structural
  filter : MatchFilter

namespace Plan

/-- The filter that an operator stands for. -/
def filterOf (mode : TextMatch) : PseudoOperator → Except SelectorError MatchFilter
  | .none => .ok .all
  | .has inner => (Structural.compile inner).map .hasDescendant
  | .hasText argument => (TextTest.compile argument mode).map .hasText

/-- Read the parts of a hybrid selector, the base first. -/
def compile (selector : Hybrid) (mode : TextMatch) : Except SelectorError Plan := do
  let base ← Structural.compile selector.base
  let filter ← filterOf mode selector.operator
  return ⟨selector, base, filter⟩

/-- Read a selector and its parts. -/
def parse (text : String) (mode : TextMatch) : Except SelectorError Plan := do
  let selector ← Hybrid.parse text
  compile selector mode

end Plan

end BookCensus
