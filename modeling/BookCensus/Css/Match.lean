import BookCensus.Css.Selector
import BookCensus.Css.Nth
import BookCensus.Document.Place
import BookCensus.Text.Search

/-!
# Which elements a selector matches

A complex selector is matched from its right end: the element must pass the
last compound, and some element that stands to it as the combinator says must
match what is left of the chain.  Combinators look at the whole document, not
only below the element at which a query starts.

A query has a *scope*, the element that `:scope` stands for; without one it
stands for the root.  Inside a test for relatives the *anchor* is the element
whose relatives are being tried.
-/

namespace BookCensus.Css

open Document Text

/-- What `:scope` and the anchor stand for. -/
structure Setting where
  scope : Option Nat
  anchor : Option Nat

namespace ValueTest

/-- Letters brought to the form in which they are compared. -/
def fold (ignoreCase : Bool) (s : String) : List Char :=
  if ignoreCase then lowerChars s.toList else s.toList

/-- The pieces of a value between single separators. -/
def pieces (cs : List Char) : List (List Char) :=
  cs.splitOnP isSpaceChar

/-- Whether the value of an attribute of an element passes.  An empty text stands
at the beginning, at the end and inside of every value. -/
def holds (test : ValueTest) (onHtml : Bool) (actual : String) : Bool :=
  let ignoreCase := match test.caseRule with
    | .exact => false
    | .ignoring => true
    | .ignoringOnHtml => onHtml
  let given := fold ignoreCase actual
  let want := fold ignoreCase test.value
  match test.comparison with
  | .equal => given == want
  | .includes => (pieces given).contains want
  | .dash => given == want || (want ++ ['-']).isPrefixOf given
  | .starts => want.isPrefixOf given
  | .ends => want.isSuffixOf given
  | .within => occursIn want given

end ValueTest

namespace AttributeTest

/-- Whether an element has an attribute that passes.  Names on HTML elements
are in lower case. -/
def holds (test : AttributeTest) (e : Element) : Bool :=
  let onHtml := e.space == .html
  let name := if onHtml then lower test.name else test.name
  e.attributes.any fun a =>
    (test.anyNamespace || a.space == .none) && a.name == name
      && (test.value.all fun v => v.holds onHtml a.value)

end AttributeTest

namespace PlaceTest

/-- The place of an element among its siblings, counted from one. -/
def indexOf (test : PlaceTest) (p : Place) : Nat :=
  let side := if test.fromEnd then p.spot.after else p.spot.before
  let counts (n : Node) : Bool :=
    match n with
    | .element data _ => !test.sameType || data.sameType p.data
    | _ => false
  side.countP counts + 1

/-- Whether the place of an element is in the series. -/
def holds (test : PlaceTest) (p : Place) : Bool :=
  Nth.holds test.step test.offset (test.indexOf p)

end PlaceTest

/-- The elements that may stand on the left of a combinator, nearest first. -/
def Combinator.candidates (p : Place) : Combinator → List Place
  | .descendant => p.ancestors
  | .child => p.parent?.toList
  | .nextSibling => p.previousSibling?.toList
  | .laterSibling => p.earlierSiblings

/-- The elements among which the relatives of an element are sought: those below
it, and its later siblings with those below them. -/
def relatives (p : Place) : List Place :=
  p.descendants ++ p.laterSiblings.flatMap fun q => q :: q.descendants

mutual

/-- Whether an element passes a simple test. -/
def Simple.holds (setting : Setting) (p : Place) : Simple → Bool
  | .universal => true
  | .typeName name =>
      p.data.name == (if p.data.space == .html then lower name else name)
  | .noNamespace => false
  | .id name => p.data.id? == some name
  | .hasClass name =>
      (p.data.attribute? "class").any fun value => (words value.toList).contains name.toList
  | .attribute test => test.holds p.data
  | .root => p.isRoot
  | .empty => !p.children.any fun n => n.isElement || n.isText
  | .scope =>
      match setting.scope with
      | some serial => p.serial == serial
      | none => p.isRoot
  | .place test => test.holds p
  | .matchesAny list => anyHolds setting p list
  | .matchesNone list => !anyHolds setting p list
  | .hasRelative list =>
      let inner : Setting := ⟨setting.scope, some p.serial⟩
      (relatives p).any fun q => anyHolds inner q list
  | .anchor => setting.anchor == some p.serial
  | .never => false

/-- Whether an element passes all of several simple tests. -/
def allHold (setting : Setting) (p : Place) : List Simple → Bool
  | [] => true
  | s :: rest => s.holds setting p && allHold setting p rest

/-- Whether an element matches a complex selector. -/
def Complex.holds (setting : Setting) (p : Place) : Complex → Bool
  | .compound tests => allHold setting p tests
  | .join left combinator tests =>
      allHold setting p tests
        && (combinator.candidates p).any fun q => left.holds setting q
  | .invalid => false

/-- Whether an element matches one of several complex selectors. -/
def anyHolds (setting : Setting) (p : Place) : List Complex → Bool
  | [] => false
  | c :: rest => c.holds setting p || anyHolds setting p rest

end

namespace SelectorList

/-- Whether an element matches, `:scope` standing for an element or the root. -/
def matchesIn (list : SelectorList) (scope : Option Nat) (p : Place) : Bool :=
  anyHolds ⟨scope, none⟩ p list

/-- The elements below a place that match with that place as scope, in the order
of the tree. -/
def below (list : SelectorList) (p : Place) : List Place :=
  p.descendants.filter (list.matchesIn (some p.serial))

/-- The first element below a place that matches. -/
def firstBelow? (list : SelectorList) (p : Place) : Option Place :=
  p.findBelow? (list.matchesIn (some p.serial))

end SelectorList

end BookCensus.Css
