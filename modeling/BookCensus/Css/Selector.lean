/-!
# Structural selectors

What a structural selector says, read off its text.  A list of complex
selectors holds when one of them does; a complex selector is a chain of
compounds joined by combinators, written here from its right end inwards; a
compound is a list of simple tests that must all hold.
-/

namespace BookCensus.Css

/-- How the element on the right of a combinator stands to the one on its
left. -/
inductive Combinator where
  | descendant
  | child
  | nextSibling
  | laterSibling
  deriving DecidableEq, Repr

/-- How the value of an attribute is compared. -/
inductive Comparison where
  | equal
  | includes
  | dash
  | starts
  | ends
  | within
  deriving DecidableEq, Repr

/-- Whether the case of A to Z counts in a comparison of values. -/
inductive CaseRule where
  | exact
  | ignoring
  | ignoringOnHtml
  deriving DecidableEq, Repr

/-- What the value of an attribute has to be. -/
structure ValueTest where
  comparison : Comparison
  value : String
  caseRule : CaseRule
  deriving DecidableEq, Repr

/-- A test of an attribute: present in no namespace or in any, and perhaps with
a value. -/
structure AttributeTest where
  anyNamespace : Bool
  name : String
  value : Option ValueTest
  deriving DecidableEq, Repr

/-- A test of a place among siblings: counted from the end or the start, among
all elements or those of the same type, the place must be `step · n + offset`
for a natural number `n`. -/
structure PlaceTest where
  fromEnd : Bool
  sameType : Bool
  step : Int
  offset : Int
  deriving DecidableEq, Repr

mutual

/-- A test of one element. -/
inductive Simple where
  | universal
  | typeName (name : String)
  | noNamespace
  | id (name : String)
  | hasClass (name : String)
  | attribute (test : AttributeTest)
  | root
  | empty
  | scope
  | place (test : PlaceTest)
  | matchesAny (list : List Complex)
  | matchesNone (list : List Complex)
  | hasRelative (list : List Complex)
  | anchor
  | never

/-- A chain of compounds, from its right end inwards.  `invalid` stands in a
forgiving list for what could not be read, and holds of no element. -/
inductive Complex where
  | compound (tests : List Simple)
  | join (left : Complex) (combinator : Combinator) (tests : List Simple)
  | invalid

end

instance : Inhabited Complex := ⟨.invalid⟩

/-- A selector list. -/
abbrev SelectorList := List Complex

/-- The attributes whose values are compared without regard to case on HTML
elements. -/
def caselessAttributes : List String :=
  ["accept", "accept-charset", "align", "alink", "axis", "bgcolor", "charset", "checked",
   "clear", "codetype", "color", "compact", "declare", "defer", "dir", "direction",
   "disabled", "enctype", "face", "frame", "hreflang", "http-equiv", "lang", "language",
   "link", "media", "method", "multiple", "nohref", "noresize", "noshade", "nowrap",
   "readonly", "rel", "rev", "rules", "scope", "scrolling", "selected", "shape", "target",
   "text", "type", "valign", "valuetype", "vlink"]

end BookCensus.Css
