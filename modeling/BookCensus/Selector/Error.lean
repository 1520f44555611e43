import BookCensus.Pattern.Error

/-!
# What is wrong with a selector

The two markers of hybrid selectors, and the reasons why a selector is refused.
-/

namespace BookCensus

/-- What introduces the argument of a hybrid selector. -/
inductive Marker where
  | has
  | hasText
  deriving DecidableEq, Repr

/-- How a marker is written. -/
def Marker.text : Marker → String
  | .has => ":has"
  | .hasText => ":hasText"

/-- Why a selector is refused.  With a structural part that cannot be read comes what the
engine says of it. -/
inductive SelectorError where
  | empty
  | nested (marker : Marker)
  | missingArgument (marker : Marker)
  | malformed (part complaint : String)
  | invalidPattern (pattern : String) (cause : Pattern.Error)
  deriving DecidableEq, Repr

namespace SelectorError

/-- The wording of a refusal, short of the report on a pattern.  It keeps what the engine says
of a structural part to itself. -/
def headline : SelectorError → String
  | .empty => "you must provide a selector"
  | .nested marker => "nested " ++ marker.text ++ " not supported"
  | .missingArgument marker => "expected parenthesized argument after " ++ marker.text
  | .malformed _ _ => "provided selector is not valid"
  | .invalidPattern pattern _ => "invalid :hasText pattern '" ++ pattern ++ "': "

/-- The full wording of a refusal. -/
def message : SelectorError → String
  | .invalidPattern pattern cause =>
      (SelectorError.invalidPattern pattern cause).headline ++ cause.message
  | e => e.headline

end SelectorError

end BookCensus
