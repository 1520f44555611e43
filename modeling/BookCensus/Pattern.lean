import BookCensus.Pattern.Match

/-!
# Patterns

A pattern describes stretches of text.  It is compiled once and then looked for
in many texts; what cannot be compiled is refused with a report.
-/

namespace BookCensus

/-- A pattern that was read: its text and what it describes. -/
structure Pattern where
  source : String
  expr : Pattern.Expr
  deriving Repr

namespace Pattern

/-- Read a pattern and check that it is not too large. -/
def compile (source : String) : Except Error Pattern := do
  let chars := source.toList
  let described : Except Fault Expr := do
    let tree ← Syntax.parse chars
    let (e, _) ← tree.interpret .initial
    return e
  match described with
  | .error fault => .error (.faulty source fault)
  | .ok e =>
      if e.machineSize ≤ sizeLimit then .ok ⟨source, e⟩ else .error (.tooLarge sizeLimit)

/-- Whether a pattern fits somewhere in a text. -/
def isMatch (p : Pattern) (text : String) : Bool :=
  p.expr.occursIn text.toList

end Pattern

end BookCensus
