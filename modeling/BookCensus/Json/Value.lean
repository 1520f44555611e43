import BookCensus.Number.Binary64

/-!
# JSON values

A JSON value with its numbers split into integers and floating-point numbers
and the members of an object in the order in which they are written.
-/

namespace BookCensus

/-- A JSON value. -/
inductive Json where
  | null
  | bool (value : Bool)
  | int (value : Int)
  | float (value : Number.Binary64)
  | string (value : String)
  | array (items : List Json)
  | object (members : List (String × Json))
  deriving Inhabited, Repr

namespace Json

/-- A number of things. -/
def nat (n : Nat) : Json :=
  .int n

/-- A value that may be missing, written `null` when it is. -/
def orNull {α : Type} (write : α → Json) : Option α → Json
  | none => .null
  | some a => write a

/-- The first member with a name. -/
def member? (name : String) : Json → Option Json
  | .object members => members.lookup name
  | _ => none

end Json

end BookCensus
