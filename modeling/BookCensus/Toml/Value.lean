import BookCensus.Number.Binary64
import BookCensus.Toml.Span

/-!
# TOML values

The values that a TOML document can hold.  A table keeps its members in the
order in which they were written.
-/

namespace BookCensus.Toml

/-- A number with a point, or one of the values that are none. -/
inductive Real where
  | finite (value : Number.Binary64)
  | infinite (negative : Bool)
  | notANumber
  deriving DecidableEq, Repr

/-- A day. -/
structure Date where
  year : Nat
  month : Nat
  day : Nat
  deriving DecidableEq, Repr

/-- A time of day. -/
structure Time where
  hour : Nat
  minute : Nat
  second : Nat
  nanosecond : Nat
  deriving DecidableEq, Repr

/-- The distance of local time from universal time: none by name, or minutes. -/
inductive Offset where
  | universal
  | minutes (count : Int)
  deriving DecidableEq, Repr

/-- A moment, a local moment, a day or a time of day. -/
inductive DateTime where
  | moment (date : Date) (time : Time) (offset : Option Offset)
  | date (date : Date)
  | time (time : Time)
  deriving DecidableEq, Repr

/-- A value.  What stands inside it keeps its place in the document. -/
inductive Value where
  | string (value : String)
  | int (value : Int)
  | float (value : Real)
  | bool (value : Bool)
  | dateTime (value : DateTime)
  | array (items : List (Located Value))
  | table (members : List (String × Located Value))
  deriving Repr

/-- The name of the kind of a value. -/
def Value.kind : Value → String
  | .string _ => "string"
  | .int _ => "integer"
  | .float _ => "float"
  | .bool _ => "boolean"
  | .dateTime _ => "datetime"
  | .array _ => "array"
  | .table _ => "table"

/-- The members of a table. -/
abbrev Table := List (String × Located Value)

end BookCensus.Toml
