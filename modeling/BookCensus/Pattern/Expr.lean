import BookCensus.Unicode.CharSet

/-!
# What a pattern describes

An expression describes stretches of a text: one character of a set, nothing at
a place that fulfils a condition, one expression after another, one of two, or
an expression repeated.
-/

namespace BookCensus.Pattern

/-- A condition on a place in a text.  Lines end with a line feed, or with the
controls carriage return and line feed alike; word characters are those of
ASCII, or those of any script. -/
inductive Look where
  | textStart
  | textEnd
  | lineStart (carriageReturn : Bool)
  | lineEnd (carriageReturn : Bool)
  | wordBoundary (unicode : Bool)
  | noWordBoundary (unicode : Bool)
  | wordStart (unicode : Bool)
  | wordEnd (unicode : Bool)
  | wordStartHalf (unicode : Bool)
  | wordEndHalf (unicode : Bool)
  deriving DecidableEq, Repr

/-- The expressions. -/
inductive Expr where
  | nothing
  | char (set : CharSet)
  | look (condition : Look)
  | capture (body : Expr)
  | seq (first second : Expr)
  | alt (first second : Expr)
  | loop (least : Nat) (most : Option Nat) (body : Expr)
  deriving Repr

namespace Expr

/-- Only places and no characters. -/
def isFlat : Expr → Bool
  | .nothing => true
  | .char _ => false
  | .look _ => true
  | .capture body => body.isFlat
  | .seq first second => first.isFlat && second.isFlat
  | .alt first second => first.isFlat && second.isFlat
  | .loop _ most body => body.isFlat || most = some 0

/-- Never fewer characters than one. -/
def isSolid : Expr → Bool
  | .nothing => false
  | .char _ => true
  | .look _ => false
  | .capture body => body.isSolid
  | .seq first second => first.isSolid || second.isSolid
  | .alt first second => first.isSolid && second.isSolid
  | .loop least _ body => body.isSolid && 0 < least

/-- One after another, in order. -/
def sequence : List Expr → Expr
  | [] => .nothing
  | [e] => e
  | .nothing :: rest => sequence rest
  | e :: rest =>
      match sequence rest with
      | .nothing => e
      | more => .seq e more

/-- The sets of expressions that are all of one character. -/
def charSets? : List Expr → Option (List CharSet)
  | [] => some []
  | .char s :: rest => (charSets? rest).map (s :: ·)
  | _ :: _ => none

/-- One of several; those of one character each are one of a larger set. -/
def alternation (branches : List Expr) : Expr :=
  let rec choose : List Expr → Expr
    | [] => .char .empty
    | [e] => e
    | e :: rest => .alt e (choose rest)
  match charSets? branches with
  | some (s :: sets) => .char (sets.foldl .union s)
  | _ => choose branches

/-- An expression repeated.  Where it describes places only, one repetition
says as much as many. -/
def repetition (least : Nat) (most : Option Nat) (body : Expr) : Expr :=
  let (least, most) :=
    if body.isFlat then (min least 1, some (min (most.getD 1) 1)) else (least, most)
  if least = 0 ∧ most = some 0 then .nothing
  else if least = 1 ∧ most = some 1 then body
  else .loop least most body

end Expr

end BookCensus.Pattern
