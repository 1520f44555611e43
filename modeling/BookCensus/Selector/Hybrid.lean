import BookCensus.Selector.Error
import BookCensus.Text.Blank
import BookCensus.Text.Search

/-!
# Hybrid selectors

A hybrid selector is a structural selector with at most one of two operators
behind it: `X:has(Y)` keeps the matches of `X` that have a match of `Y` below
them, `X:hasText(T)` those whose text fits `T`.

The written form is cut at the first `:hasText`, or where there is none at the
first `:has`.  Behind the marker stands an argument in parentheses, which runs
to the last one, and the marker may not occur a second time.
-/

namespace BookCensus

open Text

/-- The operator of a hybrid selector. -/
inductive PseudoOperator where
  | none
  | has (inner : String)
  | hasText (pattern : String)
  deriving DecidableEq, Repr

/-- The operator that a marker makes of its argument. -/
def Marker.operator (argument : String) : Marker → PseudoOperator
  | .has => .has argument
  | .hasText => .hasText argument

/-- A structural selector and the operator behind it. -/
structure Hybrid where
  base : String
  operator : PseudoOperator
  deriving DecidableEq, Repr

namespace Hybrid

/-- Cut a selector at its marker: what stands before it and what stands after. -/
def cutMarker? (text : List Char) : Option (Marker × List Char × List Char) :=
  match cut? Marker.hasText.text.toList text with
  | some (before, after) => some (.hasText, before, after)
  | none => (cut? Marker.has.text.toList text).map fun (before, after) => (.has, before, after)

/-- What stands between parentheses; blanks may follow the closing one. -/
def argument? (rest : List Char) : Option (List Char) :=
  match dropBlankEnd rest with
  | '(' :: inside => if inside.getLast? = some ')' then some inside.dropLast else none
  | _ => none

/-- Read a hybrid selector. -/
def parse (text : String) : Except SelectorError Hybrid :=
  if text.isEmpty then .error .empty
  else
    match cutMarker? text.toList with
    | none => .ok ⟨text, .none⟩
    | some (marker, before, after) =>
        if occursIn marker.text.toList after then .error (.nested marker)
        else
          match argument? after with
          | none => .error (.missingArgument marker)
          | some argument =>
              .ok ⟨String.ofList before, marker.operator (String.ofList argument)⟩

/-- The written form of a hybrid selector. -/
def display (h : Hybrid) : String :=
  match h.operator with
  | .none => h.base
  | .has inner => h.base ++ Marker.has.text ++ "(" ++ inner ++ ")"
  | .hasText pattern => h.base ++ Marker.hasText.text ++ "(" ++ pattern ++ ")"

end Hybrid

end BookCensus
