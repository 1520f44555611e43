import BookCensus.Selector.Plan

/-!
# Checking a selector without a book

A selector with the marker `:hasText` is let through unread; of any other one
all parts are read.
-/

namespace BookCensus

open Text

variable [Css.Wording]

/-- Whether a selector is fit to be searched for, with the reason if it is not. -/
def checkSelector (text : String) : Except SelectorError Unit :=
  if text.isEmpty then .error .empty
  else if contains text Marker.hasText.text then .ok ()
  else do
    let selector ← Hybrid.parse text
    let _ ← Structural.compile selector.base
    match selector.operator with
    | .has inner =>
        let _ ← Structural.compile inner
        return ()
    | _ => return ()

/-- The outcome of a check, in words. -/
structure Verdict where
  ok : Bool
  message : String
  deriving DecidableEq, Repr

/-- Check a selector and say how it went. -/
def validateSelector (text : String) : Verdict :=
  match checkSelector text with
  | .ok () => ⟨true, "OK"⟩
  | .error e => ⟨false, e.message⟩

end BookCensus
