/-!
# Finding one text inside another

`cut?` splits a text at the first place where another text occurs in it;
`occursIn` only asks whether there is such a place.
-/

namespace BookCensus.Text

/-- Split `text` around the first occurrence of `part`: what stands before it
and what stands after it. -/
def cut? (part : List Char) : List Char → Option (List Char × List Char)
  | [] => if part.isEmpty then some ([], []) else none
  | c :: rest =>
      match part.isPrefixOf? (c :: rest) with
      | some after => some ([], after)
      | none => (cut? part rest).map fun (before, after) => (c :: before, after)

/-- Whether `part` is an unbroken piece of the text. -/
def occursIn (part : List Char) : List Char → Bool
  | [] => part.isEmpty
  | c :: rest => part.isPrefixOf (c :: rest) || occursIn part rest

/-- `occursIn` on strings. -/
def contains (text part : String) : Bool :=
  occursIn part.toList text.toList

end BookCensus.Text
