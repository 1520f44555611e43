import BookCensus.Retrieval.Error
import BookCensus.Html.Parser

/-!
# Books in memory

A shelf holds the texts of books by their names; a later text under a name takes
the place of an earlier one.
-/

namespace BookCensus

/-- Names with texts, the latest first. -/
structure Shelf where
  sources : List (String × String)
  deriving Repr

namespace Shelf

/-- Nothing yet. -/
def empty : Shelf := ⟨[]⟩

/-- Put a text on the shelf. -/
def insert (s : Shelf) (id html : String) : Shelf :=
  ⟨(id, html) :: s.sources⟩

/-- Load a book. -/
def load (s : Shelf) (id : String) : Except RetrievalError Document.Tree :=
  match s.sources.lookup id with
  | some html => .ok (Html.parse html)
  | none => .error (.notFound id)

end Shelf

end BookCensus
