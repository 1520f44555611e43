import BookCensus.Json.Order
import BookCensus.Selector.Plan

/-!
# Catalogs of books

A catalog lists the books that can be searched and says where their files are
and how text is matched.  A book is found by its exact name; what else the
catalog says of it is passed through to the answers.
-/

namespace BookCensus

/-- A book: its name, its file, and further members in ascending order. -/
structure Book where
  name : String
  file : String
  extra : List (String × Json)
  deriving Repr, Inhabited

/-- The members of a book in an answer. -/
def Book.members (b : Book) : List (String × Json) :=
  ("bookName", .string b.name) :: ("fileName", .string b.file) :: b.extra

/-- A book in an answer. -/
def Book.toJson (b : Book) : Json :=
  .object b.members

/-- What holds for all books of a catalog: the directory with their files, and
the meaning of the argument of `:hasText`. -/
structure Settings where
  booksRoot : Option String
  textMatch : TextMatch
  deriving Repr

/-- The settings of a catalog that says nothing about them. -/
def Settings.initial : Settings :=
  ⟨none, .substring⟩

/-- A catalog. -/
structure Catalog where
  settings : Settings
  books : List Book
  deriving Repr

/-- The first book with a name. -/
def Catalog.lookup? (c : Catalog) (name : String) : Option Book :=
  c.books.find? (·.name = name)

end BookCensus
