import BookCensus.Document.Place

/-!
# Sections

The sections of a book are the elements whose attribute `data-type` is `page` or
`composite-page`.  They are listed in the order in which the parser created
them.
-/

namespace BookCensus.Document

/-- The role that the structure of a book gives to an element. -/
def Place.role? (p : Place) : Option String :=
  p.data.attribute? "data-type"

/-- Whether an element is a section: it has the role of one and stands below
something. -/
def Place.isSection (p : Place) : Bool :=
  p.hasParent && (p.role? = some "composite-page" || p.role? = some "page")

/-- The sections of a document in the order in which they were created. -/
def Tree.sections (t : Tree) : List Place :=
  ((t.places ++ t.detachedPlaces).filter Place.isSection).mergeSort
    fun p q => p.serial ≤ q.serial

end BookCensus.Document
