import BookCensus.Census.Section

/-!
# Titles of sections

The title of a section is the text of its first title element outside metadata.
If that has no number of its own, the chapter around it may add something: its
number, or its heading.
-/

namespace BookCensus.Document

namespace Place

/-- The elements around one, from the nearest outwards; contents of templates
are inside the template. -/
def enclosing : Place → List Place
  | top _ _ => []
  | child p _ => p :: enclosing p
  | content p _ => p :: enclosing p

/-- Whether an element is a title. -/
def isTitle (p : Place) : Bool :=
  p.role? = some "document-title"

/-- Whether an element is the heading of a chapter. -/
def isHeading (p : Place) : Bool :=
  p.data.name = "h1" && p.isTitle

/-- Whether an element is a number in front of a title. -/
def isNumber (p : Place) : Bool :=
  (p.data.attribute? "class").any fun value =>
    (Text.words value.toList).contains "os-number".toList

/-- Whether an element below a section stands in its metadata. -/
def inMetadata (page p : Place) : Bool :=
  (p.enclosing.takeWhile (· != page)).any fun q => q.role? = some "metadata"

/-- The first title element of a section outside its metadata. -/
def titleElement? (page : Place) : Option Place :=
  page.findBelow? fun p => p.isTitle && !inMetadata page p

/-- How many parents stand between the title of a module and what holds the
heading of its chapter. -/
def chapterLevels : Nat := 2

/-- The heading of the chapter around a title element. -/
def chapterHeading? (title : Place) : Option Place := do
  let container ← title.ancestor? chapterLevels
  container.findBelow? isHeading

/-- The first number below an element. -/
def number? (p : Place) : Option Place :=
  p.findBelow? isNumber

/-- The title under a heading: its number goes before the title; without a
number its text is named, unless there is none or it is the preface. -/
def titleUnder (heading : Place) (title : String) : String :=
  match heading.number? with
  | some number => number.text ++ " " ++ title
  | none =>
      if heading.text ≠ "" ∧ heading.text ≠ "Preface" then
        "Chapter: " ++ heading.text ++ " Module: " ++ title
      else title

/-- The title under which a section is shown, if it has one. -/
def displayTitle? (page : Place) : Option String :=
  page.titleElement?.map fun title =>
    if title.number?.isSome then title.text
    else
      match title.chapterHeading? with
      | some heading => titleUnder heading title.text
      | none => title.text

end Place

end BookCensus.Document
