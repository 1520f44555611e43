import BookCensus.Catalog.Book

/-!
# What is wrong with a catalog

A catalog must list books; each must have a name and a file, and no two may have
the same name.  Blanks around names do not count.
-/

namespace BookCensus

open Text

/-- What every book must have. -/
inductive BookField where
  | name
  | file
  deriving DecidableEq, Repr

/-- The name of a field in a catalog. -/
def BookField.key : BookField → String
  | .name => "book_name"
  | .file => "file_name"

/-- One thing that is wrong. -/
inductive CatalogIssue where
  | emptyBookList
  | missingField (book : Option String) (field : BookField)
  | duplicateBook (book : String)
  deriving DecidableEq, Repr

/-- The wording of an issue. -/
def CatalogIssue.message : CatalogIssue → String
  | .emptyBookList => "catalog contains no books"
  | .missingField (some book) field =>
      "book '" ++ book ++ "' missing required field '" ++ field.key ++ "'"
  | .missingField none field => "book missing required field '" ++ field.key ++ "'"
  | .duplicateBook book => "book '" ++ book ++ "' is listed more than once"

/-- The wording of several issues, a line each. -/
def CatalogIssue.messages (issues : List CatalogIssue) : String :=
  String.intercalate "\n" (issues.map message)

namespace Book

/-- What is wrong with the name of a book, given the names before it. -/
def nameIssues (seen : List String) (b : Book) : List CatalogIssue :=
  let name := trim b.name
  if name = "" then [.missingField none .name]
  else if seen.contains name then [.duplicateBook name]
  else []

/-- What is wrong with the file of a book. -/
def fileIssues (b : Book) : List CatalogIssue :=
  let name := trim b.name
  if trim b.file = "" then [.missingField (if name = "" then none else some name) .file]
  else []

end Book

/-- What is wrong with books, given the names before them. -/
def bookIssues (seen : List String) : List Book → List CatalogIssue
  | [] => []
  | b :: rest => b.nameIssues seen ++ b.fileIssues ++ bookIssues (trim b.name :: seen) rest

/-- What is wrong with a list of books. -/
def catalogIssues (books : List Book) : List CatalogIssue :=
  (if books.isEmpty then [.emptyBookList] else []) ++ bookIssues [] books

end BookCensus
