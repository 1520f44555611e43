import BookCensus.Retrieval.Error
import BookCensus.Files.Access
import BookCensus.Html.Parser

/-!
# Books in a directory

Books are loaded from below one directory, the root.  A source is named by a
path from the root; wherever dots and links lead, what is opened must lie
within the root.  A limit on the size may be set.
-/

namespace BookCensus

/-- The root of the books, and the greatest size of a book in bytes. -/
structure BookRoot where
  path : String
  limit : Option Nat
  deriving DecidableEq, Repr

namespace BookRoot

variable {m : Type → Type} [Monad m]

/-- The location of a source, which lies within the root. -/
def resolve (files : FileAccess m) (b : BookRoot) (id : String) :
    m (Except RetrievalError Location) := do
  match ← files.locate b.path with
  | .error fault => return .error (.unreadable b.path fault)
  | .ok root =>
      let candidate := Path.join root.text id
      match ← files.locate candidate with
      | .error .notFound => return .error (.notFound id)
      | .error fault => return .error (.unreadable candidate fault)
      | .ok place =>
          if root.isWithin place then return .ok place
          else return .error (.outsideRoot id root.text)

/-- Refuse what is larger than the limit. -/
def checkSize (files : FileAccess m) (b : BookRoot) (id path : String) :
    m (Except RetrievalError Unit) :=
  match b.limit with
  | none => return .ok ()
  | some limit => do
      match ← files.size path with
      | .error fault => return .error (.unreadable path fault)
      | .ok size => return if limit < size then .error (.tooLarge id size limit) else .ok ()

/-- Load a book. -/
def load (files : FileAccess m) (b : BookRoot) (id : String) :
    m (Except RetrievalError Document.Tree) := do
  match ← b.resolve files id with
  | .error e => return .error e
  | .ok place =>
      match ← b.checkSize files id place.text with
      | .error e => return .error e
      | .ok () =>
          match ← files.readText place.text with
          | .error fault => return .error (.unreadable place.text fault)
          | .ok text => return .ok (Html.parse text)

end BookRoot

end BookCensus
