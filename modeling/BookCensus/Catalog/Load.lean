import BookCensus.Catalog.Decode
import BookCensus.Files.Access

/-!
# Loading catalogs

A catalog is read, decoded and checked.  When it comes from a file, the
directory with the books is found from the directory with that file.
-/

namespace BookCensus

/-- Why there is no catalog. -/
inductive CatalogError where
  | unreadable (path : String) (fault : FileFault)
  | notToml (origin : String) (report : Toml.Report)
  | invalid (origin : String) (issues : List CatalogIssue)
  deriving DecidableEq, Repr

namespace CatalogError

/-- What lies behind an error, in words. -/
def cause : CatalogError → String
  | .unreadable _ fault => fault.message
  | .notToml _ report => report.text
  | .invalid _ issues => CatalogIssue.messages issues

/-- The wording of an error. -/
def message (e : CatalogError) : String :=
  match e with
  | .unreadable path _ => "failed to read catalog from " ++ path ++ ": " ++ e.cause
  | .notToml origin _ => "failed to parse catalog TOML (" ++ origin ++ "): " ++ e.cause
  | .invalid origin _ => "invalid catalog (" ++ origin ++ "): " ++ e.cause

end CatalogError

namespace Catalog

/-- The name of the origin of a catalog that comes from no file. -/
def inlineOrigin : String := "<inline>"

/-- Read and check a catalog that comes from somewhere. -/
def ofText (origin text : String) : Except CatalogError Catalog :=
  match Catalog.ofToml text with
  | .error e => .error (.notToml origin e)
  | .ok c =>
      match catalogIssues c.books with
      | [] => .ok c
      | issues => .error (.invalid origin issues)

/-- The directory that holds a file. -/
def directoryOf (path : String) : String :=
  match Path.parent? path with
  | some dir => if dir.isEmpty then "." else dir
  | none => "."

/-- A catalog from a file: a relative root is taken from the directory of the
file, which is the root when none is given. -/
def anchored (c : Catalog) (path : String) : Catalog :=
  let dir := directoryOf path
  let root :=
    match c.settings.booksRoot with
    | some root => Path.join dir root
    | none => dir
  { c with settings := { c.settings with booksRoot := some root } }

/-- Load a catalog from a file. -/
def load {m : Type → Type} [Monad m] (files : FileAccess m) (path : String) :
    m (Except CatalogError Catalog) := do
  match ← files.readText path with
  | .error fault => return .error (.unreadable path fault)
  | .ok text => return (ofText path text).map (·.anchored path)

end Catalog

end BookCensus
