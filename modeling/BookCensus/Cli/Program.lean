import BookCensus.Cli.Usage
import BookCensus.Catalog.Load
import BookCensus.Census.Request
import BookCensus.Json.Printer
import BookCensus.Retrieval.BookRoot

/-!
# The program

What a command line leads to: a code and two texts.  Standard output has the
whole answer or nothing of it.

The log is left out.  Between the lines given here standard error also has records
of what is going on, each with the time: by default the warnings, such as the one
that a selector was rejected; with `--quiet` errors alone; with `--verbose` the details
too; or what `BOOK_ELEMENTS_LOG` asks for.  None of that changes the code, standard
output or a line given here, so the two options are read and may contradict each
other, and nothing else is made of them.  Colours are left out as well: the texts are
those without.
-/

namespace BookCensus.Cli

open Text

/-- What a run leaves: the code, standard output, and the lines on standard error
that are no records of the log. -/
structure Output where
  code : Nat
  stdout : String
  stderr : String
  deriving DecidableEq, Repr

/-- The variable that names the catalog. -/
def catalogVariable : String := "BOOK_ELEMENTS_CATALOG"

/-- The variable that names the directory with the books. -/
def booksRootVariable : String := "PATH_TO_BOOKS"

/-- The catalog that is read when nothing else is said. -/
def defaultCatalog : String := "books.toml"

/-- The path of the catalog: as given, else from the environment unless that is
blank, else the default. -/
def catalogPath (env : String → Option String) (given : Option String) : String :=
  match given with
  | some path => path
  | none =>
      match env catalogVariable with
      | some path => if isBlankText path then defaultCatalog else path
      | none => defaultCatalog

/-- A value on one line or over several, with the end of the last. -/
def jsonLine (compact : Bool) (v : Json) : String :=
  (if compact then v.compact else v.pretty) ++ "\n"

/-- A text with every line moved to the right. -/
def indented (text : String) : String :=
  String.intercalate "\n" ((text.toList.splitOn '\n').map fun l => "    " ++ String.ofList l)

/-- A run that ends because there is no catalog. -/
def failedCatalog (e : CatalogError) : Output where
  code := 1
  stdout := ""
  stderr := "Error: " ++ e.message ++ "\n\nCaused by:\n" ++ indented e.cause ++ "\n"

/-- A run that ends with a complaint.  The log may have a warning in front of it. -/
def complaint (warning message : String) : Output where
  code := 1
  stdout := ""
  stderr := warning ++ "✗ " ++ message ++ "\n"

/-- What is said of a path in the environment that is no directory. -/
def rootWarning (path : String) : String :=
  "Warning: " ++ booksRootVariable ++ " is set but is not a directory: " ++ path ++ "\n"

/-- A run that ends because it is not known where the books are. -/
def failedRoot (warning : String) : Output where
  code := 1
  stdout := ""
  stderr := warning ++ "Error: could not determine where book files live; pass --books-root\n"

/-- The line that sums up a report. -/
def summary (report : Report) (selector : String) : String :=
  "Found " ++ Nat.repr report.results.length ++ " sections ("
    ++ Nat.repr (totalInstances report.results) ++ " instances) with given selector ("
    ++ selector ++ ").\n"

variable [Css.Wording] {m : Type → Type} [Monad m]

/-- The directory with the books, if one is known, and a warning if the environment
names one that is none: as given, else from the environment, else from the catalog. -/
def booksRoot (files : FileAccess m) (env : String → Option String) (given : Option String)
    (catalog : Catalog) : m (Option String × String) := do
  let configured := catalog.settings.booksRoot
  match given, env booksRootVariable with
  | some path, _ => return (some path, "")
  | none, none => return (configured, "")
  | none, some path =>
      if ← files.isDirectory path then return (some path, "")
      else return (configured, rootWarning path)

/-- Count the elements of a book.  The log tells of the book that is opened, of the
sections in it and of a selector that is rejected. -/
def runElements (files : FileAccess m) (env : String → Option String)
    (catalog? : Option String) (book element : String) (root? : Option String)
    (limit : Option Nat) (compact : Bool) : m Output := do
  match ← Catalog.load files (catalogPath env catalog?) with
  | .error e => return failedCatalog e
  | .ok catalog =>
      match ← booksRoot files env root? catalog with
      | (none, warning) => return failedRoot warning
      | (some root, warning) =>
          let query := Query.ofRequest book element
          let load := BookRoot.load files ⟨root, limit⟩
          match ← query.answer catalog catalog.settings.textMatch load with
          | .error e => return complaint warning e.message
          | .ok report =>
              return ⟨0, jsonLine compact report.toJson, warning ++ summary report query.selector⟩

/-- Check a selector.  What the engine says of a part that it cannot read goes to
the log alone. -/
def runValidate (selector : String) : Output :=
  let verdict := validateSelector selector
  if verdict.ok then ⟨0, "✓ " ++ verdict.message ++ "\n", ""⟩ else complaint "" verdict.message

/-- List the books. -/
def runBooks (files : FileAccess m) (env : String → Option String) (catalog? : Option String)
    (compact : Bool) : m Output := do
  match ← Catalog.load files (catalogPath env catalog?) with
  | .error e => return failedCatalog e
  | .ok catalog =>
      return ⟨0, jsonLine compact (.array (catalog.books.map Book.toJson)), ""⟩

/-- Run a command. -/
def Command.run (files : FileAccess m) (env : String → Option String) :
    Command → m Output
  | .elements catalog book element root limit compact =>
      runElements files env catalog book element root limit compact
  | .validate selector => return runValidate selector
  | .books catalog compact => runBooks files env catalog compact

/-- Run a command line.  Help and version go to standard output; complaints
about arguments to standard error, under a code of their own. -/
def run (files : FileAccess m) (env : String → Option String) (arguments : List String) :
    m Output :=
  match Command.ofArguments arguments with
  | .ok command => command.run files env
  | .error (.help command) => return ⟨0, helpText command, ""⟩
  | .error .version => return ⟨0, Stop.version.message ++ "\n", ""⟩
  | .error stop => return ⟨2, "", "error: " ++ stop.message ++ "\n"⟩

end BookCensus.Cli
