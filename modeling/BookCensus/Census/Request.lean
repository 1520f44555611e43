import BookCensus.Catalog.Book
import BookCensus.Census.Scan
import BookCensus.Retrieval.Error
import BookCensus.Selector.Check

/-!
# Requests

A request names a book and a selector.  It is answered by a whole report or by
one error: the book is looked up first, then the selector is checked and read,
and only then the book is loaded.
-/

namespace BookCensus

/-- A book name and a selector. -/
structure Query where
  book : String
  selector : String
  deriving DecidableEq, Repr

/-- Write one character for another. -/
def substitute (old new : Char) (text : String) : String :=
  String.ofList (text.toList.map fun c => if c = old then new else c)

/-- A query as it is sent: underscores in the name stand for spaces, and single
quotes in the selector for double ones. -/
def Query.ofRequest (book element : String) : Query :=
  ⟨substitute '_' ' ' book, substitute '\'' '"' element⟩

/-- Why a request has no report. -/
inductive RequestError where
  | unknownSource (name : String)
  | selector (error : SelectorError)
  | retrieval (error : RetrievalError)
  deriving DecidableEq, Repr

/-- The wording of an error. -/
def RequestError.message : RequestError → String
  | .unknownSource name =>
      "couldn't find any book with name: " ++ name
        ++ ". Maybe this book is not yet available for searching custom elements."
  | .selector e => e.message
  | .retrieval e => e.message

/-- The results of all sections and the book they are from. -/
structure Report where
  results : List SectionResult
  book : Book
  deriving Repr

/-- A result in JSON. -/
def SectionResult.toJson (r : SectionResult) : Json :=
  .object [("section_name", .orNull .string r.title), ("link", .orNull .string r.link),
    ("instances", .nat r.instances)]

/-- A report in JSON: the results, then the members of the book. -/
def Report.toJson (r : Report) : Json :=
  .object (("Results", .array (r.results.map SectionResult.toJson)) :: r.book.members)

variable [Css.Wording]

/-- The first two stages of a request: the book and the plan for the selector. -/
def Query.prepare (q : Query) (catalog : Catalog) (mode : TextMatch) :
    Except RequestError (Book × Plan) :=
  match catalog.lookup? q.book with
  | none => .error (.unknownSource q.book)
  | some book =>
      let plan := do
        checkSelector q.selector
        Plan.parse q.selector mode
      match plan with
      | .error e => .error (.selector e)
      | .ok plan => .ok (book, plan)

/-- Answer a request, loading the book at the last stage. -/
def Query.answer {m : Type → Type} [Monad m] (q : Query) (catalog : Catalog) (mode : TextMatch)
    (load : String → m (Except RetrievalError Document.Tree)) :
    m (Except RequestError Report) :=
  match q.prepare catalog mode with
  | .error e => return .error e
  | .ok (book, plan) => do
      match ← load book.file with
      | .error e => return .error (.retrieval e)
      | .ok tree => return .ok ⟨plan.scan tree, book⟩

end BookCensus
