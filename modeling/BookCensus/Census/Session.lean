import BookCensus.Census.Request
import BookCensus.Retrieval.Shelf

/-!
# Runs over a shelf

A run puts books on a shelf, loads them and answers requests, and keeps the
names under which books were asked for.
-/

namespace BookCensus

/-- The shelf, and the names asked for with the latest first. -/
structure Session where
  shelf : Shelf
  asked : List String
  deriving Repr

/-- One step of a run. -/
inductive Step where
  | insert (id html : String)
  | load (id : String)
  | request (query : Query) (mode : TextMatch)
  deriving Repr

/-- The reply to a step. -/
inductive Reply where
  | done
  | loaded (outcome : Except RetrievalError Document.Tree)
  | answered (outcome : Except RequestError Report)

namespace Session

/-- The beginning of a run. -/
def start : Session := ⟨.empty, []⟩

/-- Load a book and keep that it was asked for. -/
def load (id : String) : StateM Session (Except RetrievalError Document.Tree) :=
  fun s => (s.shelf.load id, { s with asked := id :: s.asked })

variable [Css.Wording]

/-- Take a step. -/
def take (catalog : Catalog) : Step → StateM Session Reply
  | .insert id html => fun s => (.done, { s with shelf := s.shelf.insert id html })
  | .load id => do
      let outcome ← load id
      return .loaded outcome
  | .request query mode => do
      let outcome ← query.answer catalog mode load
      return .answered outcome

/-- The replies to steps, each with how often books had been asked for by then. -/
def run (catalog : Catalog) : List Step → Session → List (Reply × Nat)
  | [], _ => []
  | step :: rest, s =>
      let (reply, s) := take catalog step s
      (reply, s.asked.length) :: run catalog rest s

end Session

end BookCensus
