import BookCensus.Toml.Problem

/-!
# Reports

A report shows the line that a complaint is about, with marks under the stretch
that it points at.  What stands at the very end of a document is shown behind
its last line.
-/

namespace BookCensus.Toml

/-- A complaint with the line that it is about.  Lines and columns are counted
from nought; at least one mark is shown. -/
structure Report where
  line : Nat
  column : Nat
  source : String
  marks : Nat
  message : String
  deriving DecidableEq, Repr

/-- The number of bytes that characters take. -/
def byteCount (cs : List Char) : Nat :=
  cs.foldl (fun n c => n + c.utf8Size) 0

/-- What a complaint looks like in its document.  A mark stands for a byte; the
column of a character that takes several bytes is counted in bytes, too. -/
def Error.report (document : List Char) (e : Error) : Report :=
  let index := min e.span.start (document.length - 1)
  let before := document.take index
  let line := before.count '\n'
  let lead := (before.reverse.takeWhile (· ≠ '\n')).reverse
  let isWide := e.span.start = index && document[index]?.any (1 < ·.utf8Size)
  let column := (if isWide then byteCount lead else lead.length) + (e.span.start - index)
  let source := lead ++ (document.drop index).takeWhile (· ≠ '\n')
  let width := byteCount ((document.drop e.span.start).take (e.span.stop - e.span.start))
  { line := line
    column := column
    source := String.ofList source
    marks := max 1 (min width (byteCount source - column))
    message := e.value.message }

namespace Report

/-- So many copies of a character. -/
def fill (count : Nat) (c : Char) : String :=
  String.ofList (List.replicate count c)

/-- The wording of a report. -/
def text (r : Report) : String :=
  let number := Nat.repr (r.line + 1)
  let gutter := fill (number.length + 1) ' ' ++ "|"
  "TOML parse error at line " ++ number ++ ", column " ++ Nat.repr (r.column + 1) ++ "\n"
    ++ gutter ++ "\n"
    ++ number ++ " | " ++ r.source ++ "\n"
    ++ gutter ++ fill (r.column + 1) ' ' ++ fill r.marks '^' ++ "\n"
    ++ r.message ++ "\n"

end Report

end BookCensus.Toml
