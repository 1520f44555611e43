/-!
# Paths

A path is a text whose parts are divided by slashes.  Joining keeps what was
given; taking the parent drops the last part together with what does not
matter in front of it: doubled slashes, and dots that stand for the same place.
-/

namespace BookCensus.Path

/-- Whether a path begins at the root. -/
def isAbsolute (path : String) : Bool :=
  path.toList.head? = some '/'

/-- A path behind another.  A path that begins at the root replaces the other. -/
def join (base path : String) : String :=
  if isAbsolute path then path
  else if base.isEmpty || base.toList.getLast? = some '/' then base ++ path
  else base ++ "/" ++ path

/-- The parts between slashes that are not empty. -/
def parts (path : List Char) : List (List Char) :=
  (path.splitOn '/').filter (!·.isEmpty)

/-- Drop what does not matter at the end of a path, back to its last part that
counts: slashes, and dots other than one that begins a path.  The path is given
in reverse. -/
def dropIdle : List Char → List Char
  | [] => []
  | ['/'] => ['/']
  | '/' :: rest => dropIdle rest
  | ['.', '/'] => ['/']
  | '.' :: '/' :: rest => dropIdle rest
  | cs => cs

/-- The path without its last part; none for the root and for the empty path. -/
def parent? (path : String) : Option String :=
  let ended := dropIdle path.toList.reverse
  if ended.isEmpty || ended = ['/'] then none
  else some (String.ofList (dropIdle (ended.dropWhile (· ≠ '/'))).reverse)

end BookCensus.Path
