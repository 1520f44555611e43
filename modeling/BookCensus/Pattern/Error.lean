import BookCensus.Pattern.Syntax

/-!
# What is wrong with a pattern

A fault has a cause and a place.  Its report shows the pattern with the place
underlined; a pattern of several lines is shown with line numbers.
-/

namespace BookCensus.Pattern

/-- Why a pattern is refused. -/
inductive Cause where
  | classEscapeInvalid
  | classRangeInvalid
  | classRangeLiteral
  | classUnclosed
  | decimalInvalid
  | escapeHexEmpty
  | escapeHexInvalid
  | escapeHexInvalidDigit
  | escapeUnexpectedEnd
  | escapeUnrecognized
  | flagDanglingNegation
  | flagDuplicate
  | flagRepeatedNegation
  | flagUnexpectedEnd
  | flagUnrecognized
  | groupNameDuplicate
  | groupNameEmpty
  | groupNameInvalid
  | groupNameUnexpectedEnd
  | groupUnclosed
  | groupUnopened
  | nestingTooDeep (limit : Nat)
  | repetitionCountInvalid
  | repetitionCountEmpty
  | repetitionCountUnclosed
  | repetitionMissing
  | wordBoundaryUnclosed
  | wordBoundaryUnrecognized
  | wordBoundaryUnexpectedEnd
  | unicodeClassInvalid
  | unsupportedBackreference
  | unsupportedLookAround
  | unicodeNotAllowed
  | invalidUtf8
  | propertyNotFound
  | propertyValueNotFound
  deriving DecidableEq, Repr

/-- The wording of a cause. -/
def Cause.message : Cause → String
  | .classEscapeInvalid => "invalid escape sequence found in character class"
  | .classRangeInvalid => "invalid character class range, the start must be <= the end"
  | .classRangeLiteral => "invalid range boundary, must be a literal"
  | .classUnclosed => "unclosed character class"
  | .decimalInvalid => "decimal literal invalid"
  | .escapeHexEmpty => "hexadecimal literal empty"
  | .escapeHexInvalid => "hexadecimal literal is not a Unicode scalar value"
  | .escapeHexInvalidDigit => "invalid hexadecimal digit"
  | .escapeUnexpectedEnd =>
      "incomplete escape sequence, reached end of pattern prematurely"
  | .escapeUnrecognized => "unrecognized escape sequence"
  | .flagDanglingNegation => "dangling flag negation operator"
  | .flagDuplicate => "duplicate flag"
  | .flagRepeatedNegation => "flag negation operator repeated"
  | .flagUnexpectedEnd => "expected flag but got end of regex"
  | .flagUnrecognized => "unrecognized flag"
  | .groupNameDuplicate => "duplicate capture group name"
  | .groupNameEmpty => "empty capture group name"
  | .groupNameInvalid => "invalid capture group character"
  | .groupNameUnexpectedEnd => "unclosed capture group name"
  | .groupUnclosed => "unclosed group"
  | .groupUnopened => "unopened group"
  | .nestingTooDeep limit =>
      "exceed the maximum number of nested parentheses/brackets (" ++ Nat.repr limit ++ ")"
  | .repetitionCountInvalid =>
      "invalid repetition count range, the start must be <= the end"
  | .repetitionCountEmpty => "repetition quantifier expects a valid decimal"
  | .repetitionCountUnclosed => "unclosed counted repetition"
  | .repetitionMissing => "repetition operator missing expression"
  | .wordBoundaryUnclosed =>
      "special word boundary assertion is either unclosed or contains an invalid character"
  | .wordBoundaryUnrecognized =>
      "unrecognized special word boundary assertion, "
        ++ "valid choices are: start, end, start-half or end-half"
  | .wordBoundaryUnexpectedEnd =>
      "found either the beginning of a special word boundary or a bounded repetition "
        ++ "on a \\b with an opening brace, but no closing brace"
  | .unicodeClassInvalid => "invalid Unicode character class"
  | .unsupportedBackreference => "backreferences are not supported"
  | .unsupportedLookAround =>
      "look-around, including look-ahead and look-behind, is not supported"
  | .unicodeNotAllowed => "Unicode not allowed here"
  | .invalidUtf8 => "pattern can match invalid UTF-8"
  | .propertyNotFound => "Unicode property not found"
  | .propertyValueNotFound => "Unicode property value not found"

/-- A cause, its place, and the place of what it repeats if it repeats something. -/
structure Fault where
  cause : Cause
  span : Span
  earlier : Option Span := none
  deriving DecidableEq, Repr

/-- A pattern has a fault, or what it describes is too large. -/
inductive Error where
  | faulty (pattern : String) (fault : Fault)
  | tooLarge (limit : Nat)
  deriving DecidableEq, Repr

namespace Report

/-- The lines of a text, each without its end; an end of line at the very end
opens no further line. -/
def lines (cs : List Char) : List (List Char) :=
  let pieces := cs.splitOn '\n'
  let ended := pieces.dropLast.map fun line =>
    if line.getLast? = some '\r' then line.dropLast else line
  ended ++ pieces.getLast?.toList.filter (!·.isEmpty)

/-- Marks under the stretches of one line, which are given in order. -/
def underline : Nat → List Span → List Char
  | _, [] => []
  | column, span :: rest =>
      let gap := span.start.column - 1 - column
      let width := max 1 (span.stop.column - span.start.column)
      List.replicate gap ' ' ++ List.replicate width '^'
        ++ underline (column + gap + width) rest

/-- The stretches that lie in one line, in order. -/
def onLine (spans : List Span) (number : Nat) : List Span :=
  let here := spans.filter fun s => s.start.line = s.stop.line && s.start.line = number
  here.mergeSort fun s t =>
    s.start.offset < t.start.offset
      || (s.start.offset = t.start.offset && s.stop.offset ≤ t.stop.offset)

/-- Lines with their marks below them.  `width` is that of the line numbers,
which are left out when it is zero. -/
def notate (spans : List Span) (width : Nat) : Nat → List (List Char) → List Char
  | _, [] => []
  | number, line :: rest =>
      let digits := (Nat.repr number).toList
      let margin := List.replicate (width - digits.length) ' ' ++ digits ++ [':', ' ']
      let margin := if width = 0 then List.replicate 4 ' ' else margin
      let padding := if width = 0 then 4 else 2 + width
      let marks :=
        match onLine spans number with
        | [] => []
        | here => List.replicate padding ' ' ++ underline 0 here ++ ['\n']
      margin ++ line ++ '\n' :: marks ++ notate spans width (number + 1) rest

/-- One stretch that goes over several lines, in words. -/
def acrossLines (s : Span) : List Char :=
  ("on line " ++ Nat.repr s.start.line ++ " (column " ++ Nat.repr s.start.column
    ++ ") through line " ++ Nat.repr s.stop.line ++ " (column " ++ Nat.repr (s.stop.column - 1)
    ++ ")\n").toList

/-- The report on a fault in a pattern. -/
def ofFault (pattern : List Char) (fault : Fault) : List Char :=
  let spans := fault.span :: fault.earlier.toList
  let shown := lines pattern
  let count := shown.length + (if pattern.getLast? = some '\n' then 1 else 0)
  let width := if count ≤ 1 then 0 else (Nat.repr count).length
  let body := notate spans width 1 shown
  let body :=
    if pattern.contains '\n' then
      let divider := List.replicate 79 '~' ++ ['\n']
      divider ++ body ++ divider
        ++ (spans.filter fun s => s.start.line ≠ s.stop.line).flatMap acrossLines
    else body
  "regex parse error:\n".toList ++ body ++ "error: ".toList ++ fault.cause.message.toList

end Report

/-- The wording of an error. -/
def Error.message : Error → String
  | .faulty pattern fault => String.ofList (Report.ofFault pattern.toList fault)
  | .tooLarge limit =>
      "Compiled regex exceeds size limit of " ++ Nat.repr limit ++ " bytes."

end BookCensus.Pattern
