import BookCensus.Toml.Token
import BookCensus.Toml.DateTime

/-!
# The lines of a document

A document is a sequence of lines: headers, which say to which table the lines
below them belong, and keys with their values.  Lists and tables in braces may
go over several lines.  Reading the lines looks at signs only; what keys and
values hold is looked at when all lines are known.
-/

namespace BookCensus.Toml

open Text

/-- A value as it is written. -/
inductive Form where
  | scalar (token : Token)
  | list (span : Span) (items : List Form)
  | braces (span : Span) (pairs : List (List Token × Form))
  deriving Repr

/-- Where a value stands. -/
def Form.span : Form → Span
  | .scalar token => token.span
  | .list span _ => span
  | .braces span _ => span

/-- A key as it is written: its parts, of which there is at least one. -/
abbrev KeyForm := List Token

/-- A header, of a table or of one more table in a list, or a key with its value. -/
inductive Line where
  | header (isList : Bool) (span : Span) (key : KeyForm)
  | pair (key : KeyForm) (value : Form)
  deriving Repr

/-- A character that may stand as it is: no control but the tab. -/
def isPlain (c : Char) : Bool :=
  c = '\t' || (0x20 ≤ c.toNat && c ≠ '\x7f')

/-- Look at a token that is passed over: a comment has no control characters,
and a line ends in a line feed. -/
def passOver (t : Token) : Except Error Unit :=
  match t.kind with
  | .comment =>
      match t.text.findIdx? (!isPlain ·) with
      | some i => complain .badComment (t.span.part i i)
      | none => .ok ()
  | .newline =>
      if t.text.getLast? = some '\n' then .ok () else complain .loneReturn t.span.after
  | _ => .ok ()

/-- Past the blanks. -/
def skipBlank : List Token → List Token
  | t :: rest => if t.kind = .blank then rest else t :: rest
  | [] => []

/-- Past blanks, comments and ends of lines. -/
def skipSpace : List Token → Except Error (List Token)
  | t :: rest =>
      match t.kind with
      | .blank => skipSpace rest
      | .comment => do passOver t; skipSpace rest
      | .newline => do passOver t; skipSpace rest
      | _ => .ok (t :: rest)
  | [] => .ok []

/-- Past the blanks and the comment that may end a line, and its end. -/
def endLine : List Token → Except Error (List Token)
  | t :: rest =>
      match t.kind with
      | .blank => endLine rest
      | .comment => do passOver t; endLine rest
      | .newline => do passOver t; .ok rest
      | .done => .ok (t :: rest)
      | _ => complain .moreOnLine t.span.before
  | [] => .ok []

/-- A part of a key, if the token can be one. -/
def isKeyPart (t : Token) : Bool :=
  match t.kind with
  | .word => true
  | .quoted _ => true
  | _ => false

mutual

/-- A key: parts with points between them; `parts` are those read so far, in
reverse.  Where a part is missing an empty word stands for it; if nothing
follows that, the second part of the answer is false. -/
def keyFrom (parts : List Token) : List Token → (KeyForm × Bool) × List Token
  | t :: rest =>
      match t.kind with
      | .blank => keyFrom parts rest
      | .dot => keyFrom (t.missing :: parts) rest
      | _ =>
          if isKeyPart t then keyRest (t :: parts) rest
          else (((t.missing :: parts).reverse, false), t :: rest)
  | [] => ((parts.reverse, false), [])

/-- A point and what follows it, or the end of a key. -/
def keyRest (parts : List Token) : List Token → (KeyForm × Bool) × List Token
  | t :: rest =>
      match t.kind with
      | .blank => keyRest parts rest
      | .dot => keyFrom parts rest
      | _ => ((parts.reverse, true), t :: rest)
  | [] => ((parts.reverse, true), [])

end

/-- Words and points that touch are one word. -/
def joinWord (word : Token) : List Token → Token × List Token
  | t :: rest =>
      if t.kind = .word ∨ t.kind = .dot then
        joinWord { word with text := word.text ++ t.text } rest
      else (word, t :: rest)
  | [] => (word, [])

/-- A value without quotes; a day may be followed by a space and a time. -/
def joinScalar (first : Token) (rest : List Token) : Token × List Token :=
  let (word, rest) := joinWord { first with kind := .word } rest
  match Date.read? word.text, rest with
  | some (_, []), space :: next :: more =>
      if space.text = [' '] && (next.text.head?.any isDigit) then
        joinWord { word with text := word.text ++ ' ' :: next.text } more
      else (word, rest)
  | _, _ => (word, rest)

/-- How deep lists and tables may stand inside each other. -/
def depthLimit : Nat := 80

/-- Up to the sign of equality between a key and its value in braces. -/
def braceSign (last : Span) : List Token → Except Error (List Token)
  | t :: rest =>
      match t.kind with
      | .blank => braceSign last rest
      | .comment => do passOver t; braceSign last rest
      | .newline => do passOver t; braceSign last rest
      | .equals => .ok rest
      | .done => complain .unclosedBrace last.after
      | _ => complain .noBraceSign t.span.before
  | [] => complain .unclosedBrace last.after

mutual

/-- A value; `depth` lists and tables may still be opened.  A value that is
missing is an empty word. -/
def form : Nat → Nat → List Token → Except Error (Form × List Token)
  | fuel + 1, depth, t :: rest =>
      match t.kind with
      | .equals => complain .secondSign t.span
      | .openBracket =>
          match depth with
          | 0 => complain .tooDeep t.span
          | depth + 1 => listRest fuel depth t.span t.span true [] rest
      | .openBrace =>
          match depth with
          | 0 => complain .tooDeep t.span
          | depth + 1 => bracesRest fuel depth t.span t.span true [] rest
      | .closeBracket => complain .noListOpening t.span.before
      | .closeBrace => complain .noBraceOpening t.span.before
      | .quoted _ => .ok (.scalar t, rest)
      | .word => let (word, rest) := joinScalar t rest; .ok (.scalar word, rest)
      | .dot => let (word, rest) := joinScalar t rest; .ok (.scalar word, rest)
      | _ => .ok (.scalar t.missing, t :: rest)
  | _, _, _ => complain .tooDeep ⟨0, 0⟩

/-- The rest of a list that was opened at `first`.  Behind `last`, a value is
due unless a comma is; `items` are the values so far, in reverse. -/
def listRest : Nat → Nat → Span → Span → Bool → List Form → List Token →
    Except Error (Form × List Token)
  | fuel + 1, depth, first, last, valueDue, items, tokens => do
      match ← skipSpace tokens with
      | t :: rest =>
          match t.kind with
          | .done => complain .unclosedList last.after
          | .closeBracket => .ok (.list (first.upTo t.span) items.reverse, rest)
          | .comma =>
              if valueDue then complain .extraListComma t.span
              else listRest fuel depth first t.span true items rest
          | .equals => complain .signInList t.span
          | .closeBrace => complain .noBraceOpening t.span.before
          | _ =>
              if valueDue then
                let (item, rest) ← form fuel depth (t :: rest)
                listRest fuel depth first item.span false (item :: items) rest
              else complain .noListComma t.span.before
      | [] => complain .unclosedList last.after
  | 0, _, _, last, _, _, _ => complain .unclosedList last.after

/-- The rest of a table in braces.  Behind `last`, a key is due unless a comma
is; `pairs` are the members so far, in reverse. -/
def bracesRest : Nat → Nat → Span → Span → Bool → List (KeyForm × Form) → List Token →
    Except Error (Form × List Token)
  | fuel + 1, depth, first, last, keyDue, pairs, tokens => do
      match ← skipSpace tokens with
      | t :: rest =>
          match t.kind with
          | .done => complain .unclosedBrace last.after
          | .closeBrace => .ok (.braces (first.upTo t.span) pairs.reverse, rest)
          | .comma =>
              if keyDue then complain .extraBraceComma t.span.before
              else bracesRest fuel depth first t.span true pairs rest
          | .closeBracket => complain .noListOpening t.span.before
          | .equals =>
              if keyDue then pairRest fuel depth first t.span [t.missing] pairs rest
              else complain .secondBraceSign t.span.before
          | .openBrace => complain (if keyDue then .noBraceKey else .noBraceComma) t.span.before
          | .openBracket => complain (if keyDue then .noBraceKey else .noBraceComma) t.span.before
          | _ =>
              if keyDue then
                let ((key, _), rest) := keyFrom [] (t :: rest)
                let rest ← braceSign t.span rest
                pairRest fuel depth first t.span key pairs rest
              else complain .noBraceComma t.span.before
      | [] => complain .unclosedBrace last.after
  | 0, _, _, last, _, _, _ => complain .unclosedBrace last.after

/-- The value of a key in braces, and the rest of the braces. -/
def pairRest : Nat → Nat → Span → Span → KeyForm → List (KeyForm × Form) → List Token →
    Except Error (Form × List Token)
  | fuel + 1, depth, first, last, key, pairs, tokens => do
      match ← skipSpace tokens with
      | t :: rest =>
          match t.kind with
          | .done => complain .unclosedBrace last.after
          | .closeBrace =>
              bracesRest fuel depth first t.span false ((key, .scalar t.missing) :: pairs)
                (t :: rest)
          | _ =>
              let (value, rest) ← form fuel depth (t :: rest)
              bracesRest fuel depth first value.span false ((key, value) :: pairs) rest
      | [] => complain .unclosedBrace last.after
  | 0, _, _, last, _, _, _ => complain .unclosedBrace last.after

end

/-- Past everything up to the end of the line. -/
def skipLine (tokens : List Token) : List Token :=
  tokens.dropWhile fun t => t.kind ≠ .newline && t.kind ≠ .done

/-- Past a token of a kind, if it comes next. -/
def take? (kind : TokenKind) : List Token → Option (Token × List Token)
  | t :: rest => if t.kind = kind then some (t, rest) else none
  | [] => none

/-- The gap in front of the next token. -/
def gap (last : Token) (rest : List Token) : Span :=
  (rest.head?.getD last).span.before

/-- A header of a table behind its bracket. -/
def tableHeader (first : Token) (tokens : List Token) : Except Error (Line × List Token) := do
  let ((key, isWhole), rest) := keyFrom [] tokens
  match take? .closeBracket rest with
  | some (close, rest) => return (.header false (first.span.upTo close.span) key, ← endLine rest)
  | none =>
      if isWhole then complain .unclosedTable (gap first rest)
      else return (.header false first.span key, skipLine rest)

/-- A header of a table in a list behind its two brackets. -/
def listHeader (first : Token) (tokens : List Token) : Except Error (Line × List Token) := do
  let ((key, isWhole), rest) := keyFrom [] tokens
  match take? .closeBracket rest with
  | some (close, rest) =>
      match take? .closeBracket rest with
      | some (last, rest) => return (.header true (first.span.upTo last.span) key, ← endLine rest)
      | none => complain (.unclosedTableList "]") close.span.after
  | none =>
      if isWhole then complain (.unclosedTableList "]]") (gap first rest)
      else return (.header true first.span key, skipLine rest)

/-- A header behind its first bracket. -/
def header (first : Token) (tokens : List Token) : Except Error (Line × List Token) :=
  match take? .openBracket tokens with
  | some (_, rest) => listHeader first rest
  | none => tableHeader first tokens

/-- The value of a key, and the end of its line. -/
def pairLine (bound : Nat) (key : KeyForm) (tokens : List Token) :
    Except Error (Line × List Token) := do
  let (value, rest) ← form bound depthLimit (skipBlank tokens)
  return (.pair key value, ← endLine rest)

/-- A key with its value. -/
def keyLine (bound : Nat) (first : Token) (tokens : List Token) :
    Except Error (Line × List Token) :=
  let ((key, _), rest) := keyFrom [] tokens
  match take? .equals rest with
  | some (_, rest) => pairLine bound key rest
  | none => complain .noValue (gap first rest)

/-- Read line after line.  Every line has a token, so that as many lines as
there are tokens are enough; no more are needed for a value, either. -/
def linesFrom (bound : Nat) : Nat → List Line → List Token → Except Error (List Line)
  | fuel + 1, done, tokens => do
      match ← skipSpace tokens with
      | t :: rest =>
          match t.kind with
          | .done => return done.reverse
          | .openBracket =>
              let (line, rest) ← header t rest
              linesFrom bound fuel (line :: done) rest
          | .closeBracket => complain .noTableOpening t.span.before
          | .equals =>
              let (line, rest) ← pairLine bound [t.missing] rest
              linesFrom bound fuel (line :: done) rest
          | .comma => complain .noKey t.span.before
          | .openBrace => complain .noKey t.span.before
          | .closeBrace => complain .noKey t.span.before
          | _ =>
              let (line, rest) ← keyLine bound t (t :: rest)
              linesFrom bound fuel (line :: done) rest
      | [] => return done.reverse
  | 0, done, _ => return done.reverse

/-- The lines of a document. -/
def lines (document : List Char) : Except Error (List Line) :=
  let tokens := tokens document
  linesFrom (4 * tokens.length) (tokens.length + 1) [] tokens

end BookCensus.Toml
