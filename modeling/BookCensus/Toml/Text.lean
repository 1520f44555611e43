import BookCensus.Toml.Syntax

/-!
# Quoted text

Text in double quotes has escapes, text in single quotes has none.  In three
quotes of either kind it may go over several lines; an end of line right behind
the opening quotes is dropped, and a backslash at the end of a line drops all
blanks up to the next character that is none.
-/

namespace BookCensus.Toml

open Text

/-- The escapes of one character. -/
def escapedChar? : Char → Option Char
  | 'b' => some '\x08'
  | 't' => some '\t'
  | 'n' => some '\n'
  | 'f' => some '\x0c'
  | 'r' => some '\r'
  | 'e' => some '\x1b'
  | '"' => some '"'
  | '\\' => some '\\'
  | _ => none

/-- The number of digits of an escape by code point. -/
def codeLength? : Char → Option Nat
  | 'x' => some 2
  | 'u' => some 4
  | 'U' => some 8
  | _ => none

/-- What stands behind a backslash: the character, and how many characters say
so.  The first of them has the number `start`. -/
def escape (start : Nat) (cs : List Char) : Except Error (Char × Nat) :=
  match cs with
  | [] => complain .badEscape ⟨start, start⟩
  | c :: rest =>
      match escapedChar? c, codeLength? c with
      | some escaped, _ => .ok (escaped, 1)
      | none, none => complain .badEscape ⟨start, start⟩
      | none, some count =>
          let ds := (rest.take count).takeWhile isHexDigit
          let stop := start + 1 + ds.length
          if ds.length < count then complain .shortCode ⟨stop, stop⟩
          else
            match charOfCode? (hexadecimalValue ds) with
            | some code => .ok (code, 1 + count)
            | none => complain .badCode ⟨stop, stop⟩

/-- The number of characters between a backslash at the end of a line and the
next character that is no blank. -/
def foldLength? (cs : List Char) : Option Nat :=
  let spaces := (cs.takeWhile isSpace).length
  let rest := cs.drop spaces
  let rest := if rest.head? = some '\r' then rest.tail else rest
  if rest.head? = some '\n' then
    some (cs.takeWhile fun c => isSpace c || c = '\n' || c = '\r').length
  else none

/-- What a text between its quotes means; `done` is the meaning so far, in
reverse, and `start` the number of the next character. -/
def meaning (quoting : Quoting) : Nat → Nat → List Char → List Char → Except Error (List Char)
  | fuel + 1, start, done, c :: rest =>
      if c = '\\' && quoting.hasEscapes then
        match if quoting.isLong then foldLength? rest else none with
        | some count => meaning quoting fuel (start + 1 + count) done (rest.drop count)
        | none => do
            let (escaped, count) ← escape (start + 1) rest
            meaning quoting fuel (start + 1 + count) (escaped :: done) (rest.drop count)
      else if c = '\n' && quoting.isLong then meaning quoting fuel (start + 1) (c :: done) rest
      else if c = '\r' && quoting.isLong then
        if rest.head? = some '\n' then meaning quoting fuel (start + 1) (c :: done) rest
        else complain .loneReturn ⟨start + 1, start + 1⟩
      else if isPlain c then meaning quoting fuel (start + 1) (c :: done) rest
      else complain (.badText quoting) ⟨start, start⟩
  | _, _, done, _ => .ok done.reverse

/-- Drop the end of a line at the front, and say how many characters it has. -/
def dropFirstNewline : List Char → Nat × List Char
  | '\n' :: rest => (1, rest)
  | '\r' :: '\n' :: rest => (2, rest)
  | cs => (0, cs)

/-- What a quoted text means. -/
def unquote (quoting : Quoting) (t : Token) : Except Error String := do
  let width := quoting.delimiter.length
  let body := t.text.drop width
  if !quoting.delimiter.toList.isSuffixOf body then
    complain (.unclosedText quoting) t.span.after
  else
    let body := body.take (body.length - width)
    let (count, body) := if quoting.isLong then dropFirstNewline body else (0, body)
    let chars ← meaning quoting (body.length + 1) (t.start + width + count) [] body
    return String.ofList chars

/-- A character of a key without quotes. -/
def isKeyChar (c : Char) : Bool :=
  isLetter c || isDigit c || c = '_' || c = '-'

/-- What a part of a key means. -/
def keyPart (t : Token) : Except Error (Located String) := do
  match t.kind with
  | .quoted quoting =>
      if quoting.isLong then complain (.longKey quoting) t.span
      else return ⟨t.span, ← unquote quoting t⟩
  | _ =>
      match t.text.findIdx? (!isKeyChar ·) with
      | some i => complain .badKey (t.span.part i i)
      | none =>
          if t.text.isEmpty then complain .emptyKey t.span
          else return ⟨t.span, String.ofList t.text⟩

end BookCensus.Toml
