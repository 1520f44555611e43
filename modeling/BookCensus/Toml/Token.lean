import BookCensus.Toml.Problem

/-!
# Cutting a document into tokens

A token is a sign, a stretch of blanks, a comment, the end of a line, quoted
text, or a word: whatever else stands between those.  No text is refused here;
what a token holds is looked at later.
-/

namespace BookCensus.Toml

/-- The kinds of tokens. -/
inductive TokenKind where
  | dot
  | equals
  | comma
  | openBracket
  | closeBracket
  | openBrace
  | closeBrace
  | blank
  | comment
  | newline
  | quoted (quoting : Quoting)
  | word
  | done
  deriving DecidableEq, Repr

/-- A token with its text and the number of its first character. -/
structure Token where
  kind : TokenKind
  start : Nat
  text : List Char
  deriving DecidableEq, Repr

namespace Token

/-- Where a token stands. -/
def span (t : Token) : Span := ⟨t.start, t.start + t.text.length⟩

/-- A word without characters in front of a token: it stands for what is missing
there. -/
def missing (t : Token) : Token := ⟨.word, t.start, []⟩

end Token

/-- Spaces and tabs. -/
def isSpace (c : Char) : Bool :=
  c = ' ' || c = '\t'

/-- The signs that are tokens. -/
def signKind? : Char → Option TokenKind
  | '.' => some .dot
  | '=' => some .equals
  | ',' => some .comma
  | '[' => some .openBracket
  | ']' => some .closeBracket
  | '\x7b' => some .openBrace
  | '\x7d' => some .closeBrace
  | _ => none

/-- A character that belongs to a word. -/
def isWordChar (c : Char) : Bool :=
  !(isSpace c || (signKind? c).isSome || ['\n', '\r', '#', '"', '\''].contains c)

/-- A character that belongs to a line. -/
def isLineChar (c : Char) : Bool :=
  c ≠ '\n' && c ≠ '\r'

/-- What belongs to text in single quotes, the closing quote included: the
number of characters. -/
def literalLength : List Char → Nat
  | [] => 0
  | c :: rest =>
      if c = '\'' then 1 else if c = '\n' then 0 else literalLength rest + 1

/-- The same for text in double quotes, where a quote or a backslash behind a
backslash does not count. -/
def basicLength : List Char → Nat
  | '\\' :: '"' :: rest => basicLength rest + 2
  | '\\' :: '\\' :: rest => basicLength rest + 2
  | '"' :: _ => 1
  | '\n' :: _ => 0
  | _ :: rest => basicLength rest + 1
  | [] => 0

/-- The same for text in three single quotes: up to two quotes more belong to
the text. -/
def longLiteralLength : List Char → Nat
  | '\'' :: '\'' :: '\'' :: rest => 3 + min 2 (rest.takeWhile (· = '\'')).length
  | _ :: rest => longLiteralLength rest + 1
  | [] => 0

/-- The same for text in three double quotes. -/
def longBasicLength : List Char → Nat
  | '\\' :: '"' :: rest => longBasicLength rest + 2
  | '\\' :: '\\' :: rest => longBasicLength rest + 2
  | '"' :: '"' :: '"' :: rest => 3 + min 2 (rest.takeWhile (· = '"')).length
  | _ :: rest => longBasicLength rest + 1
  | [] => 0

/-- The kind and the length of the token that begins with a character. -/
def nextToken (c : Char) (rest : List Char) : TokenKind × Nat :=
  match c, rest with
  | '\r', '\n' :: _ => (.newline, 2)
  | '\r', _ => (.newline, 1)
  | '\n', _ => (.newline, 1)
  | '#', _ => (.comment, 1 + (rest.takeWhile isLineChar).length)
  | '\'', '\'' :: '\'' :: inner => (.quoted .longLiteral, 3 + longLiteralLength inner)
  | '\'', _ => (.quoted .literal, 1 + literalLength rest)
  | '"', '"' :: '"' :: inner => (.quoted .longBasic, 3 + longBasicLength inner)
  | '"', _ => (.quoted .basic, 1 + basicLength rest)
  | _, _ =>
      match signKind? c with
      | some kind => (kind, 1)
      | none =>
          if isSpace c then (.blank, 1 + (rest.takeWhile isSpace).length)
          else (.word, 1 + (rest.takeWhile isWordChar).length)

/-- The tokens of a text whose first character has the number `start`.  Every
token takes a character, so that a bound of the number of characters is enough.
The last token is always `done`. -/
def tokensFrom : Nat → Nat → List Char → List Token
  | fuel + 1, start, c :: rest =>
      let (kind, length) := nextToken c rest
      let (text, rest) := (c :: rest).splitAt length
      ⟨kind, start, text⟩ :: tokensFrom fuel (start + length) rest
  | _, start, _ => [⟨.done, start, []⟩]

/-- The tokens of a document; a byte order mark may stand in front. -/
def tokens (document : List Char) : List Token :=
  match document with
  | '\ufeff' :: rest => tokensFrom rest.length 1 rest
  | _ => tokensFrom document.length 0 document

end BookCensus.Toml
