import BookCensus.Css.Token
import BookCensus.Text.Ascii

/-!
# Reading the tokens of a selector

`Token.ofText` reads a text as a sequence of tokens.  Nothing is refused here:
a character that starts no other token is a token of its own, a string that
runs into the end of its line is a bad string, and a string, comment or escape
that runs into the end of the text simply ends there.

Every step takes at least one character, so the length of the text bounds the
number of steps.
-/

namespace BookCensus.Css

open Text

/-- A character that ends a line. -/
def isNewline (c : Char) : Bool :=
  c == '\n' || c == '\r' || c == '\x0c'

/-- A character that separates. -/
def isSpaceChar (c : Char) : Bool :=
  c == ' ' || c == '\t' || isNewline c

/-- The character that stands in for one that cannot be. -/
def replacement : Char :=
  '\ufffd'

/-- A character that may start a name, escapes apart. -/
def startsName (c : Char) : Bool :=
  isLetter c || c == '_' || c == '\x00' || 0x80 ≤ c.toNat

/-- A character that may stand inside a name, escapes apart. -/
def insideName (c : Char) : Bool :=
  startsName c || isDigit c || c == '-'

/-- Whether a text starts with a name.  After a hyphen any backslash counts,
whatever it escapes. -/
def atName : List Char → Bool
  | '-' :: c :: _ => startsName c || c == '-' || c == '\\'
  | '\\' :: c :: _ => !isNewline c
  | ['\\'] => true
  | c :: _ => startsName c
  | [] => false

/-- Whether a text starts with a number, sign included. -/
def atNumber : List Char → Bool
  | c :: rest =>
      let unsigned : List Char → Bool
        | '.' :: d :: _ => isDigit d
        | d :: _ => isDigit d
        | [] => false
      if c == '+' || c == '-' then unsigned rest else unsigned (c :: rest)
  | [] => false

/-- Drop one line end. -/
def dropNewline : List Char → List Char
  | '\r' :: '\n' :: rest => rest
  | c :: rest => if isNewline c then rest else c :: rest
  | [] => []

/-- What follows a backslash: up to six digits in base sixteen and one space
after them, or a character that stands for itself. -/
def escape : List Char → Char × List Char
  | [] => (replacement, [])
  | c :: rest =>
      if isHexDigit c then
        let digits := (c :: rest).take 6 |>.takeWhile isHexDigit
        let after := (c :: rest).drop digits.length
        let after := match after with
          | d :: more => if d == ' ' || d == '\t' then more else dropNewline after
          | [] => []
        let code := hexadecimalValue digits
        let char := if code == 0 then replacement else (charOfCode? code).getD replacement
        (char, after)
      else if c == '\x00' then (replacement, rest)
      else (c, rest)

/-- The characters of the name at the front, `done` holding those already read
in reverse. -/
def nameFrom : Nat → List Char → List Char → List Char × List Char
  | 0, done, cs => (done.reverse, cs)
  | fuel + 1, done, cs =>
      match cs with
      | [] => (done.reverse, [])
      | '\\' :: rest =>
          if rest.head?.any isNewline then (done.reverse, cs)
          else
            let (c, rest) := escape rest
            nameFrom fuel (c :: done) rest
      | c :: rest =>
          if c == '\x00' then nameFrom fuel (replacement :: done) rest
          else if insideName c then nameFrom fuel (c :: done) rest
          else (done.reverse, cs)

/-- The name at the front of a text. -/
def name (cs : List Char) : String × List Char :=
  let (chars, rest) := nameFrom (cs.length + 1) [] cs
  (String.ofList chars, rest)

/-- The characters of a string up to the quotation mark that opened it. -/
def stringFrom (quote : Char) : Nat → List Char → List Char → Token × List Char
  | 0, done, cs => (.string (String.ofList done.reverse), cs)
  | fuel + 1, done, cs =>
      match cs with
      | [] => (.string (String.ofList done.reverse), [])
      | ['\\'] => (.string (String.ofList done.reverse), [])
      | '\\' :: rest =>
          if rest.head?.any isNewline then stringFrom quote fuel done (dropNewline rest)
          else
            let (c, rest) := escape rest
            stringFrom quote fuel (c :: done) rest
      | c :: rest =>
          if c == quote then (.string (String.ofList done.reverse), rest)
          else if isNewline c then (.badString, cs)
          else if c == '\x00' then stringFrom quote fuel (replacement :: done) rest
          else stringFrom quote fuel (c :: done) rest

/-- What is left of a bad address: it runs to the next closing parenthesis that
is not escaped. -/
def badUrlFrom : Nat → List Char → List Char
  | 0, cs => cs
  | fuel + 1, cs =>
      match cs with
      | [] => []
      | ')' :: rest => rest
      | '\\' :: ')' :: rest => badUrlFrom fuel rest
      | '\\' :: '\\' :: rest => badUrlFrom fuel rest
      | _ :: rest => badUrlFrom fuel rest

/-- A character that may not stand in an address without quotation marks. -/
def spoilsUrl (c : Char) : Bool :=
  let n := c.toNat
  (1 ≤ n && n ≤ 8) || n == 0x0b || (0x0e ≤ n && n ≤ 0x1f) || n == 0x7f
    || c == '"' || c == '\'' || c == '('

/-- An address without quotation marks, from its first character on. -/
def urlFrom : Nat → List Char → Token × List Char
  | 0, cs => (.url, cs)
  | fuel + 1, cs =>
      match cs with
      | [] => (.url, [])
      | ')' :: rest => (.url, rest)
      | '\\' :: rest =>
          if rest.head?.any isNewline then (.badUrl, badUrlFrom fuel rest)
          else urlFrom fuel (escape rest).2
      | c :: rest =>
          if isSpaceChar c then
            match rest.dropWhile isSpaceChar with
            | [] => (.url, [])
            | ')' :: rest => (.url, rest)
            | _ :: rest => (.badUrl, badUrlFrom fuel rest)
          else if spoilsUrl c then (.badUrl, badUrlFrom fuel rest)
          else urlFrom fuel rest

/-- A name and what it makes with a parenthesis right after it: a function, or
an address unless a quotation mark follows. -/
def identLike (cs : List Char) : Token × List Char :=
  let (word, rest) := name cs
  match rest with
  | '(' :: rest =>
      if sameIgnoringCase word "url" then
        match rest.dropWhile isSpaceChar with
        | '"' :: _ => (.function word, rest)
        | '\'' :: _ => (.function word, rest)
        | inside => urlFrom (inside.length + 1) inside
      else (.function word, rest)
  | _ => (.ident word, rest)

/-- A whole number brought into the range of thirty-two bits. -/
def clampWhole (n : Int) : Int :=
  max (-2147483648) (min 2147483647 n)

/-- The fraction and exponent of a number are dropped; either makes it not
whole. -/
def dropFraction : List Char → Bool × List Char
  | '.' :: d :: rest =>
      if isDigit d then (true, rest.dropWhile isDigit) else (false, '.' :: d :: rest)
  | cs => (false, cs)

/-- See `dropFraction`. -/
def dropExponent : List Char → Bool × List Char
  | e :: rest =>
      if e == 'e' || e == 'E' then
        match rest with
        | s :: d :: more =>
            if isDigit s then (true, rest.dropWhile isDigit)
            else if (s == '+' || s == '-') && isDigit d then (true, more.dropWhile isDigit)
            else (false, e :: rest)
        | [d] => if isDigit d then (true, []) else (false, e :: rest)
        | [] => (false, e :: rest)
      else (false, e :: rest)
  | [] => (false, [])

/-- A number, with the sign per cent or the unit right after it. -/
def numeric (cs : List Char) : Token × List Char :=
  let (signed, negative, cs) := match cs with
    | '+' :: rest => (true, false, rest)
    | '-' :: rest => (true, true, rest)
    | _ => (false, false, cs)
  let digits := cs.takeWhile isDigit
  let (broken, rest) := dropFraction (cs.dropWhile isDigit)
  let (scaled, rest) := dropExponent rest
  let n : Int := decimalValue digits
  let whole := if broken || scaled then none else some (clampWhole (if negative then -n else n))
  match rest with
  | '%' :: rest => (.percentage, rest)
  | _ =>
      if atName rest then
        let (unit, rest) := name rest
        (.dimension ⟨whole, signed⟩ unit, rest)
      else (.number ⟨whole, signed⟩, rest)

/-- Drop a comment after its opening; one that is not closed runs to the end. -/
def dropComment : List Char → List Char
  | '*' :: '/' :: rest => rest
  | _ :: rest => dropComment rest
  | [] => []

/-- The token at the front of a text that starts with neither space nor
comment. -/
def one (c : Char) (rest : List Char) : Token × List Char :=
  let all := c :: rest
  match c, rest with
  | '"', _ => stringFrom '"' all.length [] rest
  | '\'', _ => stringFrom '\'' all.length [] rest
  | '#', _ =>
      if atName rest then
        let (word, rest) := name rest
        (.idHash word, rest)
      else if rest.head?.any fun d => isDigit d || d == '-' then
        let (word, rest) := name rest
        (.hash word, rest)
      else (.delim '#', rest)
  | '$', '=' :: rest => (.sign .ends, rest)
  | '*', '=' :: rest => (.sign .within, rest)
  | '^', '=' :: rest => (.sign .starts, rest)
  | '|', '=' :: rest => (.sign .dash, rest)
  | '~', '=' :: rest => (.sign .includes, rest)
  | '(', _ => (.opening .round, rest)
  | ')', _ => (.closing .round, rest)
  | '[', _ => (.opening .square, rest)
  | ']', _ => (.closing .square, rest)
  | '\x7b', _ => (.opening .curly, rest)
  | '\x7d', _ => (.closing .curly, rest)
  | ',', _ => (.comma, rest)
  | ':', _ => (.colon, rest)
  | ';', _ => (.semicolon, rest)
  | '<', '!' :: '-' :: '-' :: rest => (.commentOpen, rest)
  | '@', _ =>
      if atName rest then
        let (word, rest) := name rest
        (.atKeyword word, rest)
      else (.delim '@', rest)
  | _, _ =>
      if atNumber all then numeric all
      else
        match c, rest with
        | '-', '-' :: '>' :: rest => (.commentClose, rest)
        | _, _ => if atName all then identLike all else (.delim c, rest)

/-- The tokens of a text, `done` holding those already read in reverse. -/
def tokensFrom : Nat → List Token → List Char → List Token
  | 0, done, _ => done.reverse
  | fuel + 1, done, cs =>
      match cs with
      | [] => done.reverse
      | '/' :: '*' :: rest => tokensFrom fuel done (dropComment rest)
      | c :: rest =>
          if isSpaceChar c then tokensFrom fuel (.space :: done) (rest.dropWhile isSpaceChar)
          else
            let (t, rest) := one c rest
            tokensFrom fuel (t :: done) rest

/-- The tokens of a text. -/
def Token.ofText (cs : List Char) : List Token :=
  tokensFrom (cs.length + 1) [] cs

end BookCensus.Css
