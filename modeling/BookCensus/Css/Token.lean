/-!
# Tokens of a selector

The tokens into which the text of a selector falls, and the components they
nest into: a block holds everything from its opening bracket to the bracket
that closes it, or to the end of the text where none does.  A closing bracket
that closes nothing is a token of its own.
-/

namespace BookCensus.Css

/-- The three pairs of brackets. -/
inductive Bracket where
  | round
  | square
  | curly
  deriving DecidableEq, Repr

/-- The comparison signs of attribute tests other than the plain equals sign. -/
inductive MatchSign where
  | includes
  | dash
  | starts
  | ends
  | within
  deriving DecidableEq, Repr

/-- A number as it is written: its value when it is whole, brought into the range
of thirty-two bits, and whether it has a sign. -/
structure Numeral where
  whole : Option Int
  signed : Bool
  deriving DecidableEq, Repr

/-- A token.  Comments are not tokens. -/
inductive Token where
  | ident (name : String)
  | function (name : String)
  | atKeyword (name : String)
  | hash (name : String)
  | idHash (name : String)
  | string (value : String)
  | badString
  | url
  | badUrl
  | number (value : Numeral)
  | percentage
  | dimension (value : Numeral) (unit : String)
  | space
  | colon
  | semicolon
  | comma
  | sign (kind : MatchSign)
  | commentOpen
  | commentClose
  | opening (bracket : Bracket)
  | closing (bracket : Bracket)
  | delim (char : Char)
  deriving DecidableEq, Repr

/-- A token or a block with everything inside it. -/
inductive Component where
  | token (token : Token)
  | block (bracket : Bracket) (contents : List Component)
  | call (name : String) (contents : List Component)
  deriving Repr

namespace Token

/-- A token that can only come from a mistake: a string or address that ends
badly, or a closing bracket that closes nothing. -/
def isMistake : Token → Bool
  | badString => true
  | badUrl => true
  | closing _ => true
  | _ => false

end Token

namespace Component

/-- The components up to the bracket that closes the block under way, and the
tokens after it.  Outside every block `close` is none, and all tokens are read.
The number bounds how many tokens are left. -/
def nest : Nat → Option Bracket → List Token → List Component × List Token
  | 0, _, tokens => ([], tokens)
  | _, _, [] => ([], [])
  | fuel + 1, close, t :: rest =>
      match t with
      | .closing b =>
          if close == some b then ([], rest)
          else
            let (after, rest) := nest fuel close rest
            (.token t :: after, rest)
      | .opening b =>
          let (inside, rest) := nest fuel (some b) rest
          let (after, rest) := nest fuel close rest
          (.block b inside :: after, rest)
      | .function name =>
          let (inside, rest) := nest fuel (some .round) rest
          let (after, rest) := nest fuel close rest
          (.call name inside :: after, rest)
      | _ =>
          let (after, rest) := nest fuel close rest
          (.token t :: after, rest)

/-- The components that a sequence of tokens nests into. -/
def ofTokens (tokens : List Token) : List Component :=
  (nest (tokens.length + 1) none tokens).1

/-- A space. -/
def isSpace : Component → Bool
  | .token .space => true
  | _ => false

/-- A comma outside the blocks of the list it stands in. -/
def isComma : Component → Bool
  | .token .comma => true
  | _ => false

mutual

/-- No mistake among the tokens of a component. -/
def sound : Component → Bool
  | .token t => !t.isMistake
  | .block _ contents => allSound contents
  | .call _ contents => allSound contents

/-- No mistake in any of the components. -/
def allSound : List Component → Bool
  | [] => true
  | c :: rest => sound c && allSound rest

end

end Component

end BookCensus.Css
