import BookCensus.Html.Lexer
import BookCensus.Html.Mode.Other

/-!
# Reading documents

`parse` turns any text into a document: it reads tokens and hands each to tree
construction until the text ends.  A token may be looked at several times, each
time under another mode; the number of open elements bounds how often.
-/

namespace BookCensus.Html

open Document Builder

/-- Drop the line feed at the front of a run, which is then nothing or shorter. -/
def dropLineFeed (token : Token) : Option Token :=
  let drop (run : String) (make : String → Token) : Option Token :=
    match run.toList with
    | '\n' :: [] => none
    | '\n' :: rest => some (make (String.ofList rest))
    | _ => some token
  match token with
  | .blank run => drop run .blank
  | .text run => drop run .text
  | _ => some token

/-- A document type declaration, which counts only at the very start. -/
def takeDoctype (d : Doctype) (b : Builder) : Builder :=
  if b.mode == .initial then { b with mode := .beforeHtml, legacy := d.isLegacy } else b

/-- Look at a token until tree construction is done with it. -/
def process : Nat → Token → Builder → Builder
  | 0, _, b => b
  | fuel + 1, token, b =>
      match (step token).run b with
      | (.done, b) => b
      | (.again token, b) => process fuel token b

/-- Take one token. -/
def take (b : Builder) (token : Token) : Builder :=
  let dropping := b.dropNewline
  let b := { b with dropNewline := false }
  match token with
  | .doctype d => takeDoctype d b
  | _ =>
      match if dropping then dropLineFeed token else some token with
      | none => b
      | some token => process (4 * b.openElements.length + 24) token b

/-- Take the tokens of a text, and the end of the text last.  Every round but the
last takes a character or more, so the number stays above that of the characters
left. -/
def build : Nat → List Char → Builder → Builder
  | 0, _, b => b
  | fuel + 1, cs, b =>
      let foreign := !b.openElements.isEmpty && (b.element b.current).space != .html
      let (tokens, rest) := Token.read (fuel + 1) b.contentModel foreign cs
      let b := tokens.foldl take b
      if cs.isEmpty then b else build fuel rest b

/-- The document that a text denotes. -/
def parse (text : String) : Tree :=
  let cs := prepare text.toList
  (build (cs.length + 1) cs .start).arena.toTree

end BookCensus.Html
