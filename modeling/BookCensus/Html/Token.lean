/-!
# Tokens of HTML text

Text comes in runs that are either all blank or hold no blank, because tree
construction treats the two differently; the character NUL is a token of its
own.
-/

namespace BookCensus.Html

/-- A start tag, with its attributes in the order written and only the first of
each name. -/
structure Tag where
  name : String
  attributes : List (String × String)
  selfClosing : Bool
  deriving DecidableEq, Repr, Inhabited

/-- A document type declaration. -/
structure Doctype where
  name : Option String
  publicId : Option String
  systemId : Option String
  malformed : Bool
  deriving DecidableEq, Repr, Inhabited

/-- A token. -/
inductive Token where
  | doctype (doctype : Doctype)
  | start (tag : Tag)
  | close (name : String)
  | comment (content : String)
  | blank (run : String)
  | text (run : String)
  | nul
  | eof
  deriving DecidableEq, Repr, Inhabited

/-- How the text up to the next tag is read: as ordinary content; as text with
character references, or without, up to the end tag of the element under way;
as a script; or as text to the very end. -/
inductive ContentModel where
  | data
  | rcdata (element : String)
  | rawtext (element : String)
  | script
  | plaintext
  deriving DecidableEq, Repr, Inhabited

/-- The five characters that HTML treats as blank. -/
def isBlankChar (c : Char) : Bool :=
  c == ' ' || c == '\t' || c == '\n' || c == '\x0c' || c == '\r'

end BookCensus.Html
