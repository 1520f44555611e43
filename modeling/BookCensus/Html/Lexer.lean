import BookCensus.Html.Token
import BookCensus.Html.Reference

/-!
# Reading the tokens of HTML text

`Token.read` reads the tokens at the front of a text under a content model.  It
is asked again for every token, since tree construction may change the content
model after a start tag.  A tag or declaration that runs into the end of the
text is dropped; nothing is ever refused.

Every step takes at least one character.  So all loops share one bound on the
number of their steps, which is greater than the number of characters left.
-/

namespace BookCensus.Html

open Text

/-- The character that stands in for NUL. -/
def replacement : Char :=
  '\ufffd'

/-- A character as it stands in a name or value: NUL is replaced. -/
def orReplacement (c : Char) : Char :=
  if c == '\x00' then replacement else c

/-- Line ends are a line feed each, whether they were written as carriage
return, line feed, or both. -/
def normalizeLines : List Char → List Char
  | '\r' :: '\n' :: rest => '\n' :: normalizeLines rest
  | '\r' :: rest => '\n' :: normalizeLines rest
  | c :: rest => c :: normalizeLines rest
  | [] => []

/-- The text as it is read: a mark of byte order at the front is dropped and
line ends are made alike. -/
def prepare (text : List Char) : List Char :=
  match text with
  | '\ufeff' :: rest => normalizeLines rest
  | _ => normalizeLines text

/-- A run of characters that may stand together in one token. -/
def textToken (run : List Char) : Token :=
  if run.all isBlankChar then .blank (String.ofList run) else .text (String.ofList run)

/-! ## Tags -/

/-- A value between quotation marks: its characters, and what follows the
closing mark; none where there is no closing mark. -/
def quotedValue (quote : Char) : Nat → List Char → List Char → Option (List Char × List Char)
  | 0, _, _ => none
  | fuel + 1, done, cs =>
      match cs with
      | [] => none
      | c :: rest =>
          if c == quote then some (done.reverse, rest)
          else if c == '&' then
            let (chars, rest) := reference true rest
            quotedValue quote fuel (chars.reverse ++ done) rest
          else quotedValue quote fuel (orReplacement c :: done) rest

/-- A value without quotation marks; it ends before a blank or the end of the
tag. -/
def bareValue : Nat → List Char → List Char → List Char × List Char
  | 0, done, cs => (done.reverse, cs)
  | fuel + 1, done, cs =>
      match cs with
      | [] => (done.reverse, [])
      | c :: rest =>
          if isBlankChar c || c == '>' then (done.reverse, cs)
          else if c == '&' then
            let (chars, rest) := reference true rest
            bareValue fuel (chars.reverse ++ done) rest
          else bareValue fuel (orReplacement c :: done) rest

/-- The value after an equals sign. -/
def attributeValue? (bound : Nat) (cs : List Char) : Option (List Char × List Char) :=
  let cs := cs.dropWhile isBlankChar
  match cs with
  | [] => none
  | '"' :: rest => quotedValue '"' bound [] rest
  | '\'' :: rest => quotedValue '\'' bound [] rest
  | '>' :: _ => some ([], cs)
  | _ => some (bareValue bound [] cs)

/-- A character that ends the name of an attribute. -/
def endsAttributeName (c : Char) : Bool :=
  isBlankChar c || c == '/' || c == '>' || c == '='

/-- Add an attribute unless there is one of its name. -/
def addAttribute (done : List (String × String)) (name value : List Char) :
    List (String × String) :=
  let name := String.ofList name
  if done.any fun a => a.1 == name then done else done ++ [(name, String.ofList value)]

/-- The attributes of a tag up to its end, whether a solidus stands right before
the end, and what follows; none where the text ends inside the tag. -/
def attributes? : Nat → List (String × String) → List Char →
    Option (List (String × String) × Bool × List Char)
  | 0, _, _ => none
  | fuel + 1, done, cs =>
      match cs.dropWhile isBlankChar with
      | [] => none
      | '>' :: rest => some (done, false, rest)
      | '/' :: '>' :: rest => some (done, true, rest)
      | '/' :: rest => attributes? fuel done rest
      | c :: rest =>
          let name := (c :: rest.takeWhile fun d => !endsAttributeName d).map
            fun d => lowerChar (orReplacement d)
          let rest := (rest.dropWhile fun d => !endsAttributeName d).dropWhile isBlankChar
          match rest with
          | '=' :: rest =>
              match attributeValue? fuel rest with
              | none => none
              | some (value, rest) => attributes? fuel (addAttribute done name value) rest
          | _ => attributes? fuel (addAttribute done name []) rest

/-- A tag from the first letter of its name on. -/
def tag? (bound : Nat) (cs : List Char) : Option (Tag × List Char) :=
  let endsName (c : Char) : Bool := isBlankChar c || c == '/' || c == '>'
  let name := (cs.takeWhile fun c => !endsName c).map fun c => lowerChar (orReplacement c)
  match attributes? bound [] (cs.dropWhile fun c => !endsName c) with
  | none => none
  | some (attributes, selfClosing, rest) =>
      some (⟨String.ofList name, attributes, selfClosing⟩, rest)

/-! ## Comments and declarations -/

/-- Where a comment stands, by the hyphens and exclamation marks just read. -/
inductive CommentState where
  | start
  | startDash
  | body
  | dash
  | dashes
  | bang

/-- A comment after its opening: its characters and what follows it. -/
def commentFrom : CommentState → List Char → List Char → List Char × List Char
  | _, done, [] => (done.reverse, [])
  | .start, done, c :: rest =>
      if c == '-' then commentFrom .startDash done rest
      else if c == '>' then (done.reverse, rest)
      else commentFrom .body (orReplacement c :: done) rest
  | .startDash, done, c :: rest =>
      if c == '-' then commentFrom .dashes done rest
      else if c == '>' then (done.reverse, rest)
      else commentFrom .body (orReplacement c :: '-' :: done) rest
  | .body, done, c :: rest =>
      if c == '-' then commentFrom .dash done rest
      else commentFrom .body (orReplacement c :: done) rest
  | .dash, done, c :: rest =>
      if c == '-' then commentFrom .dashes done rest
      else commentFrom .body (orReplacement c :: '-' :: done) rest
  | .dashes, done, c :: rest =>
      if c == '>' then (done.reverse, rest)
      else if c == '!' then commentFrom .bang done rest
      else if c == '-' then commentFrom .dashes ('-' :: done) rest
      else commentFrom .body (orReplacement c :: '-' :: '-' :: done) rest
  | .bang, done, c :: rest =>
      if c == '-' then commentFrom .dash ('!' :: '-' :: '-' :: done) rest
      else if c == '>' then (done.reverse, rest)
      else commentFrom .body (orReplacement c :: '!' :: '-' :: '-' :: done) rest

/-- Anything else between angle brackets is a comment up to the next closing
one. -/
def bogusComment (cs : List Char) : Token × List Char :=
  (.comment (String.ofList ((cs.takeWhile (· != '>')).map orReplacement)),
    (cs.dropWhile (· != '>')).drop 1)

/-- The rest after a word, if a text starts with it in any case. -/
def afterWord? (word : String) (cs : List Char) : Option (List Char) :=
  let n := word.length
  if lowerChars (cs.take n) == word.toList then some (cs.drop n) else none

/-- An identifier between quotation marks, cut short by the end of the
declaration.  The mark tells whether it was closed. -/
def quotedIdentifier (quote : Char) (cs : List Char) : String × Bool × List Char :=
  let stops (c : Char) : Bool := c == quote || c == '>'
  let id := String.ofList ((cs.takeWhile fun c => !stops c).map orReplacement)
  match cs.dropWhile fun c => !stops c with
  | c :: rest => if c == quote then (id, true, rest) else (id, false, c :: rest)
  | [] => (id, false, [])

/-- What is left of a declaration once nothing in it matters any more. -/
def afterDeclaration (cs : List Char) : List Char :=
  (cs.dropWhile (· != '>')).drop 1

/-- The system identifier at the front of what is left of a declaration. -/
def systemIdentifier (d : Doctype) (required : Bool) (cs : List Char) : Doctype × List Char :=
  match cs.dropWhile isBlankChar with
  | '>' :: rest => (⟨d.name, d.publicId, none, d.malformed || required⟩, rest)
  | [] => (⟨d.name, d.publicId, none, true⟩, [])
  | q :: rest =>
      if q == '"' || q == '\'' then
        let (id, closed, rest) := quotedIdentifier q rest
        let ended := (rest.dropWhile isBlankChar).isEmpty
        (⟨d.name, d.publicId, some id, d.malformed || !closed || ended⟩, afterDeclaration rest)
      else (⟨d.name, d.publicId, none, true⟩, afterDeclaration (q :: rest))

/-- The public identifier, and the system identifier that may follow it. -/
def publicIdentifier (d : Doctype) (cs : List Char) : Doctype × List Char :=
  match cs.dropWhile isBlankChar with
  | '>' :: rest => (⟨d.name, none, none, true⟩, rest)
  | [] => (⟨d.name, none, none, true⟩, [])
  | q :: rest =>
      if q == '"' || q == '\'' then
        let (id, closed, rest) := quotedIdentifier q rest
        if closed then systemIdentifier ⟨d.name, some id, none, d.malformed⟩ false rest
        else (⟨d.name, some id, none, true⟩, afterDeclaration rest)
      else (⟨d.name, none, none, true⟩, afterDeclaration (q :: rest))

/-- A document type declaration after its keyword. -/
def doctype (cs : List Char) : Doctype × List Char :=
  match cs.dropWhile isBlankChar with
  | [] => (⟨none, none, none, true⟩, [])
  | '>' :: rest => (⟨none, none, none, true⟩, rest)
  | cs =>
      let ends (c : Char) : Bool := isBlankChar c || c == '>'
      let name := String.ofList
        ((cs.takeWhile fun c => !ends c).map fun c => lowerChar (orReplacement c))
      let d : Doctype := ⟨some name, none, none, false⟩
      match (cs.dropWhile fun c => !ends c).dropWhile isBlankChar with
      | [] => (⟨some name, none, none, true⟩, [])
      | '>' :: rest => (d, rest)
      | rest =>
          match afterWord? "public" rest, afterWord? "system" rest with
          | some rest, _ => publicIdentifier d rest
          | none, some rest => systemIdentifier d true rest
          | none, none => (⟨some name, none, none, true⟩, afterDeclaration rest)

/-- The text of a section of character data, up to its end, and the rest. -/
def characterData : List Char → List Char → List Char × List Char
  | done, [] => (done.reverse, [])
  | done, ']' :: ']' :: '>' :: rest => (done.reverse, rest)
  | done, c :: rest => characterData (c :: done) rest

/-- Text cut into its runs, with NUL apart. -/
def textTokens : Nat → List Char → List Token
  | 0, _ => []
  | fuel + 1, cs =>
      match cs with
      | [] => []
      | c :: rest =>
          if c == '\x00' then .nul :: textTokens fuel rest
          else
            let same (d : Char) : Bool := d != '\x00' && isBlankChar d == isBlankChar c
            textToken (c :: rest.takeWhile same) :: textTokens fuel (rest.dropWhile same)

/-- What follows `<!`.  Sections of character data are known inside foreign
content only. -/
def declaration (inForeign : Bool) (cs : List Char) : List Token × List Char :=
  match cs with
  | '-' :: '-' :: rest =>
      let (content, rest) := commentFrom .start [] rest
      ([.comment (String.ofList content)], rest)
  | _ =>
      match afterWord? "doctype" cs with
      | some rest =>
          let (d, rest) := doctype rest
          ([.doctype d], rest)
      | none =>
          match inForeign, "[CDATA[".toList.isPrefixOf? cs with
          | true, some rest =>
              let (text, rest) := characterData [] rest
              (textTokens (text.length + 1) text, rest)
          | _, _ =>
              let (comment, rest) := bogusComment cs
              ([comment], rest)

/-! ## Text -/

/-- What follows the sign `<` in ordinary content. -/
def markup (bound : Nat) (inForeign : Bool) (cs : List Char) : List Token × List Char :=
  match cs with
  | '!' :: rest => declaration inForeign rest
  | '?' :: _ =>
      let (comment, rest) := bogusComment cs
      ([comment], rest)
  | '/' :: c :: rest =>
      if isLetter c then
        match tag? bound (c :: rest) with
        | some (tag, rest) => ([.close tag.name], rest)
        | none => ([], [])
      else if c == '>' then ([], rest)
      else
        let (comment, rest) := bogusComment (c :: rest)
        ([comment], rest)
  | c :: rest =>
      if isLetter c then
        match tag? bound (c :: rest) with
        | some (tag, rest) => ([.start tag], rest)
        | none => ([], [])
      else ([.text "<"], cs)
  | [] => ([.text "<"], [])

/-- Ordinary content. -/
def dataTokens (bound : Nat) (inForeign : Bool) (c : Char) (rest : List Char) :
    List Token × List Char :=
  if c == '<' then markup bound inForeign rest
  else if c == '&' then
    let (chars, rest) := reference false rest
    ([textToken chars], rest)
  else if c == '\x00' then ([.nul], rest)
  else
    let same (d : Char) : Bool :=
      d != '<' && d != '&' && d != '\x00' && isBlankChar d == isBlankChar c
    ([textToken (c :: rest.takeWhile same)], rest.dropWhile same)

/-- Whether a text starts with the end tag of an element, as far as its name. -/
def atEndTag (element : String) (cs : List Char) : Bool :=
  match cs with
  | '<' :: '/' :: rest =>
      match afterWord? element rest with
      | some (c :: _) => isBlankChar c || c == '/' || c == '>'
      | _ => false
  | _ => false

/-- The text of an element up to its end tag, with or without references. -/
def elementText (references : Bool) (element : String) :
    Nat → List Char → List Char → List Char × List Char
  | 0, done, cs => (done.reverse, cs)
  | fuel + 1, done, cs =>
      match cs with
      | [] => (done.reverse, [])
      | c :: rest =>
          if atEndTag element cs then (done.reverse, cs)
          else if references && c == '&' then
            let (chars, rest) := reference false rest
            elementText references element fuel (chars.reverse ++ done) rest
          else elementText references element fuel (orReplacement c :: done) rest

/-- How far a script is inside a comment: not at all, inside one, or inside a
script element inside one, which hides an end tag. -/
inductive ScriptState where
  | plain
  | escaped
  | doubled
  deriving DecidableEq

/-- Whether a text starts with the word script and a character that ends a
name. -/
def atScriptWord (cs : List Char) : Bool :=
  match afterWord? "script" cs with
  | some (c :: _) => isBlankChar c || c == '/' || c == '>'
  | _ => false

/-- The text of a script up to its end tag.  `dashes` counts the hyphens just
read inside a comment. -/
def scriptText : Nat → ScriptState → Nat → List Char → List Char → List Char × List Char
  | 0, _, _, done, cs => (done.reverse, cs)
  | fuel + 1, state, dashes, done, cs =>
      match cs with
      | [] => (done.reverse, [])
      | c :: rest =>
          if state != .doubled && atEndTag "script" cs then (done.reverse, cs)
          else
            match state with
            | .plain =>
                if "<!--".toList.isPrefixOf cs then
                  scriptText fuel .escaped 2 ('-' :: '-' :: '!' :: '<' :: done) (cs.drop 4)
                else scriptText fuel .plain 0 (orReplacement c :: done) rest
            | .escaped =>
                if c == '>' && 2 ≤ dashes then scriptText fuel .plain 0 (c :: done) rest
                else if c == '-' then scriptText fuel .escaped (dashes + 1) (c :: done) rest
                else if c == '<' && atScriptWord rest then
                  let word := rest.take 7
                  scriptText fuel .doubled 0 (word.reverse ++ c :: done) (rest.drop 7)
                else scriptText fuel .escaped 0 (orReplacement c :: done) rest
            | .doubled =>
                if c == '>' && 2 ≤ dashes then scriptText fuel .plain 0 (c :: done) rest
                else if c == '-' then scriptText fuel .doubled (dashes + 1) (c :: done) rest
                else if c == '<' && (rest.head? == some '/') && atScriptWord (rest.drop 1) then
                  let word := rest.take 8
                  scriptText fuel .escaped 0 (word.reverse ++ c :: done) (rest.drop 8)
                else scriptText fuel .doubled 0 (orReplacement c :: done) rest

/-- The tokens of an element whose text was read: the text, or its end tag where
it stands at the front. -/
def elementTokens (bound : Nat) (element : String) (text : List Char × List Char)
    (cs : List Char) : List Token × List Char :=
  if atEndTag element cs then
    match tag? bound (cs.drop 2) with
    | some (tag, rest) => ([.close tag.name], rest)
    | none => ([], [])
  else ([textToken text.1], text.2)

namespace Token

/-- The tokens at the front of a text, and the rest.  At the end of the text the
only token is `eof`; otherwise the rest is shorter. -/
def read (bound : Nat) (model : ContentModel) (inForeign : Bool) (cs : List Char) :
    List Token × List Char :=
  match cs with
  | [] => ([.eof], [])
  | c :: rest =>
      match model with
      | .data => dataTokens bound inForeign c rest
      | .rcdata element =>
          elementTokens bound element (elementText true element bound [] cs) cs
      | .rawtext element =>
          elementTokens bound element (elementText false element bound [] cs) cs
      | .script => elementTokens bound "script" (scriptText bound .plain 0 [] cs) cs
      | .plaintext => ([textToken (cs.map orReplacement)], [])

end Token

end BookCensus.Html
