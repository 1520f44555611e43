import BookCensus.Html.Arena
import BookCensus.Html.Foreign

/-!
# The state of tree construction

Tokens build the tree under an *insertion mode*.  Elements that have been
started but not ended are the *open elements*, innermost first; new nodes go
into the innermost one, the *current* one.  Inside a table, content that does
not belong there is *fostered*: it goes in front of the table instead.

The *formatting* elements are those that start again by themselves when a block
cuts through them; a marker keeps them from crossing the border of a cell or a
caption.
-/

namespace BookCensus.Html

open Document

/-- The insertion modes. -/
inductive Mode where
  | initial
  | beforeHtml
  | beforeHead
  | inHead
  | afterHead
  | inBody
  | text
  | inTable
  | inTableText
  | inCaption
  | inColumnGroup
  | inTableBody
  | inRow
  | inCell
  | inSelect
  | inSelectInTable
  | inTemplate
  | afterBody
  | inFrameset
  | afterFrameset
  | afterAfterBody
  | afterAfterFrameset
  deriving DecidableEq, Repr, Inhabited

/-- An entry of the list of formatting elements. -/
inductive Formatting where
  | marker
  | element (id : Nat) (tag : Tag)
  deriving Inhabited

/-- Everything that tree construction remembers between tokens.  Open elements,
formatting entries, template modes and pending text have the latest first. -/
structure Builder where
  arena : Arena
  mode : Mode
  returnMode : Mode
  contentModel : ContentModel
  openElements : List Nat
  formatting : List Formatting
  templateModes : List Mode
  pendingText : List Token
  head : Option Nat
  form : Option Nat
  legacy : Bool
  framesetOk : Bool
  fostering : Bool
  dropNewline : Bool
  deriving Inhabited

/-- What to do after a step: go on to the next token, or have another look at
one under the mode that now holds. -/
inductive Next where
  | done
  | again (token : Token)
  deriving Inhabited

/-- A step of tree construction. -/
abbrev Build := StateM Builder

namespace Builder

/-- Nothing read yet. -/
def start : Builder where
  arena := .empty
  mode := .initial
  returnMode := .initial
  contentModel := .data
  openElements := []
  formatting := []
  templateModes := []
  pendingText := []
  head := none
  form := none
  legacy := false
  framesetOk := true
  fostering := false
  dropNewline := false

/-- The element with a number; numbers of other nodes do not occur where this
is asked. -/
def element (b : Builder) (id : Nat) : Element :=
  (b.arena.element? id).getD default

/-- The current element. -/
def current (b : Builder) : Nat :=
  b.openElements.headD Arena.document

/-- The outermost open element. -/
def outermost (b : Builder) : Nat :=
  b.openElements.getLastD Arena.document

/-- Whether a number is that of an HTML element with one of some names. -/
def isHtml (b : Builder) (names : List String) (id : Nat) : Bool :=
  let e := b.element id
  e.space == .html && names.contains e.name

/-- Whether the current element is an HTML element with one of some names. -/
def currentIs (b : Builder) (names : List String) : Bool :=
  !b.openElements.isEmpty && b.isHtml names b.current

/-- Whether some open element is an HTML element of a name. -/
def hasOpen (b : Builder) (name : String) : Bool :=
  b.openElements.any (b.isHtml [name])

/-! ## Scopes -/

/-- The elements that an ordinary scope does not reach out of. -/
def defaultBorder (e : Element) : Bool :=
  (e.space == .html
      && ["applet", "caption", "html", "table", "td", "th", "marquee", "object",
          "template"].contains e.name)
    || isMathText e || isSvgHolder e

/-- The border of the scope of a list item. -/
def listBorder (e : Element) : Bool :=
  defaultBorder e || (e.space == .html && ["ol", "ul"].contains e.name)

/-- The border of the scope of a paragraph. -/
def buttonBorder (e : Element) : Bool :=
  defaultBorder e || (e.space == .html && e.name == "button")

/-- The border of the scope of a part of a table. -/
def tableBorder (e : Element) : Bool :=
  e.space == .html && ["html", "table", "template"].contains e.name

/-- The border of the scope of a list of choices. -/
def selectBorder (e : Element) : Bool :=
  !(e.space == .html && ["optgroup", "option"].contains e.name)

/-- Whether an open element passes a test, looking outwards as far as a
border. -/
def inScope (b : Builder) (border : Element → Bool) (test : Nat → Bool) : Bool :=
  go b.openElements
where
  /-- The search among some of the open elements. -/
  go : List Nat → Bool
    | [] => false
    | id :: rest => test id || (!border (b.element id) && go rest)

/-- Whether an HTML element of a name is in scope. -/
def scopeHas (b : Builder) (border : Element → Bool) (name : String) : Bool :=
  b.inScope border (b.isHtml [name])

/-- The elements that end tags are taken to end silently. -/
def impliedEnds : List String :=
  ["dd", "dt", "li", "option", "optgroup", "p", "rb", "rp", "rt", "rtc"]

/-- The elements that the end of a template is taken to end silently. -/
def thoroughImpliedEnds : List String :=
  impliedEnds ++ ["caption", "colgroup", "tbody", "td", "tfoot", "th", "thead", "tr"]

/-- Headings. -/
def headings : List String :=
  ["h1", "h2", "h3", "h4", "h5", "h6"]

/-- The elements with parsing rules of their own. -/
def specials : List String :=
  ["address", "applet", "area", "article", "aside", "base", "basefont", "bgsound",
   "blockquote", "body", "br", "button", "caption", "center", "col", "colgroup", "dd",
   "details", "dir", "div", "dl", "dt", "embed", "fieldset", "figcaption", "figure",
   "footer", "form", "frame", "frameset", "h1", "h2", "h3", "h4", "h5", "h6", "head",
   "header", "hgroup", "hr", "html", "iframe", "img", "input", "isindex", "li", "link",
   "listing", "main", "marquee", "menu", "meta", "nav", "noembed", "noframes", "noscript",
   "object", "ol", "p", "param", "plaintext", "pre", "script", "section", "select",
   "source", "style", "summary", "table", "tbody", "td", "template", "textarea", "tfoot",
   "th", "thead", "title", "tr", "track", "ul", "wbr", "xmp"]

/-! ## Open elements -/

/-- Take off open elements up to and with the first that passes. -/
def dropThrough (test : Nat → Bool) : List Nat → List Nat
  | [] => []
  | id :: rest => if test id then rest else dropThrough test rest

/-- End the current element. -/
def pop : Build Unit :=
  modify fun b => { b with openElements := b.openElements.drop 1 }

/-- End the open elements up to and with the first of a name. -/
def popUntil (names : List String) : Build Unit :=
  modify fun b => { b with openElements := dropThrough (b.isHtml names) b.openElements }

/-- End the open elements above the first with one of some names. -/
def popUntilCurrent (names : List String) : Build Unit :=
  modify fun b =>
    { b with openElements := b.openElements.dropWhile fun id => !b.isHtml names id }

/-- End the current elements that are ended silently, one name excepted. -/
def endImplied (names : List String) (excepted : String) : Build Unit :=
  modify fun b =>
    { b with
      openElements := b.openElements.dropWhile fun id =>
        b.isHtml names id && (b.element id).name != excepted }

/-- Take an element out of the open elements, wherever it stands. -/
def closeElement (id : Nat) : Build Unit :=
  modify fun b => { b with openElements := b.openElements.erase id }

/-- End a paragraph. -/
def closeParagraph : Build Unit := do
  endImplied impliedEnds "p"
  popUntil ["p"]

/-- End a paragraph if one is open near enough. -/
def closeParagraphInScope : Build Unit := do
  if (← get).scopeHas buttonBorder "p" then closeParagraph

/-! ## Inserting nodes -/

/-- Where a new node goes. -/
inductive Target where
  | lastIn (parent : Nat)
  | beforeTable (table outer : Nat)

/-- The fragment that holds the contents of a template. -/
def contentsOf (b : Builder) (template : Nat) : Nat :=
  (b.arena.get template).children.getLastD template

/-- The place for content that does not belong into the table under way. -/
def fosterTarget (b : Builder) : List Nat → Target
  | [] => .lastIn b.outermost
  | id :: rest =>
      if b.isHtml ["template"] id then .lastIn (b.contentsOf id)
      else if b.isHtml ["table"] id then .beforeTable id (rest.headD id)
      else fosterTarget b rest

/-- Where a node goes that is meant for an element. -/
def targetFor (b : Builder) (id : Nat) : Target :=
  if b.fostering && b.isHtml ["table", "tbody", "tfoot", "thead", "tr"] id then
    b.fosterTarget b.openElements
  else if b.isHtml ["template"] id then .lastIn (b.contentsOf id)
  else .lastIn id

/-- Put a node where it goes.  A table that is nowhere in the tree leaves the
node to the element outside the table. -/
def place (target : Target) (id : Nat) : Build Unit :=
  modify fun b =>
    match target with
    | .lastIn parent => { b with arena := b.arena.append parent id }
    | .beforeTable table outer =>
        if (b.arena.get table).parent.isSome then
          { b with arena := b.arena.insertBefore table id }
        else { b with arena := b.arena.append outer id }

/-- Add text where it goes. -/
def placeText (run : String) : Build Unit :=
  modify fun b =>
    match b.targetFor b.current with
    | .lastIn parent => { b with arena := b.arena.appendText parent run }
    | .beforeTable table outer =>
        if (b.arena.get table).parent.isSome then
          { b with arena := b.arena.insertTextBefore table run }
        else { b with arena := b.arena.appendText outer run }

/-- A new node that is nowhere yet. -/
def create (content : Content) : Build Nat :=
  modifyGet fun b =>
    let (id, arena) := b.arena.create content
    (id, { b with arena := arena })

/-- A new element that is nowhere yet.  A template comes with the fragment that
holds its contents. -/
def createElement (space : Namespace) (name : String) (attributes : List (String × String)) :
    Build Nat := do
  let serial := (← get).arena.records.size
  let attributes := attributes.map fun (name, value) => adjustAttribute space name value
  let id ← create (.element ⟨serial, space, name, attributes⟩)
  if space == .html && name == "template" then
    let fragment ← create .fragment
    modify fun b => { b with arena := b.arena.append id fragment }
  return id

/-- A new element where it goes, open or ended at once. -/
def insert (space : Namespace) (tag : Tag) (keepOpen : Bool) : Build Nat := do
  let id ← createElement space (adjustName space tag.name) tag.attributes
  let b ← get
  place (b.targetFor b.current) id
  if keepOpen then modify fun b => { b with openElements := id :: b.openElements }
  return id

/-- Open an HTML element. -/
def openTag (tag : Tag) : Build Unit := do
  let _ ← insert .html tag true

/-- Insert an HTML element that has no contents. -/
def voidTag (tag : Tag) : Build Unit := do
  let _ ← insert .html tag false

/-- Open an HTML element that the text leaves out. -/
def openImplied (name : String) : Build Unit :=
  openTag ⟨name, [], false⟩

/-- Add a comment where it goes. -/
def addComment (content : String) : Build Unit := do
  let id ← create (.comment content)
  let b ← get
  place (b.targetFor b.current) id

/-- Add a comment at the end of a given node. -/
def addCommentTo (parent : Nat) (content : String) : Build Unit := do
  let id ← create (.comment content)
  place (.lastIn parent) id

/-- Open an element of another vocabulary, or insert it where its tag says that
it has no contents. -/
def openForeign (space : Namespace) (tag : Tag) : Build Unit := do
  let _ ← insert space tag (!tag.selfClosing)

/-! ## Modes -/

/-- Go on under another mode. -/
def setMode (mode : Mode) : Build Unit :=
  modify fun b => { b with mode := mode }

/-- Look at a token again under another mode. -/
def reprocess (mode : Mode) (token : Token) : Build Next := do
  setMode mode
  return .again token

/-- A frameset may no longer take the place of the body. -/
def keepBody : Build Unit :=
  modify fun b => { b with framesetOk := false }

/-- Open an element whose contents are text under a content model. -/
def openText (tag : Tag) (model : ContentModel) : Build Unit := do
  openTag tag
  modify fun b => { b with returnMode := b.mode, mode := .text, contentModel := model }

/-- The mode that suits the open elements. -/
def suitableMode (b : Builder) : Mode :=
  go b.openElements
where
  /-- The mode inside a list of choices with some elements outside it. -/
  selectMode : List Nat → Mode
    | [] => .inSelect
    | id :: rest =>
        if b.isHtml ["template"] id then .inSelect
        else if b.isHtml ["table"] id then .inSelectInTable
        else selectMode rest
  /-- The search among some of the open elements. -/
  go : List Nat → Mode
    | [] => .inBody
    | id :: rest =>
        let e := b.element id
        let last := rest.isEmpty
        if e.space != .html then go rest
        else
          match e.name with
          | "select" => selectMode rest
          | "td" => if last then go rest else .inCell
          | "th" => if last then go rest else .inCell
          | "tr" => .inRow
          | "tbody" => .inTableBody
          | "thead" => .inTableBody
          | "tfoot" => .inTableBody
          | "caption" => .inCaption
          | "colgroup" => .inColumnGroup
          | "table" => .inTable
          | "template" => b.templateModes.headD .inBody
          | "head" => if last then go rest else .inHead
          | "body" => .inBody
          | "frameset" => .inFrameset
          | "html" => if b.head.isNone then .beforeHead else .afterHead
          | _ => go rest

/-- Go on under the mode that suits the open elements. -/
def resetMode : Build Unit :=
  modify fun b => { b with mode := b.suitableMode }

/-- Change the mode that the contents of the innermost template are read in. -/
def setTemplateMode (mode : Mode) : Build Unit :=
  modify fun b => { b with templateModes := mode :: b.templateModes.drop 1 }

end Builder

end BookCensus.Html
