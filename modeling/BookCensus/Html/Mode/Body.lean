import BookCensus.Html.Mode.Head

/-!
# Inside the body

The mode that most of a document is read in, and the one that other modes fall
back on.
-/

namespace BookCensus.Html.Builder

/-- The value of an attribute of a tag. -/
def attributeOf (tag : Tag) (name : String) : Option String :=
  tag.attributes.lookup name

/-- An input field that is not shown. -/
def isHiddenInput (tag : Tag) : Bool :=
  (attributeOf tag "type").any fun value => value.toLower == "hidden"

/-- The blocks that end a paragraph when they start. -/
def blocks : List String :=
  ["address", "article", "aside", "blockquote", "center", "details", "dialog", "dir", "div",
   "dl", "fieldset", "figcaption", "figure", "footer", "header", "hgroup", "main", "menu",
   "nav", "ol", "p", "section", "summary", "ul"]

/-- The blocks whose end tag ends what is open inside them. -/
def closingBlocks : List String :=
  ["address", "article", "aside", "blockquote", "button", "center", "details", "dialog",
   "dir", "div", "dl", "fieldset", "figcaption", "figure", "footer", "header", "hgroup",
   "listing", "main", "menu", "nav", "ol", "pre", "section", "summary", "ul"]

/-- The formatting elements, links and `nobr` apart. -/
def formattingTags : List String :=
  ["b", "big", "code", "em", "font", "i", "s", "small", "strike", "strong", "tt", "u"]

/-- A new item of a list ends the item before it, unless an element with rules
of its own stands in between. -/
def closeItem (names : List String) : Build Unit := do
  let b ← get
  match found b b.openElements with
  | none => return
  | some name =>
      endImplied impliedEnds name
      popUntil [name]
where
  /-- The name of the innermost open item. -/
  found (b : Builder) : List Nat → Option String
    | [] => none
    | id :: rest =>
        let e := b.element id
        if b.isHtml names id then some e.name
        else if b.isHtml specials id && !(["address", "div", "p"].contains e.name) then none
        else found b rest

/-- End the element of a name that is in scope. -/
def closeInScope (border : Document.Element → Bool) (name : String) : Build Unit := do
  if (← get).scopeHas border name then
    endImplied impliedEnds ""
    popUntil [name]

/-- The end of the text inside a template that was not ended: all templates end
one after the other. -/
def endInTemplate (token : Token) : Build Next := do
  if !(← get).hasOpen "template" then return .done
  else
    popUntil ["template"]
    clearToMarker
    modify fun b => { b with templateModes := b.templateModes.drop 1 }
    resetMode
    return .again token

/-- Text inside the body. -/
def bodyText (run : String) (blank : Bool) : Build Next := do
  restoreFormatting
  if !blank then keepBody
  placeText run
  return .done

/-- A tag of an element without contents that stands in running text. -/
def inlineVoid (tag : Tag) : Build Unit := do
  restoreFormatting
  voidTag tag
  if !(tag.name == "input" && isHiddenInput tag) then keepBody

/-- A frameset takes the place of the body. -/
def replaceBody (tag : Tag) : Build Unit := do
  let b ← get
  if b.framesetOk then
    match b.openElements.reverse with
    | root :: body :: _ =>
        if b.isHtml ["body"] body then
          modify fun b => { b with arena := b.arena.detach body, openElements := [root] }
          openTag tag
          setMode .inFrameset
    | _ => return

/-- A second start tag of the body only adds attributes to it. -/
def mergeBody (tag : Tag) : Build Unit := do
  let b ← get
  match b.openElements.reverse with
  | _ :: body :: _ =>
      if b.isHtml ["body"] body && !b.hasOpen "template" then
        keepBody
        modify fun b => { b with arena := b.arena.addAttributes body tag.attributes }
  | _ => return

/-- A start tag inside the body. -/
def bodyStart (token : Token) (tag : Tag) : Build Next := do
  let name := tag.name
  if name == "html" then return ← mergeRoot tag
  if headTags.contains name then return ← inHead token
  if blocks.contains name then
    closeParagraphInScope
    openTag tag
  else if headings.contains name then
    closeParagraphInScope
    if (← get).currentIs headings then pop
    openTag tag
  else if formattingTags.contains name then
    restoreFormatting
    openFormatting tag
  else
    match name with
    | "body" => mergeBody tag
    | "frameset" => replaceBody tag
    | "pre" | "listing" =>
        closeParagraphInScope
        openTag tag
        modify fun b => { b with dropNewline := true }
        keepBody
    | "form" =>
        let b ← get
        let inTemplate := b.hasOpen "template"
        if b.form.isNone || inTemplate then
          closeParagraphInScope
          let id ← insert .html tag true
          if !inTemplate then modify fun b => { b with form := some id }
    | "li" =>
        keepBody
        closeItem ["li"]
        closeParagraphInScope
        openTag tag
    | "dd" | "dt" =>
        keepBody
        closeItem ["dd", "dt"]
        closeParagraphInScope
        openTag tag
    | "plaintext" =>
        closeParagraphInScope
        openTag tag
        modify fun b => { b with contentModel := .plaintext }
    | "button" =>
        if (← get).scopeHas defaultBorder "button" then
          endImplied impliedEnds ""
          popUntil ["button"]
        restoreFormatting
        openTag tag
        keepBody
    | "a" =>
        endOuterLink
        restoreFormatting
        openFormatting tag
    | "nobr" =>
        restoreFormatting
        if (← get).scopeHas defaultBorder "nobr" then
          endFormatting "nobr"
          restoreFormatting
        openFormatting tag
    | "applet" | "marquee" | "object" =>
        restoreFormatting
        openTag tag
        addMarker
        keepBody
    | "table" =>
        if !(← get).legacy then closeParagraphInScope
        openTag tag
        keepBody
        setMode .inTable
    | "area" | "br" | "embed" | "img" | "keygen" | "wbr" | "input" => inlineVoid tag
    | "image" => inlineVoid { tag with name := "img" }
    | "param" | "source" | "track" => voidTag tag
    | "hr" =>
        closeParagraphInScope
        voidTag tag
        keepBody
    | "textarea" =>
        modify fun b => { b with dropNewline := true }
        keepBody
        openText tag (.rcdata "textarea")
    | "xmp" =>
        closeParagraphInScope
        restoreFormatting
        keepBody
        openText tag (.rawtext "xmp")
    | "iframe" =>
        keepBody
        openText tag (.rawtext "iframe")
    | "noembed" | "noscript" => openText tag (.rawtext name)
    | "select" =>
        restoreFormatting
        openTag tag
        keepBody
        let inTable :=
          [Mode.inTable, .inCaption, .inTableBody, .inRow, .inCell].contains (← get).mode
        setMode (if inTable then .inSelectInTable else .inSelect)
    | "optgroup" | "option" =>
        if (← get).currentIs ["option"] then pop
        restoreFormatting
        openTag tag
    | "rb" | "rtc" =>
        if (← get).scopeHas defaultBorder "ruby" then endImplied impliedEnds ""
        openTag tag
    | "rp" | "rt" =>
        if (← get).scopeHas defaultBorder "ruby" then endImplied impliedEnds "rtc"
        openTag tag
    | "math" =>
        restoreFormatting
        openForeign .mathml tag
    | "svg" =>
        restoreFormatting
        openForeign .svg tag
    | "caption" | "col" | "colgroup" | "frame" | "head" | "tbody" | "td" | "tfoot" | "th"
    | "thead" | "tr" => return .done
    | _ =>
        restoreFormatting
        openTag tag
  return .done

/-- The end tag of a form. -/
def closeForm : Build Unit := do
  let b ← get
  if b.hasOpen "template" then closeInScope defaultBorder "form"
  else
    modify fun b => { b with form := none }
    match b.form with
    | none => return
    | some id =>
        if b.inScope defaultBorder (· == id) then
          endImplied impliedEnds ""
          closeElement id

/-- An end tag inside the body. -/
def bodyClose (token : Token) (name : String) : Build Next := do
  if closingBlocks.contains name then closeInScope defaultBorder name
  else if headings.contains name then
    let b ← get
    if b.inScope defaultBorder (b.isHtml headings) then
      endImplied impliedEnds ""
      popUntil headings
  else if formattingTags.contains name || name == "a" || name == "nobr" then endFormatting name
  else
    match name with
    | "template" => return ← inHead token
    | "body" =>
        if (← get).scopeHas defaultBorder "body" then setMode .afterBody
    | "html" =>
        if (← get).scopeHas defaultBorder "body" then return ← reprocess .afterBody token
    | "form" => closeForm
    | "p" =>
        if !(← get).scopeHas buttonBorder "p" then openImplied "p"
        closeParagraph
    | "li" =>
        if (← get).scopeHas listBorder "li" then
          endImplied impliedEnds "li"
          popUntil ["li"]
    | "dd" | "dt" =>
        if (← get).scopeHas defaultBorder name then
          endImplied impliedEnds name
          popUntil [name]
    | "applet" | "marquee" | "object" =>
        if (← get).scopeHas defaultBorder name then
          endImplied impliedEnds ""
          popUntil [name]
          clearToMarker
    | "br" => inlineVoid ⟨"br", [], false⟩
    | _ => endOrdinary name
  return .done

/-- Inside the body. -/
def inBody (token : Token) : Build Next := do
  match token with
  | .nul => return .done
  | .blank run => bodyText run true
  | .text run => bodyText run false
  | .comment content =>
      addComment content
      return .done
  | .start tag => bodyStart token tag
  | .close name => bodyClose token name
  | .eof => if (← get).templateModes.isEmpty then return .done else endInTemplate token
  | .doctype _ => return .done

end BookCensus.Html.Builder
