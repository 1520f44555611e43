import BookCensus.Html.Formatting
import BookCensus.Html.Doctype

/-!
# Modes before the body

How tokens are taken before the document element, before the head, inside it
and after it.  Elements that the text leaves out are opened on the way.
-/

namespace BookCensus.Html.Builder

/-- Nothing but a document type, comments and blanks has been read. -/
def initial (token : Token) : Build Next := do
  match token with
  | .blank _ => return .done
  | .comment content =>
      addCommentTo Arena.document content
      return .done
  | _ =>
      modify fun b => { b with legacy := true }
      reprocess .beforeHtml token

/-- Create the document element. -/
def openRoot (attributes : List (String × String)) : Build Unit := do
  let id ← createElement .html "html" attributes
  place (.lastIn Arena.document) id
  modify fun b => { b with openElements := [id] }

/-- The document element is still to come. -/
def beforeHtml (token : Token) : Build Next := do
  let implied : Build Next := do
    openRoot []
    reprocess .beforeHead token
  match token with
  | .blank _ => return .done
  | .comment content =>
      addCommentTo Arena.document content
      return .done
  | .start tag =>
      if tag.name == "html" then
        openRoot tag.attributes
        setMode .beforeHead
        return .done
      else implied
  | .close name =>
      if ["head", "body", "html", "br"].contains name then implied else return .done
  | _ => implied

/-- A second start tag of the document element only adds attributes to it. -/
def mergeRoot (tag : Tag) : Build Next := do
  modify fun b =>
    if b.hasOpen "template" then b
    else { b with arena := b.arena.addAttributes b.outermost tag.attributes }
  return .done

/-- Open the head. -/
def openHead (tag : Tag) : Build Unit := do
  let id ← insert .html tag true
  modify fun b => { b with head := some id, mode := .inHead }

/-- The head is still to come. -/
def beforeHead (token : Token) : Build Next := do
  let implied : Build Next := do
    openHead ⟨"head", [], false⟩
    return .again token
  match token with
  | .blank _ => return .done
  | .comment content =>
      addComment content
      return .done
  | .start tag =>
      if tag.name == "html" then mergeRoot tag
      else if tag.name == "head" then
        openHead tag
        return .done
      else implied
  | .close name =>
      if ["head", "body", "html", "br"].contains name then implied else return .done
  | _ => implied

/-- The end of a template. -/
def closeTemplate : Build Unit := do
  if (← get).hasOpen "template" then
    endImplied thoroughImpliedEnds ""
    popUntil ["template"]
    clearToMarker
    modify fun b => { b with templateModes := b.templateModes.drop 1 }
    resetMode

/-- The start of a template. -/
def openTemplate (tag : Tag) : Build Unit := do
  addMarker
  keepBody
  setMode .inTemplate
  modify fun b => { b with templateModes := .inTemplate :: b.templateModes }
  openTag tag

/-- Inside the head.  Other modes send the tags of the head here. -/
def inHead (token : Token) : Build Next := do
  let leave : Build Next := do
    pop
    reprocess .afterHead token
  match token with
  | .blank run =>
      placeText run
      return .done
  | .comment content =>
      addComment content
      return .done
  | .start tag =>
      match tag.name with
      | "html" => mergeRoot tag
      | "base" | "basefont" | "bgsound" | "link" | "meta" =>
          voidTag tag
          return .done
      | "title" =>
          openText tag (.rcdata "title")
          return .done
      | "noframes" | "style" | "noscript" =>
          openText tag (.rawtext tag.name)
          return .done
      | "script" =>
          openText tag .script
          return .done
      | "template" =>
          openTemplate tag
          return .done
      | "head" => return .done
      | _ => leave
  | .close name =>
      match name with
      | "head" =>
          pop
          setMode .afterHead
          return .done
      | "body" | "html" | "br" => leave
      | "template" =>
          closeTemplate
          return .done
      | _ => return .done
  | _ => leave

/-- The tags that belong into the head wherever they stand. -/
def headTags : List String :=
  ["base", "basefont", "bgsound", "link", "meta", "noframes", "script", "style", "template",
   "title"]

/-- After the head. -/
def afterHead (token : Token) : Build Next := do
  let implied : Build Next := do
    openImplied "body"
    reprocess .inBody token
  match token with
  | .blank run =>
      placeText run
      return .done
  | .comment content =>
      addComment content
      return .done
  | .start tag =>
      if tag.name == "html" then mergeRoot tag
      else if tag.name == "body" then
        openTag tag
        keepBody
        setMode .inBody
        return .done
      else if tag.name == "frameset" then
        openTag tag
        setMode .inFrameset
        return .done
      else if headTags.contains tag.name then
        match (← get).head with
        | none => return .done
        | some head =>
            modify fun b => { b with openElements := head :: b.openElements }
            let next ← inHead token
            closeElement head
            return next
      else if tag.name == "head" then return .done
      else implied
  | .close name =>
      match name with
      | "template" => inHead token
      | "body" | "html" | "br" => implied
      | _ => return .done
  | _ => implied

end BookCensus.Html.Builder
