import BookCensus.Html.Mode.Table

/-!
# Choices, templates, framesets and the end

The remaining modes, foreign content, and `Builder.step`, which sends a token
to the rules of the mode that holds.
-/

namespace BookCensus.Html.Builder

/-- The text of an element that holds nothing but text. -/
def inText (token : Token) : Build Next := do
  match token with
  | .blank run | .text run =>
      placeText run
      return .done
  | .eof =>
      pop
      reprocess (← get).returnMode token
  | .close _ =>
      pop
      modify fun b => { b with mode := b.returnMode, contentModel := .data }
      return .done
  | _ => return .done

/-- Inside a list of choices. -/
def inSelect (token : Token) : Build Next := do
  match token with
  | .nul => return .done
  | .blank run | .text run =>
      placeText run
      return .done
  | .comment content =>
      addComment content
      return .done
  | .start tag =>
      match tag.name with
      | "html" => mergeRoot tag
      | "option" =>
          if (← get).currentIs ["option"] then pop
          openTag tag
          return .done
      | "optgroup" =>
          if (← get).currentIs ["option"] then pop
          if (← get).currentIs ["optgroup"] then pop
          openTag tag
          return .done
      | "select" =>
          if (← get).scopeHas selectBorder "select" then
            popUntil ["select"]
            resetMode
          return .done
      | "input" | "keygen" | "textarea" =>
          if (← get).scopeHas selectBorder "select" then
            popUntil ["select"]
            resetMode
            return .again token
          else return .done
      | "script" | "template" => inHead token
      | _ => return .done
  | .close name =>
      match name with
      | "optgroup" =>
          let b ← get
          match b.openElements with
          | id :: outer :: _ =>
              if b.isHtml ["option"] id && b.isHtml ["optgroup"] outer then pop
          | _ => pure ()
          if (← get).currentIs ["optgroup"] then pop
          return .done
      | "option" =>
          if (← get).currentIs ["option"] then pop
          return .done
      | "select" =>
          if (← get).scopeHas selectBorder "select" then
            popUntil ["select"]
            resetMode
          return .done
      | "template" => inHead token
      | _ => return .done
  | .eof => inBody token
  | .doctype _ => return .done

/-- Inside a list of choices inside a table. -/
def inSelectInTable (token : Token) : Build Next := do
  let parts := ["caption", "table", "tbody", "tfoot", "thead", "tr", "td", "th"]
  match token with
  | .start tag =>
      if parts.contains tag.name then
        popUntil ["select"]
        resetMode
        return .again token
      else inSelect token
  | .close name =>
      if parts.contains name then
        if (← get).scopeHas tableBorder name then
          popUntil ["select"]
          resetMode
          return .again token
        else return .done
      else inSelect token
  | _ => inSelect token

/-- Right inside a template. -/
def inTemplate (token : Token) : Build Next := do
  let switch (mode : Mode) : Build Next := do
    setTemplateMode mode
    reprocess mode token
  match token with
  | .blank _ | .text _ | .comment _ => inBody token
  | .start tag =>
      if headTags.contains tag.name then inHead token
      else
        match tag.name with
        | "caption" | "colgroup" | "tbody" | "tfoot" | "thead" => switch .inTable
        | "col" => switch .inColumnGroup
        | "tr" => switch .inTableBody
        | "td" | "th" => switch .inRow
        | _ => switch .inBody
  | .close name => if name == "template" then inHead token else return .done
  | .eof => endInTemplate token
  | _ => return .done

/-- After the body. -/
def afterBody (token : Token) : Build Next := do
  match token with
  | .blank _ => inBody token
  | .comment content =>
      addCommentTo (← get).outermost content
      return .done
  | .start tag => if tag.name == "html" then mergeRoot tag else reprocess .inBody token
  | .close name =>
      if name == "html" then
        setMode .afterAfterBody
        return .done
      else reprocess .inBody token
  | .eof => return .done
  | _ => reprocess .inBody token

/-- Inside a frameset. -/
def inFrameset (token : Token) : Build Next := do
  match token with
  | .blank run =>
      placeText run
      return .done
  | .comment content =>
      addComment content
      return .done
  | .start tag =>
      match tag.name with
      | "html" => mergeRoot tag
      | "frameset" =>
          openTag tag
          return .done
      | "frame" =>
          voidTag tag
          return .done
      | "noframes" => inHead token
      | _ => return .done
  | .close name =>
      if name == "frameset" && 1 < (← get).openElements.length then
        pop
        if !(← get).currentIs ["frameset"] then setMode .afterFrameset
      return .done
  | _ => return .done

/-- After a frameset. -/
def afterFrameset (token : Token) : Build Next := do
  match token with
  | .blank run =>
      placeText run
      return .done
  | .comment content =>
      addComment content
      return .done
  | .start tag =>
      match tag.name with
      | "html" => mergeRoot tag
      | "noframes" => inHead token
      | _ => return .done
  | .close name =>
      if name == "html" then setMode .afterAfterFrameset
      return .done
  | _ => return .done

/-- After the document element. -/
def afterAfterBody (token : Token) : Build Next := do
  match token with
  | .blank _ => inBody token
  | .comment content =>
      addCommentTo Arena.document content
      return .done
  | .start tag => if tag.name == "html" then mergeRoot tag else reprocess .inBody token
  | .eof => return .done
  | _ => reprocess .inBody token

/-- After a document element that holds a frameset. -/
def afterAfterFrameset (token : Token) : Build Next := do
  match token with
  | .blank _ => inBody token
  | .comment content =>
      addCommentTo Arena.document content
      return .done
  | .start tag =>
      match tag.name with
      | "html" => mergeRoot tag
      | "noframes" => inHead token
      | _ => return .done
  | _ => return .done

/-- The rules of a mode. -/
def stepIn (mode : Mode) (token : Token) : Build Next :=
  match mode with
  | .initial => initial token
  | .beforeHtml => beforeHtml token
  | .beforeHead => beforeHead token
  | .inHead => inHead token
  | .afterHead => afterHead token
  | .inBody => inBody token
  | .text => inText token
  | .inTable => inTable token
  | .inTableText => inTableText token
  | .inCaption => inCaption token
  | .inColumnGroup => inColumnGroup token
  | .inTableBody => inTableBody token
  | .inRow => inRow token
  | .inCell => inCell token
  | .inSelect => inSelect token
  | .inSelectInTable => inSelectInTable token
  | .inTemplate => inTemplate token
  | .afterBody => afterBody token
  | .inFrameset => inFrameset token
  | .afterFrameset => afterFrameset token
  | .afterAfterBody => afterAfterBody token
  | .afterAfterFrameset => afterAfterFrameset token

/-! ## Foreign content -/

/-- Whether a token goes into SVG or MathML content. -/
def isForeign (b : Builder) (token : Token) : Bool :=
  let e := b.element b.current
  if token == .eof || b.openElements.isEmpty || e.space == .html then false
  else
    let characters := match token with
      | .blank _ | .text _ | .nul => true
      | _ => false
    if isMathText e then
      match token with
      | .start tag => tag.name == "mglyph" || tag.name == "malignmark"
      | _ => !characters
    else if isSvgHolder e then
      match token with
      | .start _ => false
      | _ => !characters
    else if e.space == .mathml && e.name == "annotation-xml" then
      match token with
      | .start tag => tag.name != "svg"
      | _ => true
    else true

/-- An HTML tag that ends foreign content. -/
def leaveForeign (token : Token) : Build Next := do
  modify fun b =>
    { b with
      openElements := b.openElements.dropWhile fun id =>
        let e := b.element id
        !(e.space == .html || isMathText e || isSvgHolder e) }
  stepIn (← get).mode token

/-- The end tag of an element in foreign content, sought outwards as far as HTML
content. -/
def closeForeign (token : Token) (name : String) : Build Next := do
  let b ← get
  go b true b.openElements
where
  /-- The search among some of the open elements. -/
  go (b : Builder) (first : Bool) : List Nat → Build Next
    | [] => return .done
    | [_] => return .done
    | id :: rest => do
        let e := b.element id
        if !first && e.space == .html then stepIn b.mode token
        else if e.name.toLower == name then
          set { b with openElements := rest }
          return .done
        else go b false rest

/-- A token in foreign content. -/
def inForeign (token : Token) : Build Next := do
  match token with
  | .nul =>
      placeText "\ufffd"
      return .done
  | .blank run =>
      placeText run
      return .done
  | .text run =>
      keepBody
      placeText run
      return .done
  | .comment content =>
      addComment content
      return .done
  | .start tag =>
      let fontThatLeaves := tag.name == "font" && tag.attributes.any fun (name, _) =>
        ["color", "face", "size"].contains name
      if endsForeignContent.contains tag.name || fontThatLeaves then leaveForeign token
      else
        let b ← get
        openForeign (b.element b.current).space tag
        return .done
  | .close name =>
      if name == "br" || name == "p" then leaveForeign token else closeForeign token name
  | _ => return .done

/-- The rules for a token where tree construction stands. -/
def step (token : Token) : Build Next := do
  let b ← get
  if b.isForeign token then inForeign token else stepIn b.mode token

end BookCensus.Html.Builder
