import BookCensus.Html.Mode.Body

/-!
# Inside a table

The parts of a table open and end one another; what belongs into none of them
is fostered in front of the table.
-/

namespace BookCensus.Html.Builder

/-- Take a token as inside the body, its content going in front of the table. -/
def foster (token : Token) : Build Next := do
  modify fun b => { b with fostering := true }
  let next ← inBody token
  modify fun b => { b with fostering := false }
  return next

/-- Right inside a table. -/
def inTable (token : Token) : Build Next := do
  let characters : Build Next := do
    let b ← get
    if b.currentIs ["table", "tbody", "tfoot", "thead", "tr"] then
      modify fun b => { b with returnMode := b.mode, mode := .inTableText }
      return .again token
    else foster token
  match token with
  | .nul => characters
  | .blank _ => characters
  | .text _ => characters
  | .comment content =>
      addComment content
      return .done
  | .start tag =>
      match tag.name with
      | "caption" =>
          popUntilCurrent ["html", "table", "template"]
          addMarker
          openTag tag
          setMode .inCaption
          return .done
      | "colgroup" =>
          popUntilCurrent ["html", "table", "template"]
          openTag tag
          setMode .inColumnGroup
          return .done
      | "col" =>
          popUntilCurrent ["html", "table", "template"]
          openImplied "colgroup"
          reprocess .inColumnGroup token
      | "tbody" | "tfoot" | "thead" =>
          popUntilCurrent ["html", "table", "template"]
          openTag tag
          setMode .inTableBody
          return .done
      | "td" | "th" | "tr" =>
          popUntilCurrent ["html", "table", "template"]
          openImplied "tbody"
          reprocess .inTableBody token
      | "table" =>
          if (← get).scopeHas tableBorder "table" then
            popUntil ["table"]
            resetMode
            return .again token
          else return .done
      | "style" | "script" | "template" => inHead token
      | "input" =>
          if isHiddenInput tag then
            voidTag tag
            return .done
          else foster token
      | "form" =>
          let b ← get
          if !b.hasOpen "template" && b.form.isNone then
            let id ← insert .html tag false
            modify fun b => { b with form := some id }
          return .done
      | _ => foster token
  | .close name =>
      match name with
      | "table" =>
          if (← get).scopeHas tableBorder "table" then
            popUntil ["table"]
            resetMode
          return .done
      | "body" | "caption" | "col" | "colgroup" | "html" | "tbody" | "td" | "tfoot" | "th"
      | "thead" | "tr" => return .done
      | "template" => inHead token
      | _ => foster token
  | .eof => inBody token
  | .doctype _ => return .done

/-- Text right inside a table is held back until it ends: blanks stay where they
are, anything else is fostered with all of it. -/
def inTableText (token : Token) : Build Next := do
  match token with
  | .nul => return .done
  | .blank _ | .text _ =>
      modify fun b => { b with pendingText := token :: b.pendingText }
      return .done
  | _ =>
      let b ← get
      let pending := b.pendingText.reverse
      set { b with pendingText := [] }
      if pending.any isText then
        for held in pending do
          let _ ← foster held
      else
        for held in pending do
          match held with
          | .blank run => placeText run
          | _ => pure ()
      reprocess b.returnMode token
where
  /-- Text that is not blank. -/
  isText : Token → Bool
    | .text _ => true
    | _ => false

/-- Inside the caption of a table. -/
def inCaption (token : Token) : Build Next := do
  let leave (again : Bool) : Build Next := do
    if (← get).scopeHas tableBorder "caption" then
      endImplied impliedEnds ""
      popUntil ["caption"]
      clearToMarker
      setMode .inTable
      return if again then .again token else .done
    else return .done
  match token with
  | .start tag =>
      if ["caption", "col", "colgroup", "tbody", "td", "tfoot", "th", "thead",
          "tr"].contains tag.name then leave true
      else inBody token
  | .close name =>
      if name == "caption" then leave false
      else if name == "table" then leave true
      else if ["body", "col", "colgroup", "html", "tbody", "td", "tfoot", "th", "thead",
          "tr"].contains name then return .done
      else inBody token
  | _ => inBody token

/-- Inside a group of columns. -/
def inColumnGroup (token : Token) : Build Next := do
  let leave : Build Next := do
    if (← get).currentIs ["colgroup"] then
      pop
      reprocess .inTable token
    else return .done
  match token with
  | .blank run =>
      placeText run
      return .done
  | .comment content =>
      addComment content
      return .done
  | .start tag =>
      match tag.name with
      | "html" => mergeRoot tag
      | "col" =>
          voidTag tag
          return .done
      | "template" => inHead token
      | _ => leave
  | .close name =>
      match name with
      | "colgroup" =>
          if (← get).currentIs ["colgroup"] then
            pop
            setMode .inTable
          return .done
      | "col" => return .done
      | "template" => inHead token
      | _ => leave
  | .eof => inBody token
  | _ => leave

/-- Inside a group of rows. -/
def inTableBody (token : Token) : Build Next := do
  let context := ["tbody", "tfoot", "thead", "template", "html"]
  let leave : Build Next := do
    let b ← get
    if b.inScope tableBorder (b.isHtml ["table", "tbody", "tfoot"]) then
      popUntilCurrent context
      pop
      reprocess .inTable token
    else return .done
  match token with
  | .start tag =>
      match tag.name with
      | "tr" =>
          popUntilCurrent context
          openTag tag
          setMode .inRow
          return .done
      | "th" | "td" =>
          popUntilCurrent context
          openImplied "tr"
          reprocess .inRow token
      | "caption" | "col" | "colgroup" | "tbody" | "tfoot" | "thead" => leave
      | _ => inTable token
  | .close name =>
      match name with
      | "tbody" | "tfoot" | "thead" =>
          if (← get).scopeHas tableBorder name then
            popUntilCurrent context
            pop
            setMode .inTable
          return .done
      | "table" => leave
      | "body" | "caption" | "col" | "colgroup" | "html" | "td" | "th" | "tr" => return .done
      | _ => inTable token
  | _ => inTable token

/-- Inside a row. -/
def inRow (token : Token) : Build Next := do
  let context := ["tr", "template", "html"]
  let leave (again : Bool) : Build Next := do
    if (← get).scopeHas tableBorder "tr" then
      popUntilCurrent context
      pop
      setMode .inTableBody
      return if again then .again token else .done
    else return .done
  match token with
  | .start tag =>
      match tag.name with
      | "th" | "td" =>
          popUntilCurrent context
          openTag tag
          setMode .inCell
          addMarker
          return .done
      | "caption" | "col" | "colgroup" | "tbody" | "tfoot" | "thead" | "tr" => leave true
      | _ => inTable token
  | .close name =>
      match name with
      | "tr" => leave false
      | "table" => leave true
      | "tbody" | "tfoot" | "thead" =>
          if (← get).scopeHas tableBorder name then leave true else return .done
      | "body" | "caption" | "col" | "colgroup" | "html" | "td" | "th" => return .done
      | _ => inTable token
  | _ => inTable token

/-- End the cell under way. -/
def closeCell : Build Unit := do
  endImplied impliedEnds ""
  popUntil ["td", "th"]
  clearToMarker

/-- Inside a cell. -/
def inCell (token : Token) : Build Next := do
  let leave : Build Next := do
    closeCell
    reprocess .inRow token
  match token with
  | .start tag =>
      if ["caption", "col", "colgroup", "tbody", "td", "tfoot", "th", "thead",
          "tr"].contains tag.name then
        let b ← get
        if b.inScope tableBorder (b.isHtml ["td", "th"]) then leave else return .done
      else inBody token
  | .close name =>
      match name with
      | "td" | "th" =>
          if (← get).scopeHas tableBorder name then
            endImplied impliedEnds ""
            popUntil [name]
            clearToMarker
            setMode .inRow
          return .done
      | "body" | "caption" | "col" | "colgroup" | "html" => return .done
      | "table" | "tbody" | "tfoot" | "thead" | "tr" =>
          if (← get).scopeHas tableBorder name then leave else return .done
      | _ => inBody token
  | _ => inBody token

end BookCensus.Html.Builder
