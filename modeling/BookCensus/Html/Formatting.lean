import BookCensus.Html.Builder

/-!
# Formatting elements

Elements such as `b` and `a` need not nest properly with blocks.  When a block
ends while one of them is open, it starts again after the block
(`restoreFormatting`); when one of them ends while blocks inside it are open,
the blocks are taken out and their contents wrapped anew (`endFormatting`).
-/

namespace BookCensus.Html.Builder

open Document

/-- The entries up to the latest marker. -/
def recentFormatting (b : Builder) : List (Nat × Tag) :=
  go b.formatting
where
  /-- The entries of a list up to its first marker. -/
  go : List Formatting → List (Nat × Tag)
    | .element id tag :: rest => (id, tag) :: go rest
    | _ => []

/-- Whether an entry is that of an element. -/
def isEntryOf (id : Nat) : Formatting → Bool
  | .element other _ => other == id
  | .marker => false

/-- Whether an element has an entry. -/
def isFormatting (b : Builder) (id : Nat) : Bool :=
  b.formatting.any (isEntryOf id)

/-- Take the entry of an element away. -/
def forgetFormatting (id : Nat) : Build Unit :=
  modify fun b => { b with formatting := b.formatting.eraseP (isEntryOf id) }

/-- Put a marker. -/
def addMarker : Build Unit :=
  modify fun b => { b with formatting := .marker :: b.formatting }

/-- Forget the entries up to and with the latest marker. -/
def clearToMarker : Build Unit :=
  modify fun b => { b with formatting := go b.formatting }
where
  /-- A list without its entries up to and with its first marker. -/
  go : List Formatting → List Formatting
    | .element _ _ :: rest => go rest
    | .marker :: rest => rest
    | [] => []

/-- Replace the element of an entry. -/
def renewEntry (old new : Nat) (tag : Tag) (entries : List Formatting) : List Formatting :=
  entries.map fun e => if isEntryOf old e then .element new tag else e

/-- The entries that have to start again, earliest first: the latest ones up to
a marker or an element that is still open. -/
def lostFormatting (b : Builder) : List (Nat × Tag) :=
  (b.recentFormatting.takeWhile fun (id, _) => !b.openElements.contains id).reverse

/-- Start again the formatting elements that a block cut off. -/
def restoreFormatting : Build Unit := do
  let b ← get
  for (old, tag) in b.lostFormatting do
    let new ← insert .html tag true
    modify fun b => { b with formatting := renewEntry old new tag b.formatting }

/-- Equal tags, whatever the order of their attributes. -/
def sameTag (s t : Tag) : Bool :=
  s.name == t.name && s.attributes.length == t.attributes.length
    && s.attributes.all t.attributes.contains

/-- Open a formatting element.  Of four equal ones the earliest is forgotten. -/
def openFormatting (tag : Tag) : Build Unit := do
  let equal := (← get).recentFormatting.filter fun (_, other) => sameTag tag other
  if 3 ≤ equal.length then
    match equal.getLast? with
    | some (id, _) => forgetFormatting id
    | none => pure ()
  let id ← insert .html tag true
  modify fun b => { b with formatting := .element id tag :: b.formatting }

/-- An end tag that has no rule of its own ends the nearest open element of its
name, unless an element with rules of its own stands in between. -/
def endOrdinary (name : String) : Build Unit := do
  let b ← get
  if found b b.openElements then
    endImplied impliedEnds name
    popUntil [name]
where
  /-- Whether the name comes up before a special element does. -/
  found (b : Builder) : List Nat → Bool
    | [] => false
    | id :: rest =>
        if b.isHtml [name] id then true
        else if b.isHtml specials id then false
        else found b rest

/-- Put an entry right after that of another element in the order of opening. -/
def insertEntryAfter (id : Nat) (entry : Formatting) : List Formatting → List Formatting
  | [] => []
  | e :: rest => if isEntryOf id e then entry :: e :: rest else e :: insertEntryAfter id entry rest

/-- Rebuild the open elements between a block and a formatting element outside
it, innermost first.  Formatting elements among the first three are made anew,
each wrapped around what comes before it; the others are no longer open.  The
answer is the outermost node so far, the element after whose entry the new
formatting element is entered, and the elements that stay open. -/
def rewrap (block : Nat) : Nat → List Nat → Nat → Option Nat → List Nat →
    Build (Nat × Option Nat × List Nat)
  | _, [], last, bookmark, kept => return (last, bookmark, kept.reverse)
  | count, id :: rest, last, bookmark, kept => do
      if 3 < count then
        forgetFormatting id
        rewrap block (count + 1) rest last bookmark kept
      else
        match (← get).formatting.find? (isEntryOf id) with
        | some (.element _ tag) =>
            let new ← createElement .html tag.name tag.attributes
            modify fun b =>
              { b with
                formatting := renewEntry id new tag b.formatting
                arena := b.arena.append new last }
            let bookmark := if last == block then some new else bookmark
            rewrap block (count + 1) rest new bookmark (new :: kept)
        | _ => rewrap block (count + 1) rest last bookmark kept

/-- Whether ending a formatting element is settled or has to be tried again. -/
inductive Settled where
  | yes
  | no

/-- One round of ending a formatting element. -/
def endFormattingOnce (name : String) : Build Settled := do
  let b ← get
  match b.recentFormatting.find? fun (_, tag) => tag.name == name with
  | none =>
      endOrdinary name
      return .yes
  | some (id, tag) =>
      if !b.openElements.contains id then
        forgetFormatting id
        return .yes
      else if !b.inScope defaultBorder (· == id) then return .yes
      else
        let inside := b.openElements.takeWhile (· != id)
        let outside := (b.openElements.dropWhile (· != id)).drop 1
        match inside.reverse.find? (b.isHtml specials) with
        | none =>
            forgetFormatting id
            modify fun b => { b with openElements := outside }
            return .yes
        | some block =>
            let innermost := inside.takeWhile (· != block)
            let between := (inside.dropWhile (· != block)).drop 1
            let (last, bookmark, kept) ← rewrap block 1 between block none []
            modify fun b => { b with arena := b.arena.detach last }
            place ((← get).targetFor (outside.headD Arena.document)) last
            let new ← createElement .html tag.name tag.attributes
            modify fun b =>
              let arena := (b.arena.moveChildren block new).append block new
              let formatting := match bookmark with
                | none => renewEntry id new tag b.formatting
                | some after =>
                    (insertEntryAfter after (.element new tag) b.formatting).eraseP (isEntryOf id)
              { b with
                arena := arena
                formatting := formatting
                openElements := innermost ++ new :: block :: kept ++ outside }
            return .no

/-- End a formatting element, in at most eight rounds. -/
def endFormattingRounds (name : String) : Nat → Build Unit
  | 0 => return
  | n + 1 => do
      match ← endFormattingOnce name with
      | .yes => return
      | .no => endFormattingRounds name n

/-- The end tag of a formatting element. -/
def endFormatting (name : String) : Build Unit := do
  let b ← get
  if b.currentIs [name] && !b.isFormatting b.current then pop
  else endFormattingRounds name 8

/-- A link ends the link that it stands in. -/
def endOuterLink : Build Unit := do
  let b ← get
  match b.recentFormatting.find? fun (id, _) => b.isHtml ["a"] id with
  | none => return
  | some (id, _) =>
      endFormatting "a"
      forgetFormatting id
      closeElement id

end BookCensus.Html.Builder
