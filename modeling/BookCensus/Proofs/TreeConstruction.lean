import Mathlib
import BookCensus.Html.Parser
import BookCensus.Proofs.ArenaLinks

/-!
# Tree construction keeps the links

Tree construction takes a token at a time, under the rules of one mode or another, and
changes the nodes under construction by the operations of `Arena` alone.  Whatever the
token and the mode, links that fit together do so afterwards (`step_linked`), so they do
when the text has ended (`build_linked`).

What is moved is always a node other than the document.  It has just been created, or it
is the block that a formatting element cuts through, which is one since it is an element.
Only these places need a word about what they hold in hand (`holding`); all other rules
pass the links on.
-/

namespace BookCensus.Html.Builder

open Std.Do
open Document (Namespace Element)

set_option mvcgen.warning false

-- what is known of one array is compared with what is asked of another all the time, and
-- no such comparison has to look into a move
attribute [local irreducible] Arena.detach Arena.append Arena.insertBefore
  Arena.moveChildren Arena.appendText Arena.insertTextBefore Arena.addAttributes

/-- The links fit together. -/
abbrev linked : Assertion (.arg Builder .pure) :=
  fun b => ⌜b.arena.Linked⌝

/-- The links fit together, and a node can be moved. -/
abbrev holding (id : Nat) : Assertion (.arg Builder .pure) :=
  fun b => ⌜b.arena.Linked ∧ b.arena.Movable id⌝

/-! ## Inserting nodes -/

/-- Putting a node where it goes keeps the links, when the node can be moved. -/
@[spec]
theorem place_linked (target : Target) (id : Nat) :
    ⦃holding id⦄ place target id ⦃⇓ _ => linked⦄ := by
  cases target with
  | lastIn p =>
      mvcgen [place]
      case vc1 b h _ => exact (h.1.append h.2 p).1
  | beforeTable table outer =>
      mvcgen [place]
      case vc1 b h t =>
        simp only [t]
        split
        · exact (h.1.insertBefore h.2 table).1
        · exact (h.1.append h.2 outer).1

/-- Text is added to a text node that is there already, or put into a new one; either keeps the
links. -/
@[spec]
theorem placeText_linked (run : String) : ⦃linked⦄ placeText run ⦃⇓ _ => linked⦄ := by
  mvcgen [placeText]
  case vc1 b h t =>
    simp only [t]
    split
    · next p _ => exact (h.appendText p run).1
    · next table outer _ =>
        split
        · exact (h.insertTextBefore table run).1
        · exact (h.appendText outer run).1

/-- A new node that is no element is nowhere in the tree, so it can be moved. -/
@[spec]
theorem create_holding {content : Content} (hcontent : ∀ data, content ≠ .element data) :
    ⦃linked⦄ create content ⦃⇓ id => holding id⦄ := by
  mvcgen [create]
  case vc1 b h _ =>
    obtain ⟨hlinked, hmovable, -⟩ := h.create_other hcontent
    exact ⟨hlinked, hmovable⟩

/-- The number that a new element is given. -/
theorem elementContent_serial (e : Element) :
    ∀ data, Content.element e = .element data → data.serial = e.serial := by
  intro data h
  rw [Content.element.injEq] at h
  rw [h]

/-- A new element can be moved, like all that could be moved before. -/
theorem createElement_keeping (kept : List Nat) (space : Namespace) (name : String)
    (attributes : List (String × String)) :
    ⦃fun b => ⌜b.arena.Linked ∧ ∀ k ∈ kept, b.arena.Movable k⌝⦄
    createElement space name attributes
    ⦃⇓ id => fun b => ⌜b.arena.Linked ∧ ∀ k ∈ id :: kept, b.arena.Movable k⌝⦄ := by
  mvcgen [createElement, create]
  case vc1 b h serial _ _ _ _ _ _ =>
    obtain ⟨helement, hmovable, hgrown⟩ :=
      h.1.create_movable (elementContent_serial ⟨serial, _, _, _⟩)
    obtain ⟨hfragment, hfree, hlarger⟩ :=
      helement.create_other (by simp : ∀ data, Content.fragment ≠ .element data)
    obtain ⟨hlinked, hsize⟩ := hfragment.append hfree b.arena.records.size
    refine ⟨hlinked, List.forall_mem_cons.mpr ⟨?_, ?_⟩⟩
    · exact (hmovable.mono hlarger).mono (Nat.le_of_eq hsize.symm)
    · intro k hk
      exact (((h.2 k hk).mono hgrown).mono hlarger).mono (Nat.le_of_eq hsize.symm)
  case vc2 b h serial _ _ _ _ =>
    obtain ⟨helement, hmovable, hgrown⟩ :=
      h.1.create_movable (elementContent_serial ⟨serial, _, _, _⟩)
    refine ⟨helement, List.forall_mem_cons.mpr ⟨hmovable, ?_⟩⟩
    intro k hk
    exact (h.2 k hk).mono hgrown

/-- The same of a new element, when nothing else is held in hand. -/
@[spec]
theorem createElement_holding (space : Namespace) (name : String)
    (attributes : List (String × String)) :
    ⦃linked⦄ createElement space name attributes ⦃⇓ id => holding id⦄ := by
  have hcreate := createElement_keeping [] space name attributes
  mvcgen [hcreate]
  case vc1 b h => exact ⟨h, fun k hk => absurd hk List.not_mem_nil⟩
  case vc2 id =>
    exact fun b hlinked hmovable => ⟨hlinked, hmovable id List.mem_cons_self⟩

/-- A new element can be moved, so it can be put where it goes. -/
@[spec]
theorem insert_linked (space : Namespace) (tag : Tag) (keepOpen : Bool) :
    ⦃linked⦄ Builder.insert space tag keepOpen ⦃⇓ _ => linked⦄ := by
  mvcgen [Builder.insert]

/-- Opening an HTML element inserts it. -/
@[spec]
theorem openTag_linked (tag : Tag) : ⦃linked⦄ openTag tag ⦃⇓ _ => linked⦄ := by
  mvcgen [openTag]

/-- An element without contents is inserted like any other. -/
@[spec]
theorem voidTag_linked (tag : Tag) : ⦃linked⦄ voidTag tag ⦃⇓ _ => linked⦄ := by
  mvcgen [voidTag]

/-- So is an element that the text leaves out. -/
@[spec]
theorem openImplied_linked (name : String) : ⦃linked⦄ openImplied name ⦃⇓ _ => linked⦄ := by
  mvcgen [openImplied]

/-- A comment is created and put where it goes. -/
@[spec]
theorem addComment_linked (content : String) : ⦃linked⦄ addComment content ⦃⇓ _ => linked⦄ := by
  mvcgen [addComment]
  case vc1 => nofun

/-- A comment is put at the end of a node that is given, whatever node it is. -/
@[spec]
theorem addCommentTo_linked (parent : Nat) (content : String) :
    ⦃linked⦄ addCommentTo parent content ⦃⇓ _ => linked⦄ := by
  mvcgen [addCommentTo]
  case vc1 => nofun

/-- Elements of other vocabularies are inserted as HTML elements are. -/
@[spec]
theorem openForeign_linked (space : Namespace) (tag : Tag) :
    ⦃linked⦄ openForeign space tag ⦃⇓ _ => linked⦄ := by
  mvcgen [openForeign]

/-! ## Open elements and modes -/

/-- Ending an element changes what is open, and no node. -/
@[spec]
theorem pop_linked : ⦃linked⦄ pop ⦃⇓ _ => linked⦄ := by
  mvcgen [pop]

/-- Ending several elements changes no node either. -/
@[spec]
theorem popUntil_linked (names : List String) : ⦃linked⦄ popUntil names ⦃⇓ _ => linked⦄ := by
  mvcgen [popUntil]

/-- Ending the elements above one that is kept open changes no node. -/
@[spec]
theorem popUntilCurrent_linked (names : List String) :
    ⦃linked⦄ popUntilCurrent names ⦃⇓ _ => linked⦄ := by
  mvcgen [popUntilCurrent]

/-- Elements that end silently end without a change to any node. -/
@[spec]
theorem endImplied_linked (names : List String) (excepted : String) :
    ⦃linked⦄ endImplied names excepted ⦃⇓ _ => linked⦄ := by
  mvcgen [endImplied]

/-- A paragraph ends as other elements do. -/
@[spec]
theorem closeParagraph_linked : ⦃linked⦄ closeParagraph ⦃⇓ _ => linked⦄ := by
  mvcgen [closeParagraph]

/-- It makes no difference whether there is a paragraph to end. -/
@[spec]
theorem closeParagraphInScope_linked : ⦃linked⦄ closeParagraphInScope ⦃⇓ _ => linked⦄ := by
  mvcgen [closeParagraphInScope]

/-- A change of the mode leaves the nodes alone. -/
@[spec]
theorem setMode_linked (mode : Mode) : ⦃linked⦄ setMode mode ⦃⇓ _ => linked⦄ := by
  mvcgen [setMode]

/-- Looking at a token again begins with a change of the mode. -/
@[spec]
theorem reprocess_linked (mode : Mode) (token : Token) :
    ⦃linked⦄ reprocess mode token ⦃⇓ _ => linked⦄ := by
  mvcgen [reprocess]

/-- That a frameset comes too late is noted beside the nodes. -/
@[spec]
theorem keepBody_linked : ⦃linked⦄ keepBody ⦃⇓ _ => linked⦄ := by
  mvcgen [keepBody]

/-- An element with text alone for its contents is opened as others are; the rest is a change of
modes. -/
@[spec]
theorem openText_linked (tag : Tag) (model : ContentModel) :
    ⦃linked⦄ openText tag model ⦃⇓ _ => linked⦄ := by
  mvcgen [openText]

/-- The modes of templates are kept beside the nodes. -/
@[spec]
theorem setTemplateMode_linked (mode : Mode) : ⦃linked⦄ setTemplateMode mode ⦃⇓ _ => linked⦄ := by
  mvcgen [setTemplateMode]

/-! ## Formatting elements -/

/-- Formatting elements are listed beside the nodes. -/
@[spec]
theorem forgetFormatting_linked (id : Nat) : ⦃linked⦄ forgetFormatting id ⦃⇓ _ => linked⦄ := by
  mvcgen [forgetFormatting]

/-- A marker in that list changes no node. -/
@[spec]
theorem addMarker_linked : ⦃linked⦄ addMarker ⦃⇓ _ => linked⦄ := by
  mvcgen [addMarker]

/-- Opening the listed elements anew inserts one element after the other. -/
@[spec]
theorem restoreFormatting_linked : ⦃linked⦄ restoreFormatting ⦃⇓ _ => linked⦄ := by
  mvcgen [restoreFormatting] invariants
  · ⇓ _ => linked

/-- A formatting element is inserted and listed. -/
@[spec]
theorem openFormatting_linked (tag : Tag) : ⦃linked⦄ openFormatting tag ⦃⇓ _ => linked⦄ := by
  mvcgen [openFormatting]

/-- An end tag without rules of its own only ends open elements. -/
@[spec]
theorem endOrdinary_linked (name : String) : ⦃linked⦄ endOrdinary name ⦃⇓ _ => linked⦄ := by
  mvcgen [endOrdinary]

/-- What `rewrap` answers can be moved when what it starts with can. -/
@[spec]
theorem rewrap_holding (block count : Nat) (between : List Nat) (last : Nat)
    (bookmark : Option Nat) (kept : List Nat) :
    ⦃holding last⦄ rewrap block count between last bookmark kept ⦃⇓ r => holding r.1⦄ := by
  induction between generalizing count last bookmark kept with
  | nil => mvcgen [rewrap]
  | cons id rest ih =>
      have hcreate := createElement_keeping [last]
      mvcgen [rewrap, forgetFormatting, hcreate, ih, -createElement_holding]
      case vc2 b h _ _ _ =>
        exact ⟨h.1, List.forall_mem_singleton.mpr h.2⟩
      case vc3 new b h _ _ =>
        have hnew := h.2 new List.mem_cons_self
        have hlast := h.2 last (List.mem_cons_of_mem new List.mem_cons_self)
        obtain ⟨hlinked, hsize⟩ := h.1.append hlast new
        exact ⟨hlinked, hnew.mono (Nat.le_of_eq hsize.symm)⟩

/-- A node that has a name can be moved. -/
theorem movable_of_isHtml {b : Builder} (h : b.arena.Linked) {names : List String}
    (hnames : "" ∉ names) {id : Nat} (hid : b.isHtml names id = true) : b.arena.Movable id := by
  cases hdata : b.arena.element? id with
  | some data => exact h.movable_of_element? hdata
  | none =>
      have hname : (b.element id).name = "" := by
        rw [element, hdata]
        rfl
      rw [isHtml, Bool.and_eq_true, hname, List.contains_iff_mem] at hid
      exact absurd hid.2 hnames

/-- A block that a formatting element cuts through can be moved. -/
theorem movable_of_find_specials {b : Builder} (h : b.arena.Linked) {ids : List Nat} {block : Nat}
    (hblock : ids.find? (b.isHtml specials) = some block) : b.arena.Movable block :=
  movable_of_isHtml h (by decide) (List.find?_some hblock)

/-- One round of ending a formatting element.  What it moves about are the block that the element
cuts through, what is rebuilt around that, and a new element. -/
@[spec]
theorem endFormattingOnce_linked (name : String) :
    ⦃linked⦄ endFormattingOnce name ⦃⇓ _ => linked⦄ := by
  mvcgen [endFormattingOnce]
  -- what is rebuilt begins with the block
  case vc5 b h _ _ _ _ _ _ _ block hblock _ _ =>
    exact ⟨h, movable_of_find_specials h hblock⟩
  -- the outermost node of what was rebuilt is taken out, to be put back elsewhere
  case vc6 r b h _ =>
    obtain ⟨hlinked, -, hsize⟩ := h.1.detach r.1
    exact ⟨hlinked, h.2.mono (Nat.le_of_eq hsize.symm)⟩
  -- a new element takes what is below the block, and then goes below it
  case vc8 block _ _ _ _ _ _ _ _ _ _ new b h _ =>
    obtain ⟨hmoved, hsize⟩ := h.1.moveChildren block new
    exact (hmoved.append (h.2.mono (Nat.le_of_eq hsize.symm)) block).1

/-- Every round keeps the links, so any number of them does. -/
@[spec]
theorem endFormattingRounds_linked (name : String) (n : Nat) :
    ⦃linked⦄ endFormattingRounds name n ⦃⇓ _ => linked⦄ := by
  induction n with
  | zero => mvcgen [endFormattingRounds]
  | succ n ih => mvcgen [endFormattingRounds, ih]

/-- Ending a formatting element takes a bounded number of rounds. -/
@[spec]
theorem endFormatting_linked (name : String) : ⦃linked⦄ endFormatting name ⦃⇓ _ => linked⦄ := by
  mvcgen [endFormatting]

/-- A link inside a link ends the outer one first, as a formatting element. -/
@[spec]
theorem endOuterLink_linked : ⦃linked⦄ endOuterLink ⦃⇓ _ => linked⦄ := by
  mvcgen [endOuterLink]

/-! ## Before the body -/

/-- Before the doctype only comments are added. -/
@[spec]
theorem initial_linked (token : Token) : ⦃linked⦄ initial token ⦃⇓ _ => linked⦄ := by
  mvcgen [initial]

/-- The root is an element that is put into the document. -/
@[spec]
theorem openRoot_linked (attributes : List (String × String)) :
    ⦃linked⦄ openRoot attributes ⦃⇓ _ => linked⦄ := by
  mvcgen [openRoot]

/-- Before the root: comments go into the document, anything else opens the root. -/
@[spec]
theorem beforeHtml_linked (token : Token) : ⦃linked⦄ beforeHtml token ⦃⇓ _ => linked⦄ := by
  mvcgen [beforeHtml]

/-- A second tag of the root may add attributes to the first, which are no links. -/
@[spec]
theorem mergeRoot_linked (tag : Tag) : ⦃linked⦄ mergeRoot tag ⦃⇓ _ => linked⦄ := by
  mvcgen [mergeRoot]
  case vc1 b h t =>
    simp only [t]
    split
    · exact h
    · exact (h.addAttributes b.outermost tag.attributes).1

/-- The head is opened as other elements are. -/
@[spec]
theorem openHead_linked (tag : Tag) : ⦃linked⦄ openHead tag ⦃⇓ _ => linked⦄ := by
  mvcgen [openHead]

/-- Before the head: comments, the head itself, or a head that the text leaves out. -/
@[spec]
theorem beforeHead_linked (token : Token) : ⦃linked⦄ beforeHead token ⦃⇓ _ => linked⦄ := by
  mvcgen [beforeHead]

/-- The end of a template ends elements and takes back a mode. -/
@[spec]
theorem closeTemplate_linked : ⦃linked⦄ closeTemplate ⦃⇓ _ => linked⦄ := by
  mvcgen [closeTemplate]

/-- A template comes with its fragment when it is created. -/
@[spec]
theorem openTemplate_linked (tag : Tag) : ⦃linked⦄ openTemplate tag ⦃⇓ _ => linked⦄ := by
  mvcgen [openTemplate]

/-- The rules inside the head. -/
@[spec]
theorem inHead_linked (token : Token) : ⦃linked⦄ inHead token ⦃⇓ _ => linked⦄ := by
  mvcgen [inHead]

/-- The rules behind the head.  What belongs into it is put there after all. -/
@[spec]
theorem afterHead_linked (token : Token) : ⦃linked⦄ afterHead token ⦃⇓ _ => linked⦄ := by
  mvcgen [afterHead]

/-! ## Inside the body -/

/-- A new list item ends the one before. -/
@[spec]
theorem closeItem_linked (names : List String) : ⦃linked⦄ closeItem names ⦃⇓ _ => linked⦄ := by
  mvcgen [closeItem]

/-- An end tag ends elements as far as the one it names, if that is in scope. -/
@[spec]
theorem closeInScope_linked (border : Element → Bool) (name : String) :
    ⦃linked⦄ closeInScope border name ⦃⇓ _ => linked⦄ := by
  mvcgen [closeInScope]

/-- The end of the text inside templates ends these one by one. -/
@[spec]
theorem endInTemplate_linked (token : Token) : ⦃linked⦄ endInTemplate token ⦃⇓ _ => linked⦄ := by
  mvcgen [endInTemplate]

/-- Text in the body opens the listed formatting elements anew and is added. -/
@[spec]
theorem bodyText_linked (run : String) (blank : Bool) :
    ⦃linked⦄ bodyText run blank ⦃⇓ _ => linked⦄ := by
  mvcgen [bodyText]

/-- Elements such as images and line breaks are inserted inside formatting elements. -/
@[spec]
theorem inlineVoid_linked (tag : Tag) : ⦃linked⦄ inlineVoid tag ⦃⇓ _ => linked⦄ := by
  mvcgen [inlineVoid]

/-- A frameset takes the place of the body, which is cut off from the root with all it holds. -/
@[spec]
theorem replaceBody_linked (tag : Tag) : ⦃linked⦄ replaceBody tag ⦃⇓ _ => linked⦄ := by
  mvcgen [replaceBody]
  case vc1 b h _ _ body _ _ _ _ =>
    exact (h.detach body).1

/-- A second tag of the body may add attributes to the first. -/
@[spec]
theorem mergeBody_linked (tag : Tag) : ⦃linked⦄ mergeBody tag ⦃⇓ _ => linked⦄ := by
  mvcgen [mergeBody]
  case vc2 body _ _ _ _ b h _ =>
    exact (h.addAttributes body tag.attributes).1

/-- The rules for start tags in the body, tag by tag. -/
@[spec]
theorem bodyStart_linked (token : Token) (tag : Tag) :
    ⦃linked⦄ bodyStart token tag ⦃⇓ _ => linked⦄ := by
  mvcgen [bodyStart]

/-- The end of a form takes the form out of the open elements. -/
@[spec]
theorem closeForm_linked : ⦃linked⦄ closeForm ⦃⇓ _ => linked⦄ := by
  mvcgen [closeForm]

/-- The rules for end tags in the body. -/
@[spec]
theorem bodyClose_linked (token : Token) (name : String) :
    ⦃linked⦄ bodyClose token name ⦃⇓ _ => linked⦄ := by
  mvcgen [bodyClose]

/-- The rules inside the body. -/
@[spec]
theorem inBody_linked (token : Token) : ⦃linked⦄ inBody token ⦃⇓ _ => linked⦄ := by
  mvcgen [inBody]

/-! ## Inside a table -/

/-- What does not belong into a table goes through the rules of the body, with another place to be
put at. -/
@[spec]
theorem foster_linked (token : Token) : ⦃linked⦄ foster token ⦃⇓ _ => linked⦄ := by
  mvcgen [foster]

/-- The rules inside a table. -/
@[spec]
theorem inTable_linked (token : Token) : ⦃linked⦄ inTable token ⦃⇓ _ => linked⦄ := by
  mvcgen [inTable]

/-- A loop whose rounds keep the links keeps them. -/
theorem forIn_linked {α : Type} (xs : List α) (f : α → PUnit → Build (ForInStep PUnit))
    (h : ∀ x, ⦃linked⦄ f x ⟨⟩ ⦃⇓ _ => linked⦄) : ⦃linked⦄ forIn xs ⟨⟩ f ⦃⇓ _ => linked⦄ := by
  induction xs with
  | nil =>
      rw [List.forIn_nil]
      mvcgen
  | cons x xs ih =>
      rw [List.forIn_cons]
      mvcgen [h, ih, -Spec.forIn_list]

/-- Text that was gathered inside a table is added at once, or as what does not belong there,
piece by piece. -/
@[spec]
theorem inTableText_linked (token : Token) : ⦃linked⦄ inTableText token ⦃⇓ _ => linked⦄ := by
  mvcgen [inTableText, forIn_linked, -Spec.forIn_list]

/-- The rules inside a caption. -/
@[spec]
theorem inCaption_linked (token : Token) : ⦃linked⦄ inCaption token ⦃⇓ _ => linked⦄ := by
  mvcgen [inCaption]

/-- The rules inside a group of columns. -/
@[spec]
theorem inColumnGroup_linked (token : Token) : ⦃linked⦄ inColumnGroup token ⦃⇓ _ => linked⦄ := by
  mvcgen [inColumnGroup]

/-- The rules inside a group of rows. -/
@[spec]
theorem inTableBody_linked (token : Token) : ⦃linked⦄ inTableBody token ⦃⇓ _ => linked⦄ := by
  mvcgen [inTableBody]

/-- The rules inside a row. -/
@[spec]
theorem inRow_linked (token : Token) : ⦃linked⦄ inRow token ⦃⇓ _ => linked⦄ := by
  mvcgen [inRow]

/-- The end of a cell ends open elements and forgets the formatting elements in it. -/
@[spec]
theorem closeCell_linked : ⦃linked⦄ closeCell ⦃⇓ _ => linked⦄ := by
  mvcgen [closeCell]

/-- The rules inside a cell. -/
@[spec]
theorem inCell_linked (token : Token) : ⦃linked⦄ inCell token ⦃⇓ _ => linked⦄ := by
  mvcgen [inCell]

/-! ## The remaining modes -/

/-- The rules for contents that are text alone. -/
@[spec]
theorem inText_linked (token : Token) : ⦃linked⦄ inText token ⦃⇓ _ => linked⦄ := by
  mvcgen [inText]

/-- The rules inside a list of choices. -/
@[spec]
theorem inSelect_linked (token : Token) : ⦃linked⦄ inSelect token ⦃⇓ _ => linked⦄ := by
  mvcgen [inSelect]

/-- The rules inside a list of choices that stands in a table. -/
@[spec]
theorem inSelectInTable_linked (token : Token) :
    ⦃linked⦄ inSelectInTable token ⦃⇓ _ => linked⦄ := by
  mvcgen [inSelectInTable]

/-- The rules inside a template. -/
@[spec]
theorem inTemplate_linked (token : Token) : ⦃linked⦄ inTemplate token ⦃⇓ _ => linked⦄ := by
  mvcgen [inTemplate]

/-- The rules behind the body, where comments go to the root. -/
@[spec]
theorem afterBody_linked (token : Token) : ⦃linked⦄ afterBody token ⦃⇓ _ => linked⦄ := by
  mvcgen [afterBody]

/-- The rules inside a frameset. -/
@[spec]
theorem inFrameset_linked (token : Token) : ⦃linked⦄ inFrameset token ⦃⇓ _ => linked⦄ := by
  mvcgen [inFrameset]

/-- The rules behind a frameset. -/
@[spec]
theorem afterFrameset_linked (token : Token) : ⦃linked⦄ afterFrameset token ⦃⇓ _ => linked⦄ := by
  mvcgen [afterFrameset]

/-- The rules behind the root, where comments go into the document. -/
@[spec]
theorem afterAfterBody_linked (token : Token) : ⦃linked⦄ afterAfterBody token ⦃⇓ _ => linked⦄ := by
  mvcgen [afterAfterBody]

/-- The rules behind the root of a frameset. -/
@[spec]
theorem afterAfterFrameset_linked (token : Token) :
    ⦃linked⦄ afterAfterFrameset token ⦃⇓ _ => linked⦄ := by
  mvcgen [afterAfterFrameset]

/-- A token under the rules of a mode: one case for each mode. -/
@[spec]
theorem stepIn_linked (mode : Mode) (token : Token) :
    ⦃linked⦄ stepIn mode token ⦃⇓ _ => linked⦄ := by
  mvcgen [stepIn]

/-- Leaving another vocabulary ends elements and looks at the token again. -/
@[spec]
theorem leaveForeign_linked (token : Token) : ⦃linked⦄ leaveForeign token ⦃⇓ _ => linked⦄ := by
  mvcgen [leaveForeign]

/-- The search for the element that an end tag ends looks at the links of the start. -/
theorem closeForeign_go_linked (token : Token) (name : String) {b : Builder} (h : b.arena.Linked)
    (first : Bool) (ids : List Nat) :
    ⦃linked⦄ closeForeign.go token name b first ids ⦃⇓ _ => linked⦄ := by
  induction ids generalizing first with
  | nil => mvcgen [closeForeign.go]
  | cons id rest ih =>
      cases rest with
      | nil => mvcgen [closeForeign.go]
      | cons next rest => mvcgen [closeForeign.go, ih]

/-- The end tag of an element of another vocabulary. -/
@[spec]
theorem closeForeign_linked (token : Token) (name : String) :
    ⦃linked⦄ closeForeign token name ⦃⇓ _ => linked⦄ := by
  mvcgen [closeForeign]
  case vc1 b h =>
    have hgo := closeForeign_go_linked token name h true b.openElements
    mvcgen [hgo]

/-- The rules inside another vocabulary. -/
@[spec]
theorem inForeign_linked (token : Token) : ⦃linked⦄ inForeign token ⦃⇓ _ => linked⦄ := by
  mvcgen [inForeign]

/-- **One step.**  Whatever the token, links that fit together do so after one step. -/
@[spec]
theorem step_linked (token : Token) : ⦃linked⦄ step token ⦃⇓ _ => linked⦄ := by
  mvcgen [step]

end BookCensus.Html.Builder

namespace BookCensus.Html

open Builder

/-! ## Reading a text -/

/-- The same of the state that a step leaves. -/
theorem step_arena_linked {b : Builder} (h : b.arena.Linked) (token : Token) :
    ((step token).run b).2.arena.Linked :=
  step_linked token b h

/-- A token may be looked at several times, each time with one step. -/
theorem process_linked (fuel : Nat) (token : Token) {b : Builder} (h : b.arena.Linked) :
    (process fuel token b).arena.Linked := by
  induction fuel generalizing token b with
  | zero => exact h
  | succ fuel ih =>
      have hstep := step_arena_linked h token
      unfold process
      split
      · next hdone =>
          rw [hdone] at hstep
          exact hstep
      · next next b' hagain =>
          rw [hagain] at hstep
          exact ih next hstep

/-- Between steps a token may be dropped or changed, never a node. -/
theorem take_linked {b : Builder} (h : b.arena.Linked) (token : Token) :
    (take b token).arena.Linked := by
  simp only [take]
  split
  · simp only [takeDoctype]
    split
    · exact h
    · exact h
  · split
    · exact h
    · exact process_linked _ _ h

/-- **A run.**  The links fit together after any number of tokens. -/
theorem foldl_take_linked {b : Builder} (h : b.arena.Linked) (tokens : List Token) :
    (tokens.foldl take b).arena.Linked := by
  induction tokens generalizing b with
  | nil => exact h
  | cons token tokens ih => exact ih (take_linked h token)

/-- Whatever the text, the links fit together when it has been read. -/
theorem build_linked (fuel : Nat) (cs : List Char) {b : Builder} (h : b.arena.Linked) :
    (build fuel cs b).arena.Linked := by
  induction fuel generalizing cs b with
  | zero => exact h
  | succ fuel ih =>
      have htaken := foldl_take_linked h
      unfold build
      split
      · exact htaken _
      · exact ih _ (htaken _)

/-- Every document is read off links that fit together. -/
theorem exists_linked_toTree (source : String) :
    ∃ a : Arena, a.Linked ∧ parse source = a.toTree :=
  ⟨_, build_linked _ _ Arena.linked_empty, rfl⟩

end BookCensus.Html
