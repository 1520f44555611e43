import BookCensus.Proofs.CollapsedForm
import BookCensus.Proofs.TitleRule

/-!
# Blanks in titles

The texts that a title is put together from are collapsed: that of the title element, of the
number in front of it, of the heading above.  What is put together is the text of the title
element alone, or something in front of it with one space in between (`Place.Front`).

A space between two collapsed texts leaves the whole collapsed unless one of the two is empty.
So a title that is shown is collapsed except in two cases: the number that goes in front has no
text, or there is something in front of a title without text.  Then the space remains, at the
beginning or at the end, and is the only blank too many (`displayTitle?_spacing`).
-/

namespace BookCensus

open Text

namespace Text

/-- A word can be told by going over its characters. -/
theorem isWord_of_all {w : List Char} (hne : w ≠ []) (h : (w.all fun c => !isBlank c) = true) :
    IsWord w := by
  refine ⟨hne, ?_⟩
  intro c hc
  simpa using List.all_eq_true.mp h c hc

/-- A space in front is left out. -/
theorem collapse_space_append (s : String) : collapse (" " ++ s) = collapse s := by
  rw [← collapse_padded (u := " ") (v := "") (by decide) (by decide) s, String.append_empty]

/-- A space at the end is left out. -/
theorem collapse_append_space (s : String) : collapse (s ++ " ") = collapse s := by
  rw [← collapse_padded (u := "") (v := " ") (by decide) (by decide) s, String.empty_append]

/-- Collapsed texts with a space between them are collapsed when neither is empty. -/
theorem collapse_between_eq_self_iff {s t : String} (hs : IsCollapsed s.toList)
    (ht : IsCollapsed t.toList) :
    collapse (s ++ " " ++ t) = s ++ " " ++ t ↔ s ≠ "" ∧ t ≠ "" := by
  have hlist : (s ++ " " ++ t).toList = s.toList ++ ' ' :: t.toList := by simp
  have hempty (u : String) : u.toList ≠ [] ↔ u ≠ "" := by simp
  rw [collapse_eq_self_iff, hlist, isCollapsed_append_space_iff hs ht, hempty, hempty]

end Text

namespace Document

namespace Place

/-- The text of an element is collapsed. -/
theorem isCollapsed_text (p : Place) : IsCollapsed p.text.toList := by
  rw [text, String.toList_ofList]
  exact isCollapsed_collapseChars _

/-- What goes in front of the text of a title element that has no number of its own: the
number in the heading of its chapter, or else the text of that heading between two words. -/
inductive Front (t : Place) : String → Prop where
  | number {c heading number : Place} (hown : t.routesTo isNumber = ∅)
      (hwalk : t.parent?.bind parent? = some c) (hheading : c.FirstBelow isHeading heading)
      (hnumber : heading.FirstBelow isNumber number) : Front t number.text
  | name {c heading : Place} (hown : t.routesTo isNumber = ∅)
      (hwalk : t.parent?.bind parent? = some c) (hheading : c.FirstBelow isHeading heading)
      (hnumber : heading.routesTo isNumber = ∅)
      (hname : heading.text ≠ "" ∧ heading.text ≠ "Preface") :
      Front t ("Chapter: " ++ heading.text ++ " Module:")

variable {t : Place} {front : String}

/-- The words behind the name of a chapter end with a space. -/
theorem name_front_append (heading title : String) :
    "Chapter: " ++ heading ++ " Module:" ++ " " ++ title
      = "Chapter: " ++ heading ++ " Module: " ++ title := by
  simp [← String.toList_inj]

/-- What goes in front stands there, with a space behind it. -/
theorem Front.titleOf_eq (h : t.Front front) : titleOf t = front ++ " " ++ t.text := by
  cases h with
  | number hown hwalk hheading hnumber =>
      exact shownAs_iff.mp (.underNumber hown hwalk hheading hnumber)
  | name hown hwalk hheading hnumber hname =>
      rw [name_front_append]
      exact shownAs_iff.mp (.underName hown hwalk hheading hnumber hname)

/-- At most one text goes in front. -/
theorem Front.unique {other : String} (h : t.Front front) (h' : t.Front other) :
    front = other := by
  have heq := h.titleOf_eq.symm.trans h'.titleOf_eq
  simpa [← String.toList_inj] using heq

/-- A title has something in front, or is shown as its text. -/
theorem exists_front_or (t : Place) : (∃ front, t.Front front) ∨ titleOf t = t.text := by
  have hshown := t.shownAs_titleOf
  generalize titleOf t = shown at hshown ⊢
  cases hshown with
  | ownNumber hown => exact Or.inr rfl
  | outside hown hwalk => exact Or.inr rfl
  | unheaded hown hwalk hheading => exact Or.inr rfl
  | underNumber hown hwalk hheading hnumber =>
      exact Or.inl ⟨_, .number hown hwalk hheading hnumber⟩
  | underName hown hwalk hheading hnumber hname =>
      exact Or.inl ⟨_, .name hown hwalk hheading hnumber hname⟩
  | underPreface hown hwalk hheading hnumber hname => exact Or.inr rfl

/-- Nothing is put in front of a title that is shown as its text. -/
theorem not_front_of_titleOf_eq (h : titleOf t = t.text) : ¬ t.Front front := by
  intro hfront
  have hlength := congrArg String.length (h.symm.trans hfront.titleOf_eq)
  simp only [String.length_append] at hlength
  have hspace : " ".length = 1 := by decide
  omega

/-- What goes in front is collapsed: the heading that is named has a text. -/
theorem Front.isCollapsed (h : t.Front front) : IsCollapsed front.toList := by
  cases h with
  | number hown hwalk hheading hnumber => exact isCollapsed_text _
  | @name c heading hown hwalk hheading hnumber hname =>
      have hlist : ("Chapter: " ++ heading.text ++ " Module:").toList
          = "Chapter:".toList ++ ' ' :: (heading.text.toList ++ ' ' :: "Module:".toList) := by
        simp
      have hchapter : IsWord "Chapter:".toList := isWord_of_all (by decide) (by decide)
      have hmodule : IsWord "Module:".toList := isWord_of_all (by decide) (by decide)
      have hheadingNe : heading.text.toList ≠ [] := by simpa using hname.1
      have hrest := (isCollapsed_text heading).append_space hmodule.isCollapsed hheadingNe hmodule.1
      rw [hlist]
      exact hchapter.isCollapsed.append_space hrest hchapter.1 (by simp)

end Place

open Place

/-- **Blanks in titles.**  A title that is shown is collapsed exactly when nothing is put in
front of the text of its title element, or neither what is put there nor that text is empty.
When what is put in front is empty, a space is left at the beginning, and when the text of the
title element is, at the end; all other blanks are as in a collapsed text. -/
theorem displayTitle?_spacing {page : Place} {shown : String}
    (h : page.displayTitle? = some shown) :
    ∃ title, page.titleElement? = some title ∧
      (collapse shown = shown ↔ ∀ front, title.Front front → front ≠ "" ∧ title.text ≠ "") ∧
      ∀ front, title.Front front →
        (front = "" → shown = " " ++ collapse shown) ∧
        (title.text = "" → shown = collapse shown ++ " ") := by
  rw [displayTitle?_eq_map, Option.map_eq_some_iff] at h
  obtain ⟨title, htitle, rfl⟩ := h
  have htext := title.isCollapsed_text
  refine ⟨title, htitle, ?_, ?_⟩
  · rcases title.exists_front_or with ⟨front, hfront⟩ | hplain
    · rw [hfront.titleOf_eq, collapse_between_eq_self_iff hfront.isCollapsed htext]
      constructor
      · intro hne other hother
        rw [hother.unique hfront]
        exact hne
      · intro hall
        exact hall front hfront
    · rw [hplain, collapse_eq_self_iff]
      constructor
      · intro _ front hfront
        exact absurd hfront (not_front_of_titleOf_eq hplain)
      · intro _
        exact htext
  · intro front hfront
    rw [hfront.titleOf_eq]
    constructor
    · rintro rfl
      rw [String.empty_append, collapse_space_append, collapse_eq_self_iff.mpr htext]
    · intro hempty
      rw [hempty, String.append_empty, collapse_append_space,
        collapse_eq_self_iff.mpr hfront.isCollapsed]

/-- A chapter whose heading has a number without text. -/
def unnumbered : Tree :=
  Html.parse ("<div data-type='chapter'><h1 data-type='document-title'>"
    ++ "<span class='os-number'></span>Motion</h1>"
    ++ "<div data-type='page'><h2 data-type='document-title'>Introduction</h2></div></div>")

/-- There is such a section, found by its route. -/
theorem exists_section_unnumbered :
    ∃ page ∈ unnumbered.sections, page.displayTitle? = some " Introduction" := by
  have hfound : (unnumbered.at? [0, 1, 0, 1]).any (fun page => page.isSection &&
      page.displayTitle? = some " Introduction") = true := by
    decide +kernel
  obtain ⟨page, hroute, hpage⟩ := (Option.any_eq_true _ _).mp hfound
  rw [Bool.and_eq_true, decide_eq_true_iff] at hpage
  exact ⟨page, Tree.mem_sections_of_at? hroute hpage.1, hpage.2⟩

/-- What is in front of the title of its section is empty, and the space behind that is
left. -/
theorem displayTitle?_spacing_unnumbered :
    ∃ page ∈ unnumbered.sections, page.displayTitle? = some " Introduction" ∧
      ∃ title, page.titleElement? = some title ∧ title.Front "" ∧ title.text ≠ "" ∧
        " Introduction" = " " ++ collapse " Introduction" := by
  obtain ⟨page, hmem, hshown⟩ := exists_section_unnumbered
  obtain ⟨title, htitle, hcollapsed, hspace⟩ := displayTitle?_spacing hshown
  have hblank : ¬ collapse " Introduction" = " Introduction" := by decide
  have hbehind : " Introduction" ≠ collapse " Introduction" ++ " " := by decide
  have hfront : ∃ front, title.Front front ∧ ¬ (front ≠ "" ∧ title.text ≠ "") := by
    simpa only [not_forall, exists_prop] using mt hcollapsed.mpr hblank
  obtain ⟨front, hfront, hempty⟩ := hfront
  have htext : title.text ≠ "" := mt (hspace front hfront).2 hbehind
  have hnothing : front = "" := by
    by_contra hne
    exact hempty ⟨hne, htext⟩
  subst hnothing
  exact ⟨page, hmem, hshown, title, htitle, hfront, htext, (hspace "" hfront).1 rfl⟩

/-- A title that is shown may begin with a blank. -/
theorem not_forall_collapse_displayTitle? :
    ¬ ∀ (t : Tree) (page : Place) (shown : String), page ∈ t.sections →
      page.displayTitle? = some shown → collapse shown = shown := by
  intro h
  obtain ⟨page, hmem, hshown⟩ := exists_section_unnumbered
  have hcollapsed := h unnumbered page " Introduction" hmem hshown
  exact absurd hcollapsed (by decide)

end Document

end BookCensus
