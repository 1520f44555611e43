import BookCensus.Proofs.ChapterHeadings
import BookCensus.Proofs.NestedSections
import BookCensus.Proofs.SubstringMatches

/-!
# Filters and what is around a match

Some filters only ask for something inside an element: a match of another selector below
it, or a piece of its text.  What is inside an element is inside everything around it, so
an element that passes such a filter never passes alone.

For matches that is the way routes go, provided that the inner selector says nothing of
its scope.  For texts it is less plain, because they are collapsed: the text of an element
may touch what stands beside it and lose the blanks at its ends.  It still is a piece of
the text of what is around it (`Text.collapseChars_infix`).

The main statement is `passes_outwards`.
-/

namespace BookCensus

open Document

namespace Document

/-! ## Texts of elements around one another -/

namespace Node

/-- The text of a node is a piece of the text of the siblings that it stands among. -/
theorem textChars_infix_of_getElem? {siblings : List Node} {i : Nat} {n : Node}
    (h : siblings[i]? = some n) : n.textChars <:+: textCharsOfAll siblings := by
  induction siblings generalizing i with
  | nil => cases h
  | cons m rest ih =>
      cases i with
      | zero =>
          obtain rfl : m = n := Option.some.inj h
          exact (List.prefix_append _ _).isInfix
      | succ i => exact (ih h).trans (List.suffix_append _ _).isInfix

end Node

/-- The text below an element that a route leads to is part of the text of the siblings
that the route begins at. -/
theorem textCharsOfAll_infix_of_elementAt? {e : Place} {route : Route} :
    ∀ {make inner : Spot → Place} {siblings : List Node},
      (∀ s, (make s).children = s.children) → (∀ s, (inner s).children = s.children) →
      elementAt? make inner siblings route = some e →
      Node.textCharsOfAll e.children <:+: Node.textCharsOfAll siblings := by
  induction route with
  | nil =>
      intro make inner siblings _ _ h
      simp [elementAt?] at h
  | cons i tail ih =>
      intro make inner siblings hmake hinner h
      rcases elementAt?_cons_cases h with ⟨data, children, hn, -, rfl⟩
        | ⟨data, children, p, hn, -, -, hbelow⟩ | ⟨contents, hn, hinside⟩
      · rw [hmake]
        exact Node.textChars_infix_of_getElem? hn
      · exact (ih (fun _ => rfl) (fun _ => rfl) hbelow).trans
          (Node.textChars_infix_of_getElem? hn)
      · exact (ih hinner hinner hinside).trans (Node.textChars_infix_of_getElem? hn)

namespace Place

/-- The text of an element is a piece of the text of every element that it is below. -/
theorem text_infix {a e : Place} (he : e ∈ a.descendants) :
    e.text.toList <:+: a.text.toList := by
  obtain ⟨route, hroute⟩ := (a.mem_descendants_iff e).mp he
  obtain ⟨l, r, htext⟩ :=
    textCharsOfAll_infix_of_elementAt? (fun _ => rfl) (fun _ => rfl) hroute
  rw [text, text, String.toList_ofList, String.toList_ofList, ← htext]
  exact Text.collapseChars_infix l _ r

/-- An element around one that is below a page is the page, or around it, or below it. -/
theorem mem_descendants_of_mem_enclosing {page a e : Place} (he : e ∈ page.descendants)
    (ha : a ∈ e.enclosing) (hpage : page ∈ a.enclosing) : a ∈ page.descendants := by
  obtain ⟨route, hroute⟩ := (page.mem_descendants_iff e).mp he
  obtain ⟨inside, hinside, hpasses⟩ := enclosing_of_at? hroute
  have hlt := length_enclosing_lt hpage
  rw [hinside, List.mem_append, List.mem_cons] at ha
  rcases ha with ha | rfl | ha
  · obtain ⟨first, -, -, hfirst, -⟩ := hpasses a ha
    exact (page.mem_descendants_iff a).mpr ⟨first, hfirst⟩
  · exact absurd hlt (Nat.lt_irrefl _)
  · exact absurd (length_enclosing_lt ha) (Nat.lt_asymm hlt)

end Place

end Document

/-! ## Filters that look inside -/

/-- A substring that is found in a text is found in every text that has it as a piece. -/
theorem TextTest.accepts_of_infix {needle text text' : String}
    (htext : text.toList <:+: text'.toList) (h : (substring needle).accepts text = true) :
    (substring needle).accepts text' = true := by
  rw [accepts, Text.contains, Text.occursIn_iff] at h ⊢
  exact h.trans htext

/-- A match of a selector without `:scope` below an element is one below every element
that this one is below. -/
theorem Css.SelectorList.firstBelow?_isSome_of_mem_descendants {list : SelectorList}
    (hscope : allScopeFree list = true) {a e : Place} (he : e ∈ a.descendants)
    (h : (list.firstBelow? e).isSome) : (list.firstBelow? a).isSome := by
  rw [firstBelow?, Place.findBelow?_eq, List.find?_isSome] at h ⊢
  obtain ⟨d, hd, hmatches⟩ := h
  refine ⟨d, Place.mem_descendants_trans he hd, ?_⟩
  have hsame : list.matchesIn (some a.serial) d = list.matchesIn (some e.serial) d :=
    anyHolds_of_scopeFree _ _ none d list hscope
  rw [hsame, hmatches]

/-- Filters that ask for nothing but something inside an element, whatever the scope. -/
def MatchFilter.LooksInside : MatchFilter → Prop
  | .all => True
  | .hasDescendant inner => Css.allScopeFree inner.list = true
  | .hasText (.substring _) => True
  | .hasText (.pattern _) => False

/-- Such a filter lets everything pass that an element stands in which passes. -/
theorem MatchFilter.LooksInside.passes {filter : MatchFilter} (hfilter : filter.LooksInside)
    {a e : Place} (he : e ∈ a.descendants) (h : filter.passes e = true) :
    filter.passes a = true := by
  cases filter with
  | all => rfl
  | hasDescendant inner =>
      exact Css.SelectorList.firstBelow?_isSome_of_mem_descendants hfilter he h
  | hasText test =>
      cases test with
      | substring needle => exact TextTest.accepts_of_infix (Place.text_infix he) h
      | pattern p => exact hfilter.elim

/-- The selector `*`. -/
theorem Structural.compile_star [Css.Wording] :
    compile "*" = .ok ⟨"*", [.compound [.universal]]⟩ :=
  rfl

namespace Plan

/-- With the base `*` an element below a section is matched when it passes the filter. -/
theorem mem_matchSet_iff_of_star [Css.Wording] {plan : Plan}
    (hbase : Structural.compile "*" = .ok plan.base) {page e : Place} (he : e ∈ page.descendants) :
    e ∈ plan.matchSet page ↔ plan.filter.passes e = true := by
  have hlist : plan.base.list = [.compound [.universal]] := by
    rw [Structural.compile_star] at hbase
    rw [← Except.ok.inj hbase]
  have hscope : Css.allScopeFree plan.base.list = true := by
    rw [hlist]
    rfl
  have hall : plan.base.list.matchesIn none e = true := by
    rw [hlist]
    rfl
  rw [mem_matchSet_iff_of_scopeFree hscope he, hall]
  exact and_iff_right rfl

/-- **Filters that look inside hold outwards.**  Take an element of a document, in the tree
or outside it, and another one around it, in whose template contents it may stand.  The
text of the first is a piece of the text of the second; so a substring that is found in
the one is found in the other, and a selector without `:scope` that matches below the one
matches below the other.  Hence when a plan with the base `*` and such a filter matches the
first in a section, it matches everything around it that is strictly inside the section. -/
theorem passes_outwards [Css.Wording] {t : Tree} {e a : Place}
    (he : e ∈ t.places ∨ e ∈ t.detachedPlaces) (ha : a ∈ e.enclosing) :
    e.text.toList <:+: a.text.toList ∧
    (∀ needle, (TextTest.substring needle).accepts e.text = true →
      (TextTest.substring needle).accepts a.text = true) ∧
    (∀ inner : Structural, Css.allScopeFree inner.list = true →
      (inner.list.firstBelow? e).isSome → (inner.list.firstBelow? a).isSome) ∧
    ∀ (plan : Plan) (page : Place), Structural.compile "*" = .ok plan.base →
      plan.filter.LooksInside → e ∈ plan.matchSet page → page ∈ a.enclosing →
      a ∈ plan.matchSet page := by
  have hbelow : e ∈ a.descendants := Tree.rooted_of_mem he a ha
  have htext := Place.text_infix hbelow
  refine ⟨htext, fun _ => TextTest.accepts_of_infix htext,
    fun inner hscope => Css.SelectorList.firstBelow?_isSome_of_mem_descendants hscope hbelow, ?_⟩
  intro plan page hbase hfilter hmatched hpage
  have hin : e ∈ page.descendants :=
    (List.mem_filter.mp (List.mem_filter.mp hmatched).1).1
  have hpasses := (mem_matchSet_iff_of_star hbase hin).mp hmatched
  have hain := Place.mem_descendants_of_mem_enclosing hin ha hpage
  exact (mem_matchSet_iff_of_star hbase hain).mpr (hfilter.passes hbelow hpasses)

/-- The plan for `*:hasText(one)`. -/
def mentionsOne : Plan :=
  ⟨⟨"*", .hasText "one"⟩, ⟨"*", [.compound [.universal]]⟩, .hasText (.substring "one")⟩

/-- A page with a template whose contents are some text and a paragraph. -/
def pageWithTemplate : Tree :=
  Html.parse "<div data-type='page'><template>Step <p>one</p></template></div>"

/-- The paragraph is matched in the page, hence so is the template. -/
theorem passes_outwards_template :
    ∃ page a e, pageWithTemplate.at? [0, 1, 0] = some page ∧ page.at? [0] = some a ∧
      a.at? [0, 1] = some e ∧ e ∈ pageWithTemplate.places ∧ a ∈ e.enclosing ∧
      e.text = "one" ∧ a.text = "Step one" ∧ e.text.toList <:+: a.text.toList ∧
      Structural.compile "*" = .ok mentionsOne.base ∧ mentionsOne.filter.LooksInside ∧
      e ∈ mentionsOne.matchSet page ∧ a ∈ mentionsOne.matchSet page := by
  have hfound : (pageWithTemplate.at? [0, 1, 0]).any (fun page => (page.at? [0]).any fun a =>
      (a.at? [0, 1]).any fun e => e.text = "one" && a.text = "Step one" &&
        mentionsOne.filter.passes e) = true := by
    decide +kernel
  obtain ⟨page, hpage, hfound⟩ := (Option.any_eq_true _ _).mp hfound
  obtain ⟨a, ha, hfound⟩ := (Option.any_eq_true _ _).mp hfound
  obtain ⟨e, he, hfound⟩ := (Option.any_eq_true _ _).mp hfound
  simp only [Bool.and_eq_true, decide_eq_true_iff, and_assoc] at hfound
  obtain ⟨htext, htext', hpasses⟩ := hfound
  have hroute : page.at? [0, 0, 1] = some e :=
    (Place.at?_append ha (List.cons_ne_nil _ _)).trans he
  have hin : e ∈ page.descendants := (page.mem_descendants_iff e).mpr ⟨_, hroute⟩
  have hmem : e ∈ pageWithTemplate.places :=
    (pageWithTemplate.mem_places_iff e).mpr
      ⟨_, (elementAt?_append (fun _ => rfl) (fun _ => rfl) hpage (List.cons_ne_nil _ _)).trans
        hroute⟩
  have hbase : Structural.compile "*" = .ok mentionsOne.base := Structural.compile_star
  have hfilter : mentionsOne.filter.LooksInside := True.intro
  have hmatched : e ∈ mentionsOne.matchSet page := (mem_matchSet_iff_of_star hbase hin).mpr hpasses
  have haround : a ∈ e.enclosing := Place.mem_enclosing_of_at? he
  obtain ⟨hpiece, -, -, hmatches⟩ := passes_outwards (Or.inl hmem) haround
  exact ⟨page, a, e, hpage, ha, he, hmem, haround, htext, htext', hpiece, hbase, hfilter,
    hmatched, hmatches mentionsOne page hbase hfilter hmatched (Place.mem_enclosing_of_at? ha)⟩

end Plan

end BookCensus
