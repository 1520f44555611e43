import BookCensus.Census.Title
import BookCensus.Proofs.SectionOrder

/-!
# Chapter headings

A section whose title has no number is shown under the heading of its chapter.  For the
chapter counts the element two parents above the title, and for its heading the first one
anywhere below that element.  Nothing keeps the search out of the section: when no
heading stands outside, the section may be shown under one of its own, be it the title
itself or a heading in its metadata.

To say when, one has to know that a title stands below what is found by going up from
it.  An element carries what is around it along; in a document, every one of these
elements has it in the list of those below (`Place.Rooted`).

* `Tree.rooted_of_mem` — everything in a document is properly placed, and so is all that is
  below;
* `displayTitle?_of_ownHeadings` — what is shown of a section that has all headings of its
  chapter for itself.
-/

namespace BookCensus.Document

/-! ## Elements and what is around them -/

namespace Place

/-- An element is below everything that is around it. -/
def Rooted (e : Place) : Prop :=
  ∀ p ∈ e.enclosing, e ∈ p.descendants

/-- What is below something below an element is below the element. -/
theorem mem_descendants_trans {p q e : Place} (hq : q ∈ p.descendants)
    (he : e ∈ q.descendants) : e ∈ p.descendants :=
  mem_placesAmong_of_mem_descendants (fun _ => rfl) (fun _ => rfl) hq he

/-- What stands at the top is rooted, and so is everything below it. -/
theorem rooted_of_mem_placesAmong {make : Spot → Place} {siblings : List Node} {e : Place}
    (hchildren : ∀ s, (make s).children = s.children) (htop : ∀ s, (make s).enclosing = [])
    (he : e ∈ placesAmong make make [] siblings) : Rooted e := by
  obtain ⟨route, hroute⟩ := (mem_placesAmong_iff make make siblings e).mp he
  obtain ⟨inside, hinside, hbelow⟩ :=
    enclosing_of_elementAt? hchildren hchildren htop htop hroute
  intro p hp
  rw [hinside, List.append_nil] at hp
  obtain ⟨_, rest, -, -, hrest⟩ := hbelow p hp
  exact (p.mem_descendants_iff e).mpr ⟨rest, hrest⟩

/-- Everything below a rooted element is rooted. -/
theorem Rooted.of_mem_descendants {p e : Place} (h : Rooted p) (he : e ∈ p.descendants) :
    Rooted e := by
  obtain ⟨route, hroute⟩ := (p.mem_descendants_iff e).mp he
  obtain ⟨inside, hinside, hbelow⟩ := enclosing_of_at? hroute
  intro q hq
  rw [hinside, List.mem_append, List.mem_cons] at hq
  rcases hq with hq | rfl | hq
  · obtain ⟨_, rest, -, -, hrest⟩ := hbelow q hq
    exact (q.mem_descendants_iff e).mpr ⟨rest, hrest⟩
  · exact he
  · exact mem_descendants_trans (h q hq) he

/-- Going up leads to an element around this one. -/
theorem mem_enclosing_of_ancestor? {p c : Place} {levels : Nat}
    (h : p.ancestor? (levels + 1) = some c) : c ∈ p.enclosing := by
  induction levels generalizing p with
  | zero =>
      cases p with
      | top => cases h
      | child parent s =>
          obtain rfl : parent = c := Option.some.inj h
          exact List.mem_cons_self
      | content => cases h
  | succ levels ih =>
      cases p with
      | top => cases h
      | child parent s =>
          have habove : parent.ancestor? (levels + 1) = some c := h
          exact List.mem_cons_of_mem parent (ih habove)
      | content => cases h

end Place

namespace Tree

/-- The sections are the places with the role, those in parts that were cut off included. -/
theorem mem_sections_iff (t : Tree) (p : Place) :
    p ∈ t.sections ↔ (p ∈ t.places ∨ p ∈ t.detachedPlaces) ∧ p.isSection = true := by
  rw [sections, List.mem_mergeSort, List.mem_filter, List.mem_append]

/-- A section of the tree is listed. -/
theorem mem_sections_of_at? {t : Tree} {route : Route} {p : Place} (h : t.at? route = some p)
    (hsection : p.isSection = true) : p ∈ t.sections :=
  (t.mem_sections_iff p).mpr ⟨Or.inl ((t.mem_places_iff p).mpr ⟨route, h⟩), hsection⟩

/-- All elements are rooted, in the tree and outside it. -/
theorem rooted_of_mem {t : Tree} {e : Place} (h : e ∈ t.places ∨ e ∈ t.detachedPlaces) :
    e.Rooted := by
  rcases h with h | h
  · exact Place.rooted_of_mem_placesAmong (fun _ => rfl) (fun _ => rfl) h
  · obtain ⟨n, -, hn⟩ := List.mem_flatMap.mp h
    exact Place.rooted_of_mem_placesAmong (fun _ => rfl) (fun _ => rfl) hn

/-- Sections are found from the top of their part of the document. -/
theorem rooted_of_mem_sections {t : Tree} {page : Place} (h : page ∈ t.sections) :
    page.Rooted :=
  rooted_of_mem ((t.mem_sections_iff page).mp h).1

end Tree

/-! ## Titles under headings -/

namespace Place

/-- A heading adds nothing to a title under it when it has no number and no text that is
named. -/
def AddsNothing (heading : Place) : Prop :=
  heading.number? = none ∧ (heading.text = "" ∨ heading.text = "Preface")

/-- Only under a heading that adds nothing is a title shown as it is. -/
theorem titleUnder_eq_iff {heading : Place} {title : String} :
    titleUnder heading title = title ↔ heading.AddsNothing := by
  rw [titleUnder, AddsNothing]
  cases hnumber : heading.number? with
  | some number => simp
  | none =>
      by_cases hnamed : heading.text ≠ "" ∧ heading.text ≠ "Preface"
      · simp [hnamed]
      · simp only [if_neg hnamed, true_and, true_iff]
        tauto

variable {page title : Place}

/-- Without a number of its own, a title is shown under the heading that is found. -/
theorem displayTitle?_eq (htitle : page.titleElement? = some title)
    (hnumber : title.number? = none) :
    page.displayTitle? = some (match title.chapterHeading? with
      | some heading => titleUnder heading title.text
      | none => title.text) := by
  rw [displayTitle?, htitle, Option.map_some, hnumber]
  rfl

/-- A title without a number is shown as it stands when the heading found for it adds nothing, or
there is none. -/
theorem displayTitle?_eq_text_iff (htitle : page.titleElement? = some title)
    (hnumber : title.number? = none) :
    page.displayTitle? = some title.text ↔
      ∀ heading, title.chapterHeading? = some heading → heading.AddsNothing := by
  rw [displayTitle?_eq htitle hnumber]
  cases hheading : title.chapterHeading? with
  | none => simp
  | some heading => simp [titleUnder_eq_iff]

/-- The heading that is found is the first one below the container. -/
theorem chapterHeading?_eq_some_iff {heading : Place} :
    title.chapterHeading? = some heading ↔
      ∃ c, title.ancestor? chapterLevels = some c ∧
        c.descendants.find? isHeading = some heading := by
  simp only [chapterHeading?, bind, Option.bind_eq_some_iff, findBelow?_eq]

/-- The title element of a section is below it. -/
theorem mem_descendants_of_titleElement? (htitle : page.titleElement? = some title) :
    title ∈ page.descendants := by
  rw [titleElement?, findBelow?_eq] at htitle
  exact List.mem_of_find?_eq_some htitle

/-- A section is no heading. -/
theorem isHeading_eq_false_of_isSection (h : page.isSection = true) :
    page.isHeading = false := by
  have hrole := (Bool.and_eq_true_iff.mp h).2
  rw [isHeading, isTitle]
  rcases Bool.or_eq_true_iff.mp hrole with hrole | hrole
  · simp [of_decide_eq_true hrole]
  · simp [of_decide_eq_true hrole]

/-! ## Headings of the section itself -/

/-- A section has all headings of its chapter for itself: those below the container that
belongs to its title stand in the section. -/
def OwnHeadings (page title : Place) : Prop :=
  ∀ c, title.ancestor? chapterLevels = some c → ∀ heading ∈ c.descendants,
    heading.isHeading = true → heading = page ∨ heading ∈ page.descendants

/-- Then the heading that is found is one of those below the section. -/
theorem OwnHeadings.of_chapterHeading? (hown : OwnHeadings page title)
    (hsection : page.isSection = true) {heading : Place}
    (hheading : title.chapterHeading? = some heading) :
    heading.isHeading = true ∧ heading ∈ page.descendants := by
  obtain ⟨c, hc, hfind⟩ := chapterHeading?_eq_some_iff.mp hheading
  have his : heading.isHeading = true := List.find?_some hfind
  have hmem : heading ∈ c.descendants := List.mem_of_find?_eq_some hfind
  refine ⟨his, (hown c hc heading hmem his).resolve_left ?_⟩
  intro hpage
  rw [hpage, isHeading_eq_false_of_isSection hsection] at his
  cases his

/-- Below the container of a title that is a heading there is a heading, the title at
least. -/
theorem Rooted.exists_chapterHeading? (hrooted : title.Rooted) (his : title.isHeading = true)
    (hcontainer : (title.ancestor? chapterLevels).isSome) :
    ∃ heading, title.chapterHeading? = some heading := by
  obtain ⟨c, hc⟩ := Option.isSome_iff_exists.mp hcontainer
  have hmem : title ∈ c.descendants := hrooted c (mem_enclosing_of_ancestor? hc)
  have hfound : (c.descendants.find? isHeading).isSome :=
    List.find?_isSome.mpr ⟨title, hmem, his⟩
  obtain ⟨heading, hheading⟩ := Option.isSome_iff_exists.mp hfound
  exact ⟨heading, chapterHeading?_eq_some_iff.mpr ⟨c, hc, hheading⟩⟩

end Place

open Place

/-- **Sections under headings of their own.**  Let a section have all headings of its
chapter for itself, and let its title have no number.  It is shown under its title alone
exactly when the heading that is found adds nothing, as when there is none: when the title
has no container, or the section has no heading.  Otherwise it is shown under a heading
of its own; and one is found whenever the title is a heading itself and has a
container. -/
theorem displayTitle?_of_ownHeadings {t : Tree} {page title : Place}
    (hpage : page ∈ t.sections) (htitle : page.titleElement? = some title)
    (hnumber : title.number? = none) (hown : OwnHeadings page title) :
    (page.displayTitle? = some title.text ↔
      ∀ heading, title.chapterHeading? = some heading → heading.AddsNothing) ∧
    (title.ancestor? chapterLevels = none ∨
        (∀ heading ∈ page.descendants, heading.isHeading = false) →
      page.displayTitle? = some title.text) ∧
    (∀ heading, title.chapterHeading? = some heading →
      heading ∈ page.descendants ∧
        page.displayTitle? = some (titleUnder heading title.text)) ∧
    (title.isHeading = true → (title.ancestor? chapterLevels).isSome →
      ∃ heading, title.chapterHeading? = some heading) := by
  have hsection : page.isSection = true := ((t.mem_sections_iff page).mp hpage).2
  have hrooted : title.Rooted := (Tree.rooted_of_mem_sections hpage).of_mem_descendants
    (mem_descendants_of_titleElement? htitle)
  refine ⟨displayTitle?_eq_text_iff htitle hnumber, ?_, ?_, hrooted.exists_chapterHeading?⟩
  · intro hplain
    rw [displayTitle?_eq_text_iff htitle hnumber]
    intro heading hheading
    obtain ⟨his, hmem⟩ := hown.of_chapterHeading? hsection hheading
    rcases hplain with hnone | hfree
    · obtain ⟨c, hc, -⟩ := chapterHeading?_eq_some_iff.mp hheading
      rw [hnone] at hc
      cases hc
    · rw [hfree heading hmem] at his
      cases his
  · intro heading hheading
    refine ⟨(hown.of_chapterHeading? hsection hheading).2, ?_⟩
    rw [displayTitle?_eq htitle hnumber, hheading]

/-- A section alone in a document, its title no heading. -/
def unheaded : Tree :=
  Html.parse "<div data-type='page'><h2 data-type='document-title'>Waves</h2></div>"

/-- It has a container with no heading in it, and is shown under its title. -/
theorem displayTitle?_of_ownHeadings_unheaded :
    ∃ page title, page ∈ unheaded.sections ∧ page.titleElement? = some title ∧
      title.number? = none ∧ OwnHeadings page title ∧
      (title.ancestor? chapterLevels).isSome ∧ page.displayTitle? = some "Waves" := by
  have hfound : (unheaded.at? [0, 1, 0]).any (fun page => page.isSection &&
      page.descendants.all (fun heading => heading.isHeading = false) &&
      page.titleElement?.any fun title => title.number?.isNone && title.text = "Waves" &&
        (title.ancestor? chapterLevels).isSome && (title.ancestor? chapterLevels).all fun c =>
          c.descendants.all fun heading => heading.isHeading = false) = true := by
    decide +kernel
  obtain ⟨page, hroute, hpage⟩ := (Option.any_eq_true _ _).mp hfound
  simp only [Bool.and_eq_true, List.all_eq_true, decide_eq_true_iff, and_assoc] at hpage
  obtain ⟨hsection, hfree, htitle⟩ := hpage
  obtain ⟨title, htitle, hrest⟩ := (Option.any_eq_true _ _).mp htitle
  simp only [Bool.and_eq_true, decide_eq_true_iff, Option.isNone_iff_eq_none, and_assoc] at hrest
  obtain ⟨hnumber, htext, hcontainer, hnone⟩ := hrest
  have hmem : page ∈ unheaded.sections := Tree.mem_sections_of_at? hroute hsection
  have hown : OwnHeadings page title := by
    intro c hc heading hin his
    rw [hc, Option.all_some, List.all_eq_true] at hnone
    rw [of_decide_eq_true (hnone heading hin)] at his
    cases his
  have hplain := (displayTitle?_of_ownHeadings hmem htitle hnumber hown).2.1 (Or.inr hfree)
  rw [htext] at hplain
  exact ⟨page, title, hmem, htitle, hnumber, hown, hcontainer, hplain⟩

/-- A section alone in its chapter, its title a heading. -/
def orphan : Tree :=
  Html.parse ("<div data-type='chapter'><div data-type='page'>"
    ++ "<h1 data-type='document-title'>Orphan</h1></div></div>")

/-- It has all headings of its chapter for itself and is shown under its own title, named
twice. -/
theorem exists_title_under_itself :
    ∃ page title, page ∈ orphan.sections ∧ page.titleElement? = some title ∧
      title.number? = none ∧ OwnHeadings page title ∧ title.text = "Orphan" ∧
      page.displayTitle? = some "Chapter: Orphan Module: Orphan" := by
  have hfound : (orphan.at? [0, 1, 0, 0]).any (fun page => page.isSection &&
      page.displayTitle? = some "Chapter: Orphan Module: Orphan" &&
      page.titleElement?.any fun title => title.number?.isNone && title.text = "Orphan" &&
        title.isHeading && (title.ancestor? chapterLevels).all fun c =>
          (c.descendants.filter isHeading).length = 1) = true := by
    decide +kernel
  obtain ⟨page, hroute, hpage⟩ := (Option.any_eq_true _ _).mp hfound
  simp only [Bool.and_eq_true, decide_eq_true_iff, and_assoc] at hpage
  obtain ⟨hsection, hdisplay, htitle⟩ := hpage
  obtain ⟨title, htitle, hrest⟩ := (Option.any_eq_true _ _).mp htitle
  simp only [Bool.and_eq_true, decide_eq_true_iff, Option.isNone_iff_eq_none, and_assoc] at hrest
  obtain ⟨hnumber, htext, hheading, hone⟩ := hrest
  have hmem : page ∈ orphan.sections := Tree.mem_sections_of_at? hroute hsection
  have hbelow : title ∈ page.descendants := mem_descendants_of_titleElement? htitle
  refine ⟨page, title, hmem, htitle, hnumber, ?_, htext, hdisplay⟩
  -- the title is the one heading below its container
  intro c hc heading hin his
  rw [hc, Option.all_some, decide_eq_true_iff] at hone
  obtain ⟨only, honly⟩ := List.length_eq_one_iff.mp hone
  have hrooted : title.Rooted := (Tree.rooted_of_mem_sections hmem).of_mem_descendants hbelow
  have hlast : title ∈ c.descendants.filter isHeading :=
    List.mem_filter.mpr ⟨hrooted c (mem_enclosing_of_ancestor? hc), hheading⟩
  have hfirst : heading ∈ c.descendants.filter isHeading := List.mem_filter.mpr ⟨hin, his⟩
  rw [honly, List.mem_singleton] at hlast hfirst
  rw [hfirst, ← hlast]
  exact Or.inr hbelow

end BookCensus.Document
