import BookCensus.Proofs.Outlines
import BookCensus.Proofs.TitleRule

/-!
# Titles are local

The title of a section depends on two subtrees: the section, and what is two parents above
its title element.  Sections of two documents with the same outline, whose title elements
stand below elements with the same outline, are shown under the same title
(`Tree.displayTitle?_local`).  What else is in the documents, above and before and after,
does not come into play.

The search for the title element looks upwards from what may be one, into the part of the
document that the section stands in.  What it sees before it comes to the section is
settled by the outline of the section (`inMetadata_eq`), and nothing else is asked for.
-/

namespace BookCensus.Document

namespace Place

variable {p q : Place}

/-! ## What is read off an outline -/

/-- Outlines tell titles. -/
theorem isTitle_congr (h : p.outline = q.outline) : p.isTitle = q.isTitle := by
  rw [isTitle, isTitle, role?, role?, attribute?_congr h]

/-- Outlines tell headings. -/
theorem isHeading_congr (h : p.outline = q.outline) : p.isHeading = q.isHeading := by
  rw [isHeading, isHeading, isTitle_congr h, (outline_eq_iff.mp h).2.1]

/-- Outlines tell numbers. -/
theorem isNumber_congr (h : p.outline = q.outline) : p.isNumber = q.isNumber := by
  rw [isNumber, isNumber, attribute?_congr h]

/-- Headings with the same outline have numbers with the same outline, or none. -/
theorem number?_congr (h : p.outline = q.outline) :
    p.number?.map outline = q.number?.map outline :=
  findBelow?_congr h fun _ _ => isNumber_congr

/-! ## What is shown for a title element -/

/-- Options with the same outlines are both empty or hold elements with the same outline. -/
theorem cases_of_map_outline {o o' : Option Place} (h : o.map outline = o'.map outline) :
    (o = none ∧ o' = none) ∨ ∃ e e', o = some e ∧ o' = some e' ∧ e.outline = e'.outline := by
  cases o with
  | none => exact Or.inl ⟨rfl, Option.map_eq_none_iff.mp h.symm⟩
  | some e =>
      obtain ⟨e', he', hsame⟩ := Option.map_eq_some_iff.mp h.symm
      exact Or.inr ⟨e, e', rfl, he', hsame.symm⟩

/-- So titles are shown alike under them. -/
theorem titleUnder_congr (h : p.outline = q.outline) (title : String) :
    titleUnder p title = titleUnder q title := by
  rw [titleUnder, titleUnder, text_congr h]
  rcases cases_of_map_outline (number?_congr h) with ⟨hp, hq⟩ | ⟨number, number', hp, hq, hsame⟩
  · rw [hp, hq]
  · rw [hp, hq]
    simp only [text_congr hsame]

/-- Chapters with the same outline have headings with the same outline, or none. -/
theorem chapterHeading?_congr (h : (p.parent?.bind parent?).map outline
    = (q.parent?.bind parent?).map outline) :
    p.chapterHeading?.map outline = q.chapterHeading?.map outline := by
  rw [chapterHeading?, chapterHeading?, ancestor?_chapterLevels, ancestor?_chapterLevels]
  rcases cases_of_map_outline h with ⟨hp, hq⟩ | ⟨c, c', hp, hq, hsame⟩
  · rw [hp, hq]
  · rw [hp, hq]
    exact findBelow?_congr hsame fun _ _ => isHeading_congr

/-- Title elements with the same outline, below containers with the same outline, are shown
alike. -/
theorem titleOf_congr (h : p.outline = q.outline) (hcontainer : (p.parent?.bind parent?).map outline
    = (q.parent?.bind parent?).map outline) : titleOf p = titleOf q := by
  have hnumber : p.number?.isSome = q.number?.isSome := by
    simpa using congrArg Option.isSome (number?_congr h)
  rw [titleOf, titleOf, hnumber, text_congr h]
  rcases cases_of_map_outline (chapterHeading?_congr hcontainer) with
    ⟨hp, hq⟩ | ⟨heading, heading', hp, hq, hsame⟩
  · rw [hp, hq]
  · rw [hp, hq]
    simp only [titleUnder_congr hsame]

/-! ## The search for the title element -/

/-- What an element below a section stands in there is what the search looks at. -/
theorem inMetadata_eq {page e : Place} (hpage : page.ToldApart) (he : e ∈ page.descendants) :
    inMetadata page e = (e.profile (page.enclosing.length + 1)).2.any fun o =>
      o.attribute? "data-type" = some "metadata" := by
  obtain ⟨route, hroute⟩ := (page.mem_descendants_iff e).mp he
  obtain ⟨inside, henclosing, htake, -⟩ := takeWhile_enclosing hroute hpage
  have hprofile : e.profile (page.enclosing.length + 1) = (e.outline, inside.map outline) :=
    profile_eq henclosing
  rw [inMetadata, htake, hprofile, List.any_map]
  rfl

/-- Two elements stand at the same place below two others, counted in the order of the
tree. -/
def Corresponds (page₁ page₂ e₁ e₂ : Place) : Prop :=
  ∃ n : Nat, page₁.descendants[n]? = some e₁ ∧ page₂.descendants[n]? = some e₂

/-- Sections with the same outline have no title element, or have it at the same place. -/
theorem titleElement?_congr {page₁ page₂ : Place} (hpage₁ : page₁.ToldApart)
    (hpage₂ : page₂.ToldApart) (h : page₁.outline = page₂.outline) :
    (page₁.titleElement? = none ∧ page₂.titleElement? = none) ∨
      ∃ t₁ t₂, page₁.titleElement? = some t₁ ∧ page₂.titleElement? = some t₂ ∧
        Corresponds page₁ page₂ t₁ t₂ ∧ t₁.outline = t₂.outline := by
  have hsame : ∀ e₁ ∈ page₁.descendants, ∀ e₂ ∈ page₂.descendants,
      e₁.profile (page₁.enclosing.length + 1) = e₂.profile (page₂.enclosing.length + 1) →
        (e₁.isTitle && !inMetadata page₁ e₁) = (e₂.isTitle && !inMetadata page₂ e₂) := by
    intro e₁ he₁ e₂ he₂ hprofile
    rw [isTitle_congr (congrArg Prod.fst hprofile), inMetadata_eq hpage₁ he₁,
      inMetadata_eq hpage₂ he₂, hprofile]
  rw [titleElement?, titleElement?, findBelow?_eq, findBelow?_eq]
  rcases find?_of_forall₂ (forall₂_profile h) hsame with
    hnone | ⟨n, t₁, t₂, hn₁, hn₂, hprofile, ht₁, ht₂⟩
  · exact Or.inl hnone
  · exact Or.inr ⟨t₁, t₂, ht₁, ht₂, ⟨n, hn₁, hn₂⟩, congrArg Prod.fst hprofile⟩

end Place

open Place

/-- **Titles are local.**  Take sections of two documents that have the same outline, and let
the walks two parents up from the title element of the first and from what corresponds to it
in the second both fail, or both reach elements with the same outline.  Then the sections
are shown under the same title, or both under none. -/
theorem Tree.displayTitle?_local {source₁ source₂ : String} {page₁ page₂ : Place}
    (hpage₁ : page₁ ∈ (Html.parse source₁).sections)
    (hpage₂ : page₂ ∈ (Html.parse source₂).sections) (hsame : page₁.outline = page₂.outline)
    (hcontainer : ∀ t₁ t₂, page₁.titleElement? = some t₁ → Corresponds page₁ page₂ t₁ t₂ →
      (t₁.parent?.bind parent?).map outline = (t₂.parent?.bind parent?).map outline) :
    page₁.displayTitle? = page₂.displayTitle? := by
  have hapart₁ : page₁.ToldApart := toldApart_of_mem_sections hpage₁
  have hapart₂ : page₂.ToldApart := toldApart_of_mem_sections hpage₂
  rw [displayTitle?_eq_map, displayTitle?_eq_map]
  rcases titleElement?_congr hapart₁ hapart₂ hsame with
    ⟨h₁, h₂⟩ | ⟨t₁, t₂, h₁, h₂, hposition, houtline⟩
  · rw [h₁, h₂]
  · rw [h₁, h₂, Option.map_some, Option.map_some,
      titleOf_congr houtline (hcontainer t₁ t₂ h₁ hposition)]

/-- A chapter in the metadata of something, with contents before it. -/
def filed : Tree :=
  Html.parse ("<ul><li>Waves</ul><div data-type='metadata'>"
    ++ "<section><h1 data-type='document-title'>Light</h1>"
    ++ "<div data-type='page'><h2 data-type='document-title'>Waves</h2></div></section></div>")

/-- The same chapter on its own, with something after it. -/
def loose : Tree :=
  Html.parse ("<section><h1 data-type='document-title'>Light</h1>"
    ++ "<div data-type='page'><h2 data-type='document-title'>Waves</h2></div></section><p>Heat")

/-- The sections are shown under the same title, the one in metadata as well as the other. -/
theorem displayTitle?_local_filed :
    ∃ page₁ page₂, page₁ ∈ filed.sections ∧ page₂ ∈ loose.sections ∧
      (∃ q ∈ page₁.enclosing, q.role? = some "metadata") ∧
      (∀ q ∈ page₂.enclosing, q.role? ≠ some "metadata") ∧
      page₁.displayTitle? = page₂.displayTitle? ∧
      page₂.displayTitle? = some "Chapter: Light Module: Waves" := by
  have hfound : (filed.at? [0, 1, 1, 0, 1]).any (fun page₁ =>
      (loose.at? [0, 1, 0, 1]).any fun page₂ =>
        page₁.isSection && page₂.isSection &&
        page₁.enclosing.any (fun q => q.role? = some "metadata") &&
        page₂.enclosing.all (fun q => q.role? ≠ some "metadata") &&
        page₂.displayTitle? = some "Chapter: Light Module: Waves" &&
        page₁.node.alike page₂.node &&
        page₁.descendants.all fun t₁ => page₂.descendants.all fun t₂ =>
          (t₁.parent?.bind parent?).any fun c₁ => (t₂.parent?.bind parent?).any fun c₂ =>
            c₁.node.alike c₂.node) = true := by
    decide +kernel
  obtain ⟨page₁, hroute₁, hrest⟩ := (Option.any_eq_true _ _).mp hfound
  obtain ⟨page₂, hroute₂, hrest⟩ := (Option.any_eq_true _ _).mp hrest
  simp only [Bool.and_eq_true, List.any_eq_true, List.all_eq_true, decide_eq_true_iff,
    and_assoc] at hrest
  obtain ⟨hsection₁, hsection₂, hmetadata₁, hmetadata₂, hdisplay, halike, hcontainers⟩ := hrest
  have hmem₁ : page₁ ∈ filed.sections := Tree.mem_sections_of_at? hroute₁ hsection₁
  have hmem₂ : page₂ ∈ loose.sections := Tree.mem_sections_of_at? hroute₂ hsection₂
  refine ⟨page₁, page₂, hmem₁, hmem₂, hmetadata₁, hmetadata₂, ?_, hdisplay⟩
  apply Tree.displayTitle?_local hmem₁ hmem₂ (outline_eq_of_alike halike)
  rintro t₁ t₂ - ⟨n, hn₁, hn₂⟩
  have hwalks := hcontainers t₁ (List.mem_of_getElem? hn₁) t₂ (List.mem_of_getElem? hn₂)
  obtain ⟨c₁, hc₁, hwalks⟩ := (Option.any_eq_true _ _).mp hwalks
  obtain ⟨c₂, hc₂, halike⟩ := (Option.any_eq_true _ _).mp hwalks
  rw [hc₁, hc₂, Option.map_some, Option.map_some, outline_eq_of_alike halike]

end BookCensus.Document
