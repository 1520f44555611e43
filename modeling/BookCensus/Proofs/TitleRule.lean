import BookCensus.Proofs.SerialNumbers
import Mathlib.Data.Set.Basic

/-!
# The title of a section

The title of a section is a matter of where things stand.  Its title elements are those
below it with nothing of its metadata in between, and the first of them in the order of the
tree counts (`Place.titleRoutes`).  What is shown is then settled by what is below this
element, and by the first heading below the element two parents up (`Place.ShownAs`).

The search goes about it the other way round.  It takes the elements with the role of a title
one after the other and looks upwards from each, as far as the section.  That it stops there,
and not at an element before, is due to the numbers of elements in a document
(`Place.ToldApart`).

* `findBelow?_eq_some_iff` and `findBelow?_eq_none_iff` — a search finds the first
  element that passes;
* `titleElement?_eq_some_iff` — the search for the title element of a section;
* `Tree.displayTitle?_rule` — the rule.
-/

namespace BookCensus.Document

/-! ## The first of some elements -/

/-- The first of some routes in the order of the tree. -/
def IsFirst (routes : Set Route) (route : Route) : Prop :=
  route ∈ routes ∧ ∀ other ∈ routes, other = route ∨ route < other

/-- In a list of routes that ascends, a search from the front finds the first one. -/
theorem find?_eq_some_iff_isFirst {routes : List Route} (h : routes.Pairwise (· < ·))
    (test : Route → Bool) (route : Route) :
    routes.find? test = some route ↔ IsFirst {r | r ∈ routes ∧ test r = true} route := by
  rw [List.find?_eq_some_iff_append]
  constructor
  · rintro ⟨htest, before, after, rfl, hbefore⟩
    refine ⟨⟨List.mem_append_right before List.mem_cons_self, htest⟩, ?_⟩
    rintro other ⟨hother, hpasses⟩
    rcases List.mem_append.mp hother with hother | hother
    · have hfails := hbefore other hother
      rw [hpasses] at hfails
      cases hfails
    · have hrest := (List.pairwise_append.mp h).2.1
      exact (List.mem_cons.mp hother).imp_right (List.rel_of_pairwise_cons hrest)
  · rintro ⟨⟨hmem, htest⟩, hleast⟩
    obtain ⟨before, after, rfl⟩ := List.append_of_mem hmem
    refine ⟨htest, before, after, rfl, ?_⟩
    intro other hother
    rw [Bool.not_eq_true', ← Bool.not_eq_true]
    intro hpasses
    have hlt : other < route :=
      (List.pairwise_append.mp h).2.2 other hother route List.mem_cons_self
    rcases hleast other ⟨List.mem_append_left _ hother, hpasses⟩ with rfl | hgt
    · exact List.lt_irrefl _ hlt
    · exact List.lt_asymm hlt hgt

namespace Place

/-- The routes from an element to those below it that pass a test. -/
def routesTo (p : Place) (test : Place → Bool) : Set Route :=
  {route | ∃ e, p.at? route = some e ∧ test e = true}

/-- An element is the first of those below another one that pass a test. -/
def FirstBelow (p : Place) (test : Place → Bool) (e : Place) : Prop :=
  ∃ route, IsFirst (p.routesTo test) route ∧ p.at? route = some e

variable {p page : Place}

/-- A search below an element is one among its routes. -/
theorem findBelow?_eq_bind (test : Place → Bool) (p : Place) :
    p.findBelow? test = (p.routes.find? fun r => (p.at? r).any test).bind p.at? := by
  have hfind : (p.descendants.map some).find? (Option.any test)
      = (p.findBelow? test).map some := by
    rw [findBelow?_eq, List.find?_map]
    rfl
  rw [← p.map_at?_routes, List.find?_map] at hfind
  simpa [← Option.bind_id_eq_join, Option.bind_map, Function.comp_def] using
    congrArg Option.join hfind.symm

/-- The search below an element finds the first one that passes. -/
theorem findBelow?_eq_some_iff (test : Place → Bool) (p e : Place) :
    p.findBelow? test = some e ↔ p.FirstBelow test e := by
  have hroutes : {r | r ∈ p.routes ∧ (p.at? r).any test = true}
      = p.routesTo test := by
    ext r
    rw [routesTo, Set.mem_ofPred_eq, Set.mem_ofPred_eq, Option.any_eq_true, p.mem_routes_iff]
    constructor
    · exact And.right
    · rintro ⟨q, hq, hpasses⟩
      exact ⟨⟨q, hq⟩, q, hq, hpasses⟩
  rw [findBelow?_eq_bind, Option.bind_eq_some_iff]
  simp only [find?_eq_some_iff_isFirst p.pairwise_lt_routes, hroutes]
  rfl

/-- It finds nothing exactly when none passes. -/
theorem findBelow?_eq_none_iff (test : Place → Bool) (p : Place) :
    p.findBelow? test = none ↔ p.routesTo test = ∅ := by
  rw [findBelow?_eq, List.find?_eq_none, Set.eq_empty_iff_forall_notMem]
  constructor
  · rintro h route ⟨q, hq, hpasses⟩
    exact h q ((p.mem_descendants_iff q).mpr ⟨route, hq⟩) hpasses
  · intro h q hq hpasses
    obtain ⟨route, hroute⟩ := (p.mem_descendants_iff q).mp hq
    exact h route ⟨q, hroute, hpasses⟩

/-! ## Title elements -/

/-- The routes from a section to its title elements: those to elements below it with the
role of a title and none with the role of metadata strictly in between. -/
def titleRoutes (page : Place) : Set Route :=
  {route | (∃ t, page.at? route = some t ∧ t.isTitle = true) ∧
    ∀ first rest q, first ++ rest = route → rest ≠ [] → page.at? first = some q →
      q.role? ≠ some "metadata"}

/-- Places are compared by the numbers of their elements. -/
theorem bne_eq (p q : Place) : (p != q) = (p.serial != q.serial) :=
  rfl

/-- What stands between a section and an element below it, from the inside outwards, is
what the search looks at. -/
theorem takeWhile_enclosing {route : Route} {t : Place} (h : page.at? route = some t)
    (hpage : page.ToldApart) :
    ∃ inside, t.enclosing = inside ++ page :: page.enclosing ∧
      t.enclosing.takeWhile (· != page) = inside ∧
      ∀ q ∈ inside, ∃ first rest, first ++ rest = route ∧ page.at? first = some q ∧
        q.at? rest = some t := by
  obtain ⟨inside, henclosing, hroutes⟩ := enclosing_of_at? h
  refine ⟨inside, henclosing, ?_, hroutes⟩
  have hinside : ∀ q ∈ inside, (q != page) = true := by
    intro q hq
    obtain ⟨first, -, -, hfirst, -⟩ := hroutes q hq
    rw [bne_eq, bne_iff_ne]
    exact hpage q ((page.mem_descendants_iff q).mpr ⟨first, hfirst⟩)
  have hself : ¬ (page != page) = true := by
    rw [bne_eq, bne_iff_ne]
    exact not_not_intro rfl
  rw [henclosing, List.takeWhile_append_of_pos hinside, List.takeWhile_cons, if_neg hself,
    List.append_nil]

/-- An element counts as metadata of a section when something of its metadata stands in
between. -/
theorem inMetadata_iff {route : Route} {t : Place} (h : page.at? route = some t)
    (hpage : page.ToldApart) :
    inMetadata page t = true ↔ ∃ first rest q, first ++ rest = route ∧ rest ≠ [] ∧
      page.at? first = some q ∧ q.role? = some "metadata" := by
  obtain ⟨inside, henclosing, htake, hroutes⟩ := takeWhile_enclosing h hpage
  rw [inMetadata, htake, List.any_eq_true]
  constructor
  · rintro ⟨q, hq, hrole⟩
    obtain ⟨first, rest, hroute, hfirst, hrest⟩ := hroutes q hq
    exact ⟨first, rest, q, hroute, ne_nil_of_at? hrest, hfirst, of_decide_eq_true hrole⟩
  · rintro ⟨first, rest, q, rfl, hne, hfirst, hrole⟩
    refine ⟨q, ?_, decide_eq_true hrole⟩
    rw [at?_append hfirst hne] at h
    have hq : q ∈ inside ++ page :: page.enclosing := henclosing ▸ mem_enclosing_of_at? h
    -- what a route from the section leads to is neither the section nor around it
    have hbelow := length_enclosing_lt (mem_enclosing_of_at? hfirst)
    rcases List.mem_append.mp hq with hq | hq
    · exact hq
    · rcases List.mem_cons.mp hq with rfl | hq
      · exact absurd hbelow (Nat.lt_irrefl _)
      · exact absurd hbelow (Nat.lt_asymm (length_enclosing_lt hq))

/-- The elements that pass the test of the search are those with a title route. -/
theorem routesTo_titleElement (hpage : page.ToldApart) :
    page.routesTo (fun t => t.isTitle && !inMetadata page t) = page.titleRoutes := by
  ext route
  constructor
  · rintro ⟨t, ht, htest⟩
    rw [Bool.and_eq_true, Bool.not_eq_true', ← Bool.not_eq_true, inMetadata_iff ht hpage] at htest
    refine ⟨⟨t, ht, htest.1⟩, ?_⟩
    intro first rest q hroute hne hfirst hrole
    exact htest.2 ⟨first, rest, q, hroute, hne, hfirst, hrole⟩
  · rintro ⟨⟨t, ht, htitle⟩, hclear⟩
    refine ⟨t, ht, Bool.and_eq_true_iff.mpr ⟨htitle, ?_⟩⟩
    rw [Bool.not_eq_true', ← Bool.not_eq_true, inMetadata_iff ht hpage]
    rintro ⟨first, rest, q, hroute, hne, hfirst, hrole⟩
    exact hclear first rest q hroute hne hfirst hrole

/-- The title element of a section is the one that the first of the routes leads to. -/
theorem titleElement?_eq_some_iff (hpage : page.ToldApart) (t : Place) :
    page.titleElement? = some t ↔
      ∃ route, IsFirst page.titleRoutes route ∧ page.at? route = some t := by
  rw [titleElement?, findBelow?_eq_some_iff, FirstBelow, routesTo_titleElement hpage]

/-- Without such a route there is no title element. -/
theorem titleElement?_eq_none_iff (hpage : page.ToldApart) :
    page.titleElement? = none ↔ page.titleRoutes = ∅ := by
  rw [titleElement?, findBelow?_eq_none_iff, routesTo_titleElement hpage]

/-! ## What is shown -/

/-- What is shown for a title element, case by case. -/
inductive ShownAs (t : Place) : String → Prop where
  /-- It has a number of its own. -/
  | ownNumber (hown : t.routesTo isNumber ≠ ∅) : ShownAs t t.text
  /-- The walk two parents up leaves the tree, at the top or out of the contents of a
  template. -/
  | outside (hown : t.routesTo isNumber = ∅)
      (hwalk : t.parent?.bind parent? = none) : ShownAs t t.text
  /-- There is no heading where the walk ends. -/
  | unheaded {c : Place} (hown : t.routesTo isNumber = ∅)
      (hwalk : t.parent?.bind parent? = some c)
      (hheading : c.routesTo isHeading = ∅) : ShownAs t t.text
  /-- The heading has a number, which goes in front. -/
  | underNumber {c heading number : Place} (hown : t.routesTo isNumber = ∅)
      (hwalk : t.parent?.bind parent? = some c)
      (hheading : c.FirstBelow isHeading heading)
      (hnumber : heading.FirstBelow isNumber number) :
      ShownAs t (number.text ++ " " ++ t.text)
  /-- The heading has no number, but a text that is named. -/
  | underName {c heading : Place} (hown : t.routesTo isNumber = ∅)
      (hwalk : t.parent?.bind parent? = some c)
      (hheading : c.FirstBelow isHeading heading)
      (hnumber : heading.routesTo isNumber = ∅)
      (hname : heading.text ≠ "" ∧ heading.text ≠ "Preface") :
      ShownAs t ("Chapter: " ++ heading.text ++ " Module: " ++ t.text)
  /-- The heading has no text, or is that of the preface. -/
  | underPreface {c heading : Place} (hown : t.routesTo isNumber = ∅)
      (hwalk : t.parent?.bind parent? = some c)
      (hheading : c.FirstBelow isHeading heading)
      (hnumber : heading.routesTo isNumber = ∅)
      (hname : heading.text = "" ∨ heading.text = "Preface") : ShownAs t t.text

/-- The number of a heading is the first one below it. -/
theorem number?_eq_some_iff {heading number : Place} :
    heading.number? = some number ↔ heading.FirstBelow isNumber number :=
  heading.findBelow?_eq_some_iff isNumber number

/-- A heading has no number when none is below it. -/
theorem number?_eq_none_iff {heading : Place} :
    heading.number? = none ↔ heading.routesTo isNumber = ∅ :=
  heading.findBelow?_eq_none_iff isNumber

/-- The walk to a chapter is one to the parent, and from there to its parent. -/
theorem ancestor?_chapterLevels (t : Place) :
    t.ancestor? chapterLevels = t.parent?.bind parent? := by
  rw [chapterLevels, ancestor?]
  congr 1
  funext p
  rw [ancestor?]
  cases p.parent? with
  | none => rfl
  | some c => rfl

/-- The title that is shown for a title element. -/
def titleOf (t : Place) : String :=
  if t.number?.isSome then t.text
  else
    match t.chapterHeading? with
    | some heading => titleUnder heading t.text
    | none => t.text

/-- A section with a title element is shown under a title, and no other one is. -/
theorem displayTitle?_eq_map (page : Place) :
    page.displayTitle? = page.titleElement?.map titleOf :=
  rfl

section Cases

variable {t c heading : Place}

/-- A title with a number of its own is shown as it stands. -/
theorem titleOf_of_ownNumber (hown : t.routesTo isNumber ≠ ∅) : titleOf t = t.text := by
  have hsome : t.number?.isSome = true :=
    Option.isSome_iff_ne_none.mpr (mt number?_eq_none_iff.mp hown)
  rw [titleOf, if_pos hsome]

/-- A title without a number is shown under the heading that is found. -/
theorem titleOf_of_heading (hown : t.routesTo isNumber = ∅)
    (hwalk : t.parent?.bind parent? = some c) (hheading : c.FirstBelow isHeading heading) :
    titleOf t = titleUnder heading t.text := by
  have hfound : t.chapterHeading? = some heading := by
    rw [chapterHeading?, ancestor?_chapterLevels, hwalk]
    exact (c.findBelow?_eq_some_iff isHeading heading).mpr hheading
  rw [titleOf, number?_eq_none_iff.mpr hown, hfound]
  rfl

/-- Where no heading is found, the title is shown as it stands. -/
theorem titleOf_of_noHeading (hown : t.routesTo isNumber = ∅)
    (hnone : ∀ c, t.parent?.bind parent? = some c → c.routesTo isHeading = ∅) :
    titleOf t = t.text := by
  have hfound : t.chapterHeading? = none := by
    rw [chapterHeading?, ancestor?_chapterLevels]
    cases hwalk : t.parent?.bind parent? with
    | none => rfl
    | some c => exact (c.findBelow?_eq_none_iff isHeading).mpr (hnone c hwalk)
  rw [titleOf, number?_eq_none_iff.mpr hown, hfound]
  rfl

/-- Under a heading with a number the number goes in front. -/
theorem titleUnder_of_number {number : Place} (hnumber : heading.FirstBelow isNumber number)
    (title : String) : titleUnder heading title = number.text ++ " " ++ title := by
  rw [titleUnder, number?_eq_some_iff.mpr hnumber]

/-- Under a heading without a number its text does, if it is worth naming. -/
theorem titleUnder_of_noNumber (hnumber : heading.routesTo isNumber = ∅) (title : String) :
    titleUnder heading title =
      if heading.text ≠ "" ∧ heading.text ≠ "Preface" then
        "Chapter: " ++ heading.text ++ " Module: " ++ title
      else title := by
  rw [titleUnder, number?_eq_none_iff.mpr hnumber]

/-- One of the cases applies. -/
theorem shownAs_titleOf (t : Place) : t.ShownAs (titleOf t) := by
  -- the cases are asked for in the order in which the title is made
  by_cases hown : t.routesTo isNumber = ∅
  · cases hwalk : t.parent?.bind parent? with
    | none =>
        rw [titleOf_of_noHeading hown (by simp [hwalk])]
        exact .outside hown hwalk
    | some c =>
        cases hfind : c.findBelow? isHeading with
        | none =>
            have hheading := (c.findBelow?_eq_none_iff isHeading).mp hfind
            rw [titleOf_of_noHeading hown (by simpa [hwalk] using hheading)]
            exact .unheaded hown hwalk hheading
        | some heading =>
            have hheading := (c.findBelow?_eq_some_iff isHeading heading).mp hfind
            rw [titleOf_of_heading hown hwalk hheading]
            cases hsearch : heading.number? with
            | some number =>
                have hnumber := number?_eq_some_iff.mp hsearch
                rw [titleUnder_of_number hnumber]
                exact .underNumber hown hwalk hheading hnumber
            | none =>
                have hnumber := number?_eq_none_iff.mp hsearch
                rw [titleUnder_of_noNumber hnumber]
                split
                · next hname => exact .underName hown hwalk hheading hnumber hname
                · next hname =>
                    rw [not_and_or, not_not, not_not] at hname
                    exact .underPreface hown hwalk hheading hnumber hname
  · rw [titleOf_of_ownNumber hown]
    exact .ownNumber hown

/-- No more than one title is shown. -/
theorem ShownAs.eq_titleOf {shown : String} (h : t.ShownAs shown) : shown = titleOf t := by
  cases h with
  | ownNumber hown => exact (titleOf_of_ownNumber hown).symm
  | outside hown hwalk => exact (titleOf_of_noHeading hown (by simp [hwalk])).symm
  | unheaded hown hwalk hheading =>
      exact (titleOf_of_noHeading hown (by simpa [hwalk] using hheading)).symm
  | underNumber hown hwalk hheading hnumber =>
      rw [titleOf_of_heading hown hwalk hheading, titleUnder_of_number hnumber]
  | underName hown hwalk hheading hnumber hname =>
      rw [titleOf_of_heading hown hwalk hheading, titleUnder_of_noNumber hnumber, if_pos hname]
  | underPreface hown hwalk hheading hnumber hname =>
      rw [titleOf_of_heading hown hwalk hheading, titleUnder_of_noNumber hnumber, if_neg]
      tauto

/-- **The cases are the function.**  What is shown is what one of the cases says. -/
theorem shownAs_iff {shown : String} : t.ShownAs shown ↔ titleOf t = shown := by
  constructor
  · intro h
    exact h.eq_titleOf.symm
  · rintro rfl
    exact shownAs_titleOf t

end Cases

/-! ## What is around a section does not matter -/

/-- Where routes lead among the same siblings, the same elements stand, whatever is around
them. -/
theorem map_spot_elementAt? {make inner make' inner' : Spot → Place} {siblings : List Node}
    (hmake : ∀ s, (make s).spot = s) (hinner : ∀ s, (inner s).spot = s)
    (hmake' : ∀ s, (make' s).spot = s) (hinner' : ∀ s, (inner' s).spot = s) (route : Route) :
    (elementAt? make inner siblings route).map spot
      = (elementAt? make' inner' siblings route).map spot := by
  induction route generalizing make inner make' inner' siblings with
  | nil => rfl
  | cons i tail ih =>
      cases hn : siblings[i]? with
      | none => rw [elementAt?, elementAt?, hn]
      | some n =>
          cases n with
          | text s => rw [elementAt?, elementAt?, hn]
          | comment s => rw [elementAt?, elementAt?, hn]
          | element data children =>
              by_cases htail : tail = []
              · subst htail
                rw [elementAt?_here hn, elementAt?_here hn, Option.map_some, Option.map_some,
                  hmake, hmake']
              · rw [elementAt?_below hn htail, elementAt?_below hn htail]
                exact ih (fun _ => rfl) (fun _ => rfl) (fun _ => rfl) (fun _ => rfl)
          | fragment contents =>
              rw [elementAt?_inside hn, elementAt?_inside hn]
              exact ih hinner hinner hinner' hinner'

/-- Elements with the same children have the same elements where routes lead. -/
theorem map_spot_at? {p q : Place} (h : p.children = q.children) (route : Route) :
    (p.at? route).map spot = (q.at? route).map spot := by
  rw [at?, at?, h]
  exact map_spot_elementAt? (fun _ => rfl) (fun _ => rfl) (fun _ => rfl) (fun _ => rfl) route

/-- So what is found below one is found below the other. -/
theorem exists_at?_of_children_eq {p q e : Place} {route : Route} (h : p.children = q.children)
    (he : p.at? route = some e) : ∃ e', q.at? route = some e' ∧ e'.spot = e.spot := by
  have hspot := map_spot_at? h route
  rw [he, Option.map_some] at hspot
  exact Option.map_eq_some_iff.mp hspot.symm

/-- The role of an element is told from the element alone. -/
theorem role?_congr {p q : Place} (h : p.spot = q.spot) : p.role? = q.role? := by
  rw [role?, role?, data, data, h]

/-- What a title route passes is below the section, so it passes the same below another section
with the same children. -/
theorem titleRoutes_subset {p q : Place} (h : p.children = q.children) :
    p.titleRoutes ⊆ q.titleRoutes := by
  rintro route ⟨⟨t, ht, htitle⟩, hclear⟩
  obtain ⟨t', ht', hspot⟩ := exists_at?_of_children_eq h ht
  refine ⟨⟨t', ht', by rwa [isTitle, role?_congr hspot]⟩, ?_⟩
  intro first rest e' hroute hne hfirst
  obtain ⟨e, he, hsame⟩ := exists_at?_of_children_eq h.symm hfirst
  rw [← role?_congr hsame]
  exact hclear first rest e hroute hne he

/-- The title elements of a section are settled by what is below it. -/
theorem titleRoutes_congr {p q : Place} (h : p.children = q.children) :
    p.titleRoutes = q.titleRoutes :=
  Set.Subset.antisymm (titleRoutes_subset h) (titleRoutes_subset h.symm)

end Place

/-- **The title of a section.**  No title is shown for a section exactly when it has no title
element.  Otherwise the first of these in the order of the tree settles what is shown, case
by case.  Which elements are title elements is settled by what is below the section alone,
so no metadata around it comes into play. -/
theorem Tree.displayTitle?_rule {source : String} {page : Place}
    (hpage : page ∈ (Html.parse source).sections) :
    (page.displayTitle? = none ↔ page.titleRoutes = ∅) ∧
    (∀ shown, page.displayTitle? = some shown ↔
      ∃ route t, IsFirst page.titleRoutes route ∧ page.at? route = some t ∧ t.ShownAs shown) ∧
    ∀ other : Place, other.children = page.children → other.titleRoutes = page.titleRoutes := by
  have hapart : page.ToldApart := Tree.toldApart_of_mem_sections hpage
  refine ⟨?_, ?_, fun other => Place.titleRoutes_congr⟩
  · rw [Place.displayTitle?_eq_map, Option.map_eq_none_iff, Place.titleElement?_eq_none_iff hapart]
  · intro shown
    rw [Place.displayTitle?_eq_map, Option.map_eq_some_iff]
    simp only [Place.titleElement?_eq_some_iff hapart, Place.shownAs_iff]
    constructor
    · rintro ⟨t, ⟨route, hfirst, ht⟩, hshown⟩
      exact ⟨route, t, hfirst, ht, hshown⟩
    · rintro ⟨route, t, hfirst, ht, hshown⟩
      exact ⟨t, ⟨route, hfirst, ht⟩, hshown⟩

/-- A section that stands in metadata, next to the heading of a chapter. -/
def shelved : Tree :=
  Html.parse ("<div data-type='metadata'><h1 data-type='document-title'>Light</h1>"
    ++ "<div data-type='page'><h2 data-type='document-title'>Waves</h2></div></div>")

/-- The metadata around it does not keep it from having a title element, which is shown under
the heading. -/
theorem displayTitle?_rule_shelved :
    ∃ page, page ∈ shelved.sections ∧ (∃ q ∈ page.enclosing, q.role? = some "metadata") ∧
      page.titleRoutes ≠ ∅ ∧ ∃ route t, IsFirst page.titleRoutes route ∧
        page.at? route = some t ∧ t.ShownAs "Chapter: Light Module: Waves" := by
  have hfound : (shelved.at? [0, 1, 0, 1]).any (fun page => page.isSection &&
      page.enclosing.any (fun q => q.role? = some "metadata") &&
      page.displayTitle? = some "Chapter: Light Module: Waves") = true := by
    decide +kernel
  obtain ⟨page, hroute, hpage⟩ := (Option.any_eq_true _ _).mp hfound
  simp only [Bool.and_eq_true, List.any_eq_true, decide_eq_true_iff, and_assoc] at hpage
  obtain ⟨hsection, hmetadata, hdisplay⟩ := hpage
  have hmem : page ∈ shelved.sections := Tree.mem_sections_of_at? hroute hsection
  obtain ⟨hnone, hshown, -⟩ := Tree.displayTitle?_rule hmem
  have htitled : page.titleRoutes ≠ ∅ := by
    rw [← hnone.ne, hdisplay]
    exact Option.some_ne_none _
  exact ⟨page, hmem, hmetadata, htitled, (hshown _).mp hdisplay⟩

end BookCensus.Document
