import BookCensus.Census.Section
import BookCensus.Html.Parser
import BookCensus.Proofs.RouteOrder
import Mathlib.Data.List.Sort

/-!
# The order of sections

A section is found by its role, and the sections of a document are listed as the
parser created them.  A tree has an order of its own: that of the routes from the
document, an element before what is below it and that before later siblings.

The two agree as long as elements stay where the parser first put them.  They part
when it moves one (what a table cannot hold goes before the table) or when it drops
a subtree (the body, for a frameset): a section in a dropped subtree is listed too.

* `Tree.sections_order` — what the list of sections is for every document, and
  exactly when it is the list in the order of the tree;
* `not_inTreeOrder_misnested` — a document that is listed out of order.
-/

namespace BookCensus.Document

namespace Tree

/-- The element that a route leads to from the document. -/
def at? (t : Tree) (route : Route) : Option Place :=
  elementAt? (.top true) (.top true) t.children route

/-- The routes to the elements of a document, in the order of the tree. -/
def routes (t : Tree) : List Route :=
  routesAmong 0 t.children

/-- The routes of a tree ascend. -/
theorem pairwise_lt_routes (t : Tree) : t.routes.Pairwise (· < ·) :=
  pairwise_lt_routesAmong 0 t.children

/-- They are those that lead to an element. -/
theorem mem_routes_iff (t : Tree) (route : Route) :
    route ∈ t.routes ↔ ∃ p, t.at? route = some p := by
  rw [← Option.isSome_iff_exists]
  exact mem_routesAmong_iff_isSome _ _ _ _

/-- The elements of a document are, in their order, those that its routes lead to. -/
theorem map_at?_routes (t : Tree) : t.routes.map t.at? = t.places.map some :=
  map_elementAt?_routesAmong (.top true) (.top true) [] t.children

/-- The places of a tree are those that its routes lead to. -/
theorem mem_places_iff (t : Tree) (p : Place) : p ∈ t.places ↔ ∃ route, t.at? route = some p :=
  mem_placesAmong_iff (.top true) (.top true) t.children p

end Tree

/-! ## Roles -/

namespace Place

/-- Whether an element has the role of a section. -/
def hasSectionRole (p : Place) : Bool :=
  p.role? = some "composite-page" || p.role? = some "page"

/-- A section is told by its role, as long as it has a parent. -/
theorem isSection_eq (p : Place) : p.isSection = (p.hasParent && p.hasSectionRole) :=
  rfl

end Place

namespace Tree

/-- In the tree itself the role alone makes a section. -/
theorem isSection_eq_hasSectionRole {t : Tree} {p : Place} (h : p ∈ t.places) :
    p.isSection = p.hasSectionRole := by
  obtain ⟨route, hroute⟩ := (t.mem_places_iff p).mp h
  have hparent : p.hasParent = true :=
    elementAt?_induction (P := fun p => p.hasParent = true) (fun _ _ _ => rfl) (fun _ _ _ => rfl)
      (fun _ => rfl) (fun _ => rfl) hroute
  rw [p.isSection_eq, hparent, Bool.true_and]

/-- Every element in a tree has a parent, so there the role is enough. -/
theorem filter_isSection_places (t : Tree) :
    t.places.filter Place.isSection = t.places.filter Place.hasSectionRole :=
  List.filter_congr fun _ => isSection_eq_hasSectionRole

/-! ## The order of the tree -/

/-- Some elements are those with the role of a section, each once and in the order of
the tree: ascending routes lead to them, and these are all the routes that lead to
such an element. -/
def InTreeOrder (t : Tree) (ps : List Place) : Prop :=
  ∃ routes : List Route, routes.Pairwise (· < ·) ∧ routes.map t.at? = ps.map some ∧
    ∀ route, route ∈ routes ↔ ∃ p, t.at? route = some p ∧ p.hasSectionRole = true

/-- The routes to the elements with the role of a section. -/
def sectionRoutes (t : Tree) : List Route :=
  t.routes.filter fun route => (t.at? route).any Place.hasSectionRole

/-- The section routes are those that lead to an element with the role of a section. -/
theorem mem_sectionRoutes_iff (t : Tree) (route : Route) :
    route ∈ t.sectionRoutes ↔ ∃ p, t.at? route = some p ∧ p.hasSectionRole = true := by
  rw [sectionRoutes, List.mem_filter, mem_routes_iff]
  constructor
  · rintro ⟨⟨p, hp⟩, hrole⟩
    exact ⟨p, hp, by simpa [hp] using hrole⟩
  · rintro ⟨p, hp, hrole⟩
    exact ⟨⟨p, hp⟩, by simpa [hp] using hrole⟩

/-- Taken in order they lead to the places with that role. -/
theorem map_at?_sectionRoutes (t : Tree) :
    t.sectionRoutes.map t.at? = (t.places.filter Place.hasSectionRole).map some :=
  map_filter_routes t.map_at?_routes Place.hasSectionRole

/-- One list alone is in the order of the tree. -/
theorem inTreeOrder_iff {t : Tree} {ps : List Place} :
    t.InTreeOrder ps ↔ ps = t.places.filter Place.hasSectionRole := by
  have hascending : t.sectionRoutes.Pairwise (· < ·) := t.pairwise_lt_routes.filter _
  constructor
  · rintro ⟨routes, hroutes, hmap, hmem⟩
    have hsame : routes = t.sectionRoutes :=
      hroutes.eq_of_mem_iff hascending fun route =>
        (hmem route).trans (t.mem_sectionRoutes_iff route).symm
    rw [hsame, t.map_at?_sectionRoutes] at hmap
    exact (List.map_injective_iff.mpr (Option.some_injective Place) hmap).symm
  · rintro rfl
    exact ⟨t.sectionRoutes, hascending, t.map_at?_sectionRoutes, t.mem_sectionRoutes_iff⟩

/-! ## The order of creation -/

/-- Elements in the order in which the parser created them. -/
def InCreationOrder (ps : List Place) : Prop :=
  ps.Pairwise fun p q => p.serial ≤ q.serial

/-- The sections are what has the role of one in the tree, and what has it outside
the tree and stands below something. -/
theorem sections_perm (t : Tree) :
    t.sections.Perm
      (t.places.filter Place.hasSectionRole ++ t.detachedPlaces.filter Place.isSection) := by
  rw [← filter_isSection_places, ← List.filter_append]
  exact List.mergeSort_perm _ _

/-- The sections come in the order in which they were created. -/
theorem inCreationOrder_sections (t : Tree) : InCreationOrder t.sections := by
  refine (List.pairwise_mergeSort ?_ ?_ _).imp of_decide_eq_true
  · intro p q r hpq hqr
    exact decide_eq_true (Nat.le_trans (of_decide_eq_true hpq) (of_decide_eq_true hqr))
  · intro p q
    simpa using Nat.le_total p.serial q.serial

/-- Without sections outside it, a tree whose sections were created in its order is
listed in that order. -/
theorem sections_eq_filter_iff (t : Tree) :
    t.sections = t.places.filter Place.hasSectionRole ↔
      InCreationOrder (t.places.filter Place.hasSectionRole) ∧
        t.detachedPlaces.filter Place.isSection = [] := by
  constructor
  · intro h
    refine ⟨h ▸ t.inCreationOrder_sections, ?_⟩
    have hlength := t.sections_perm.length_eq
    rw [h, List.length_append] at hlength
    exact List.eq_nil_of_length_eq_zero (by omega)
  · rintro ⟨horder, houtside⟩
    have hplaces : (t.places ++ t.detachedPlaces).filter Place.isSection
        = t.places.filter Place.hasSectionRole := by
      rw [List.filter_append, houtside, List.append_nil, filter_isSection_places]
    rw [sections, hplaces]
    exact List.mergeSort_of_pairwise (horder.imp fun h => decide_eq_true h)

/-- **Order of sections.**  For every document, the sections are listed in the order
of their creation; they are the elements of the tree with the role of a section, and
those below something outside the tree.  They are the sections of the tree in its
order exactly when these were created in that order and none stands outside. -/
theorem sections_order (t : Tree) :
    InCreationOrder t.sections ∧
      t.sections.Perm
        (t.places.filter Place.hasSectionRole ++ t.detachedPlaces.filter Place.isSection) ∧
      (t.InTreeOrder t.sections ↔
        InCreationOrder (t.places.filter Place.hasSectionRole) ∧
          ∀ p ∈ t.detachedPlaces, p.isSection = false) := by
  refine ⟨t.inCreationOrder_sections, t.sections_perm, ?_⟩
  rw [inTreeOrder_iff, sections_eq_filter_iff, List.filter_eq_nil_iff]
  simp only [Bool.not_eq_true]

/-- A frameset drops the body, and with it a section that is listed all the same. -/
example :
    let t := Html.parse "<div data-type='page'></div><frameset>"
    t.places.all (fun p => !p.hasSectionRole) && t.detachedPlaces.any Place.isSection := by
  decide +kernel

/-- A section that the parser moved before the table that it stands in. -/
def misnested : Tree :=
  Html.parse "<table data-type='page' id='a'><div data-type='page' id='b'></div></table>"

/-- What a list of sections says of them: serial numbers and identifiers. -/
private theorem map_sections (t : Tree) :
    t.sections.map (fun p => (p.serial, p.data.id?))
      = (((t.places ++ t.detachedPlaces).filter Place.isSection).map
          fun p => (p.serial, p.data.id?)).mergeSort fun a b => a.1 ≤ b.1 :=
  List.map_mergeSort fun _ _ _ _ => rfl

/-- The section that was moved comes first in the tree and last in the list. -/
theorem not_inTreeOrder_misnested :
    (misnested.places.filter Place.hasSectionRole).map (·.data.id?) = [some "b", some "a"] ∧
      misnested.sections.map (·.data.id?) = [some "a", some "b"] ∧
      ¬ misnested.InTreeOrder misnested.sections := by
  have htree : (misnested.places.filter Place.hasSectionRole).map (·.data.id?)
      = [some "b", some "a"] := by decide +kernel
  have hfound : ((misnested.places ++ misnested.detachedPlaces).filter Place.isSection).map
      (fun p => (p.serial, p.data.id?)) = [(5, some "b"), (4, some "a")] := by decide +kernel
  have hlist : misnested.sections.map (·.data.id?) = [some "a", some "b"] :=
    calc
      misnested.sections.map (·.data.id?)
          = (misnested.sections.map fun p => (p.serial, p.data.id?)).map Prod.snd := by
            rw [List.map_map]
            rfl
      _ = ([(5, some "b"), (4, some "a")].mergeSort fun a b => a.1 ≤ b.1).map Prod.snd := by
            rw [map_sections, hfound]
      _ = [some "a", some "b"] := by simp [List.mergeSort]
  refine ⟨htree, hlist, ?_⟩
  intro horder
  rw [inTreeOrder_iff.mp horder, htree] at hlist
  simp at hlist

end Tree

end BookCensus.Document
