import BookCensus.Census.Scan
import BookCensus.Proofs.RouteOrder
import Mathlib.Data.Set.Card

/-!
# What a scan means

A scan walks the tree below each section, filters lists and counts what is left.
Its meaning needs no walk: the *matched* elements of a section are the set of
those strictly below it that the base matches and that the filter admits, and a
section is reported with the size of that set when it is not empty.

What a filter admits is said by existence and by the text of an element, and the
text of an element is what all text nodes below it say, one after the other,
with runs of blanks collapsed.  How the structural selectors themselves match is
taken from `SelectorList.matchesIn`.

The main statement is `scan_eq_meaning`.
-/

namespace BookCensus

open Document

namespace Document

namespace Node

mutual

/-- A node and all nodes below it, in the order of the tree. -/
def subtree : Node → List Node
  | .text content => [.text content]
  | .comment content => [.comment content]
  | .element data children => .element data children :: subtreeOfAll children
  | .fragment children => .fragment children :: subtreeOfAll children

/-- `subtree` of several nodes, one after the other. -/
def subtreeOfAll : List Node → List Node
  | [] => []
  | n :: rest => subtree n ++ subtreeOfAll rest

end

/-- What a node itself adds to the text around it. -/
def ownText : Node → String
  | .text content => content
  | _ => ""

mutual

/-- The text of a node is put together from the texts of all nodes below it. -/
theorem textChars_eq_flatMap : ∀ n : Node,
    n.textChars = n.subtree.flatMap fun m => m.ownText.toList
  | .text content => by simp [textChars, subtree, ownText]
  | .comment content => by simp [textChars, subtree, ownText]
  | .element data children => by
      rw [textChars, subtree, List.flatMap_cons, ← textCharsOfAll_eq_flatMap children]
      simp [ownText]
  | .fragment children => by
      rw [textChars, subtree, List.flatMap_cons, ← textCharsOfAll_eq_flatMap children]
      simp [ownText]

/-- The text of nodes is what the nodes at and below them say, one after the
other. -/
theorem textCharsOfAll_eq_flatMap : ∀ ns : List Node,
    textCharsOfAll ns = (subtreeOfAll ns).flatMap fun m => m.ownText.toList
  | [] => by simp [textCharsOfAll, subtreeOfAll]
  | n :: rest => by
      rw [textCharsOfAll, subtreeOfAll, List.flatMap_append, textChars_eq_flatMap n,
        textCharsOfAll_eq_flatMap rest]

end

end Node

namespace Place

/-- All text below an element, as it stands in the document. -/
def rawText (p : Place) : String :=
  String.ofList ((Node.subtreeOfAll p.children).flatMap fun n => n.ownText.toList)

/-- The text of an element is all text below it, collapsed. -/
theorem text_eq_collapse_rawText (p : Place) : p.text = Text.collapse p.rawText := by
  rw [text, Text.collapse, rawText, String.toList_ofList, Node.textCharsOfAll_eq_flatMap]

end Place

end Document

/-! ## What a filter admits -/

/-- What a filter asks of an element that the base matches: nothing, some element
strictly below it that the inner selector matches with that element as scope, or
a text that passes the test. -/
def MatchFilter.Admits (filter : MatchFilter) (e : Place) : Prop :=
  match filter with
  | .all => True
  | .hasDescendant inner =>
      ∃ route d, e.at? route = some d ∧ inner.list.matchesIn (some e.serial) d = true
  | .hasText test => test.accepts (Text.collapse e.rawText) = true

/-- The search for one match below an element finds one when there is any. -/
theorem Css.SelectorList.firstBelow?_isSome_iff (list : Css.SelectorList) (p : Place) :
    (list.firstBelow? p).isSome ↔
      ∃ route d, p.at? route = some d ∧ list.matchesIn (some p.serial) d = true := by
  rw [Css.SelectorList.firstBelow?, Place.findBelow?_eq, List.find?_isSome]
  constructor
  · rintro ⟨d, hd, h⟩
    obtain ⟨route, hroute⟩ := (p.mem_descendants_iff d).mp hd
    exact ⟨route, d, hroute, h⟩
  · rintro ⟨route, d, hroute, h⟩
    exact ⟨d, (p.mem_descendants_iff d).mpr ⟨route, hroute⟩, h⟩

/-- An element passes a filter when the filter admits it. -/
theorem MatchFilter.passes_iff_admits (filter : MatchFilter) (e : Place) :
    filter.passes e = true ↔ filter.Admits e := by
  cases filter with
  | all => simp [passes, Admits]
  | hasDescendant inner => exact inner.list.firstBelow?_isSome_iff e
  | hasText test =>
      rw [passes, Admits, e.text_eq_collapse_rawText]

/-! ## The matched elements of a section -/

namespace Plan

/-- The routes from a section to the elements strictly below it that the base
matches, with the section as scope, and that the filter admits. -/
def Matched (plan : Plan) (page : Place) : Set Route :=
  {route | ∃ e, page.at? route = some e
    ∧ plan.base.list.matchesIn (some page.serial) e = true ∧ plan.filter.Admits e}

/-- The routes of `Matched` as the walk meets them. -/
def matchedRoutes (plan : Plan) (page : Place) : List Route :=
  page.routes.filter fun route => (page.at? route).any fun e =>
    plan.base.list.matchesIn (some page.serial) e && plan.filter.passes e

/-- The routes that are listed are those of the set. -/
theorem mem_matchedRoutes_iff (plan : Plan) (page : Place) (route : Route) :
    route ∈ plan.matchedRoutes page ↔ route ∈ plan.Matched page := by
  rw [matchedRoutes, List.mem_filter, Option.any_eq_true]
  constructor
  · rintro ⟨-, e, he, h⟩
    obtain ⟨hbase, hfilter⟩ := Bool.and_eq_true_iff.mp h
    exact ⟨e, he, hbase, (plan.filter.passes_iff_admits e).mp hfilter⟩
  · rintro ⟨e, he, hbase, hfilter⟩
    refine ⟨(page.mem_routes_iff route).mpr ⟨e, he⟩, e, he, ?_⟩
    exact Bool.and_eq_true_iff.mpr ⟨hbase, (plan.filter.passes_iff_admits e).mpr hfilter⟩

/-- The matched routes ascend, so none is listed twice. -/
theorem pairwise_lt_matchedRoutes (plan : Plan) (page : Place) :
    (plan.matchedRoutes page).Pairwise (· < ·) :=
  page.pairwise_lt_routes.filter _

/-- The list of matches consists of what the matched routes lead to. -/
theorem map_at?_matchedRoutes (plan : Plan) (page : Place) :
    (plan.matchedRoutes page).map page.at? = (plan.matchSet page).map some := by
  let test : Place → Bool := fun e =>
    plan.base.list.matchesIn (some page.serial) e && plan.filter.passes e
  calc (plan.matchedRoutes page).map page.at?
      = (page.descendants.filter test).map some := map_filter_routes page.map_at?_routes test
    _ = (plan.matchSet page).map some := by
        rw [matchSet, Css.SelectorList.below, List.filter_filter]
        congr 2
        funext e
        exact Bool.and_comm _ _

/-- The matched routes are what the walk meets. -/
theorem matched_eq_toFinset (plan : Plan) (page : Place) :
    plan.Matched page = ((plan.matchedRoutes page).toFinset : Set Route) := by
  ext route
  rw [List.coe_toFinset]
  exact (plan.mem_matchedRoutes_iff page route).symm

/-- There are finitely many, since they are listed. -/
theorem finite_matched (plan : Plan) (page : Place) : (plan.Matched page).Finite := by
  rw [matched_eq_toFinset]
  exact Finset.finite_toSet _

/-- A scan counts the matched elements. -/
theorem ncard_matched (plan : Plan) (page : Place) :
    (plan.Matched page).ncard = (plan.matchSet page).length := by
  have hnodup : (plan.matchedRoutes page).Nodup :=
    (plan.pairwise_lt_matchedRoutes page).imp fun h => ne_of_lt h
  have hlength : (plan.matchedRoutes page).length = (plan.matchSet page).length := by
    simpa using congrArg List.length (plan.map_at?_matchedRoutes page)
  rw [matched_eq_toFinset, Set.ncard_coe_finset, List.toFinset_card_of_nodup hnodup, hlength]

/-- A section has matched elements when the list of its matches is not empty. -/
theorem matched_nonempty_iff (plan : Plan) (page : Place) :
    (plan.Matched page).Nonempty ↔ (plan.matchSet page).length ≠ 0 := by
  rw [← ncard_matched, ← Set.ncard_pos (plan.finite_matched page), Nat.pos_iff_ne_zero]

instance (plan : Plan) (page : Place) : Decidable (plan.Matched page).Nonempty :=
  decidable_of_iff _ (plan.matched_nonempty_iff page).symm

/-- A section is reported with its title and the number of its matched elements,
if there are any. -/
theorem scanSection?_eq (plan : Plan) (page : Place) :
    plan.scanSection? page =
      if (plan.Matched page).Nonempty then
        some ⟨page.displayTitle?, none, (plan.Matched page).ncard⟩
      else none := by
  by_cases h : (plan.matchSet page).length = 0
  · have hempty : ¬ (plan.Matched page).Nonempty := fun hne =>
      (plan.matched_nonempty_iff page).mp hne h
    rw [if_neg hempty, scanSection?]
    simp [h]
  · rw [if_pos ((plan.matched_nonempty_iff page).mpr h), scanSection?, plan.ncard_matched page]
    simp [h]

/-- **Meaning of a scan.**  The results of a scan are, in the order of the
sections, those sections that have matched elements, each with its title, no
link, and the number of its matched elements.  Matched elements stand strictly
inside their section, and the list of matches goes through them in the order of
the tree and meets each once. -/
theorem scan_eq_meaning (plan : Plan) (tree : Tree) :
    plan.scan tree =
      (tree.sections.filter fun page => (plan.Matched page).Nonempty).map
        (fun page => ⟨page.displayTitle?, none, (plan.Matched page).ncard⟩) ∧
    ∀ page : Place,
      (plan.Matched page).Finite ∧
      (∃ routes : List Route, routes.Pairwise (· < ·) ∧
        (∀ route, route ∈ routes ↔ route ∈ plan.Matched page) ∧
        routes.map page.at? = (plan.matchSet page).map some) ∧
      ∀ route e, page.at? route = some e → page ∈ e.enclosing ∧ e ≠ page := by
  refine ⟨?_, fun page => ⟨plan.finite_matched page, ?_, ?_⟩⟩
  · rw [scan, ← List.filterMap_eq_map, List.filterMap_filter]
    congr 1
    funext page
    rw [scanSection?_eq]
    by_cases h : (plan.Matched page).Nonempty <;> simp [h]
  · exact ⟨plan.matchedRoutes page, plan.pairwise_lt_matchedRoutes page,
      plan.mem_matchedRoutes_iff page, plan.map_at?_matchedRoutes page⟩
  · intro route e h
    exact ⟨Place.mem_enclosing_of_at? h, Place.ne_of_at? h⟩

end Plan

end BookCensus
