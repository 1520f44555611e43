import BookCensus.Proofs.ScanMeaning
import BookCensus.Proofs.SectionOrder

/-!
# Sections inside sections

A section may stand inside another one.  Every section is searched on its own, with
itself as the scope of the base selector, so it has to be shown that an element counts
in both or in neither.

It does when the base says nothing of the scope.  `:scope` is the only test that looks
at it (`Css.anyHolds_of_scopeFree`, by recursion over all selectors, those inside
`:not`, `:is` and native `:has` included), every other test and every combinator looks
at the element and the document around it; and a filter has the element itself as its
scope.  What is below the inner section are the elements whose routes go on beyond it.

The main statement is `matchSet_nested`.
-/

namespace BookCensus

open Document

/-! ## Selectors that do not name their scope -/

namespace Css

mutual

/-- Whether a simple test does without `:scope`, also in the selectors inside it. -/
def Simple.scopeFree : Simple → Bool
  | .scope => false
  | .matchesAny list => allScopeFree list
  | .matchesNone list => allScopeFree list
  | .hasRelative list => allScopeFree list
  | _ => true

/-- `Simple.scopeFree` of every test of a compound. -/
def testsScopeFree : List Simple → Bool
  | [] => true
  | s :: rest => s.scopeFree && testsScopeFree rest

/-- Whether every compound of a complex selector does without `:scope`. -/
def Complex.scopeFree : Complex → Bool
  | .compound tests => testsScopeFree tests
  | .join left _ tests => left.scopeFree && testsScopeFree tests
  | .invalid => true

/-- `Complex.scopeFree` of every selector of a list. -/
def allScopeFree : List Complex → Bool
  | [] => true
  | c :: rest => c.scopeFree && allScopeFree rest

end

section Congruence

variable (scope scope' : Option Nat)

mutual

/-- A test without scope does not look at the scope.  The four results follow the way in which
selectors nest. -/
theorem Simple.holds_of_scopeFree (anchor : Option Nat) (p : Place) :
    ∀ s : Simple, s.scopeFree = true → s.holds ⟨scope, anchor⟩ p = s.holds ⟨scope', anchor⟩ p
  | .scope, h => nomatch h
  | .matchesAny list, h => anyHolds_of_scopeFree anchor p list h
  | .matchesNone list, h => congrArg not (anyHolds_of_scopeFree anchor p list h)
  | .hasRelative list, h => by
      rw [Simple.holds, Simple.holds]
      congr 1
      funext q
      exact anyHolds_of_scopeFree (some p.serial) q list h
  | .universal, _ => rfl
  | .typeName _, _ => rfl
  | .noNamespace, _ => rfl
  | .id _, _ => rfl
  | .hasClass _, _ => rfl
  | .attribute _, _ => rfl
  | .root, _ => rfl
  | .empty, _ => rfl
  | .place _, _ => rfl
  | .anchor, _ => rfl
  | .never, _ => rfl

/-- Nor do several tests. -/
theorem allHold_of_scopeFree (anchor : Option Nat) (p : Place) :
    ∀ tests : List Simple, testsScopeFree tests = true →
      allHold ⟨scope, anchor⟩ p tests = allHold ⟨scope', anchor⟩ p tests
  | [], _ => rfl
  | s :: rest, h => by
      obtain ⟨hs, hrest⟩ := Bool.and_eq_true_iff.mp h
      rw [allHold, allHold, s.holds_of_scopeFree anchor p hs,
        allHold_of_scopeFree anchor p rest hrest]

/-- Nor does a chain of compounds. -/
theorem Complex.holds_of_scopeFree (anchor : Option Nat) (p : Place) :
    ∀ c : Complex, c.scopeFree = true →
      c.holds ⟨scope, anchor⟩ p = c.holds ⟨scope', anchor⟩ p
  | .compound tests, h => allHold_of_scopeFree anchor p tests h
  | .join left combinator tests, h => by
      obtain ⟨hleft, htests⟩ := Bool.and_eq_true_iff.mp h
      rw [Complex.holds, Complex.holds, allHold_of_scopeFree anchor p tests htests]
      congr 2
      funext q
      exact left.holds_of_scopeFree anchor q hleft
  | .invalid, _ => rfl

/-- Nor does a list of selectors. -/
theorem anyHolds_of_scopeFree (anchor : Option Nat) (p : Place) :
    ∀ list : List Complex, allScopeFree list = true →
      anyHolds ⟨scope, anchor⟩ p list = anyHolds ⟨scope', anchor⟩ p list
  | [], _ => rfl
  | c :: rest, h => by
      obtain ⟨hc, hrest⟩ := Bool.and_eq_true_iff.mp h
      rw [anyHolds, anyHolds, c.holds_of_scopeFree anchor p hc,
        anyHolds_of_scopeFree anchor p rest hrest]

end

end Congruence

end Css

/-! ## Matches below an inner section -/

namespace Plan

variable {plan : Plan}

/-- Without `:scope` in the base an element below a section is matched whatever the
section is. -/
theorem mem_matchSet_iff_of_scopeFree (hscope : Css.allScopeFree plan.base.list = true)
    {page e : Place} (he : e ∈ page.descendants) :
    e ∈ plan.matchSet page ↔
      plan.base.list.matchesIn none e = true ∧ plan.filter.passes e = true := by
  have hbase : plan.base.list.matchesIn (some page.serial) e
      = plan.base.list.matchesIn none e :=
    Css.anyHolds_of_scopeFree _ _ none e plan.base.list hscope
  rw [matchSet, List.mem_filter, Css.SelectorList.below, List.mem_filter, hbase]
  exact and_congr_left' (and_iff_right he)

/-- An element below an inner section is matched in it exactly when it is matched in
the section around it. -/
theorem append_mem_matched_iff (hscope : Css.allScopeFree plan.base.list = true)
    {outer inner : Place} {below route : Route} (hbelow : outer.at? below = some inner)
    (hroute : route ≠ []) : below ++ route ∈ plan.Matched outer ↔ route ∈ plan.Matched inner := by
  have hbase : ∀ e, plan.base.list.matchesIn (some outer.serial) e
      = plan.base.list.matchesIn (some inner.serial) e := fun e =>
    Css.anyHolds_of_scopeFree _ _ none e plan.base.list hscope
  simp only [Matched, Set.mem_ofPred_eq, Place.at?_append hbelow hroute, hbase]

/-- **Matches of an inner section.**  They are those of the section around it whose
routes go on below the inner one. -/
theorem map_append_matchedRoutes (hscope : Css.allScopeFree plan.base.list = true)
    {outer inner : Place} {below : Route} (hbelow : outer.at? below = some inner) :
    (plan.matchedRoutes inner).map (below ++ ·)
      = (plan.matchedRoutes outer).filter fun route => below <+: route ∧ route ≠ below := by
  have hleft : ((plan.matchedRoutes inner).map (below ++ ·)).Pairwise (· < ·) := by
    rw [List.pairwise_map]
    exact (plan.pairwise_lt_matchedRoutes inner).imp fun h => List.append_left_lt h
  refine hleft.eq_of_mem_iff ((plan.pairwise_lt_matchedRoutes outer).filter _) ?_
  intro route
  rw [List.mem_map, List.mem_filter, mem_matchedRoutes_iff, decide_eq_true_iff]
  constructor
  · rintro ⟨rest, hrest, rfl⟩
    rw [mem_matchedRoutes_iff] at hrest
    obtain ⟨e, he, -⟩ := id hrest
    have hne := Place.ne_nil_of_at? he
    exact ⟨(append_mem_matched_iff hscope hbelow hne).mpr hrest, List.prefix_append _ _,
      by simpa using hne⟩
  · rintro ⟨hmatched, ⟨rest, rfl⟩, hne⟩
    have hrest : rest ≠ [] := by simpa using hne
    refine ⟨rest, ?_, rfl⟩
    rw [mem_matchedRoutes_iff]
    exact (append_mem_matched_iff hscope hbelow hrest).mp hmatched

/-- The routes that go on below an inner section lead to its matches. -/
theorem map_at?_filter_matchedRoutes (hscope : Css.allScopeFree plan.base.list = true)
    {outer inner : Place} {below : Route} (hbelow : outer.at? below = some inner) :
    ((plan.matchedRoutes outer).filter fun route => below <+: route ∧ route ≠ below).map
        outer.at?
      = (plan.matchSet inner).map some := by
  rw [← map_append_matchedRoutes hscope hbelow, ← plan.map_at?_matchedRoutes inner, List.map_map]
  apply List.map_congr_left
  intro route hroute
  obtain ⟨e, he, -⟩ := (plan.mem_matchedRoutes_iff inner route).mp hroute
  exact Place.at?_append hbelow (Place.ne_nil_of_at? he)

/-- What is matched in an inner section is matched in the outer one, in the same order. -/
theorem matchSet_sublist (hscope : Css.allScopeFree plan.base.list = true)
    {outer inner : Place} {below : Route} (hbelow : outer.at? below = some inner) :
    (plan.matchSet inner).Sublist (plan.matchSet outer) := by
  have hroutes : ((plan.matchSet inner).map some).Sublist ((plan.matchSet outer).map some) := by
    rw [← map_at?_filter_matchedRoutes hscope hbelow, ← plan.map_at?_matchedRoutes outer]
    exact List.filter_sublist.map _
  simpa using hroutes.filterMap id

/-- A section with matches is reported with their number. -/
theorem scanSection?_eq_some_iff {page : Place} {r : SectionResult} :
    plan.scanSection? page = some r ↔
      (plan.matchSet page).length ≠ 0 ∧
        r = ⟨page.displayTitle?, none, (plan.matchSet page).length⟩ := by
  rw [scanSection?]
  by_cases h : (plan.matchSet page).length = 0 <;> simp [h, eq_comm]

/-- **Nested sections.**  Let the base of a plan do without `:scope`, and let an inner
section stand strictly below an outer one.  The matches of the inner section are
exactly those of the outer one that stand strictly below the inner one, in the same
order.  So when the inner section is reported the outer one is too, with at least as
many instances; and whether an element counts is the same for all sections around
it. -/
theorem matchSet_nested (hscope : Css.allScopeFree plan.base.list = true)
    {outer inner : Place} {below : Route} (hbelow : outer.at? below = some inner) :
    (∃ routes : List Route, routes.Pairwise (· < ·) ∧
      (∀ route, route ∈ routes ↔ route ∈ plan.Matched outer) ∧
      routes.map outer.at? = (plan.matchSet outer).map some ∧
      (routes.filter fun route => below <+: route ∧ route ≠ below).map outer.at?
        = (plan.matchSet inner).map some) ∧
    (plan.matchSet inner).Sublist (plan.matchSet outer) ∧
    (∀ r, plan.scanSection? inner = some r →
      ∃ r', plan.scanSection? outer = some r' ∧ r.instances ≤ r'.instances ∧
        ∀ t : Tree, outer ∈ t.sections → r' ∈ plan.scan t) ∧
    ∀ page page' e, e ∈ page.descendants → e ∈ page'.descendants →
      (e ∈ plan.matchSet page ↔ e ∈ plan.matchSet page') := by
  have hsublist := matchSet_sublist hscope hbelow
  refine ⟨⟨plan.matchedRoutes outer, plan.pairwise_lt_matchedRoutes outer,
    plan.mem_matchedRoutes_iff outer, plan.map_at?_matchedRoutes outer,
    map_at?_filter_matchedRoutes hscope hbelow⟩, hsublist, ?_, ?_⟩
  · intro r hr
    obtain ⟨hne, rfl⟩ := scanSection?_eq_some_iff.mp hr
    have hcount := hsublist.length_le
    have houter : plan.scanSection? outer
        = some ⟨outer.displayTitle?, none, (plan.matchSet outer).length⟩ :=
      scanSection?_eq_some_iff.mpr ⟨by omega, rfl⟩
    exact ⟨_, houter, hcount, fun t ht => List.mem_filterMap.mpr ⟨outer, ht, houter⟩⟩
  · intro page page' e he he'
    rw [mem_matchSet_iff_of_scopeFree hscope he, mem_matchSet_iff_of_scopeFree hscope he']

/-- The plan for `p:has(b)`. -/
def boldParagraphs : Plan :=
  ⟨⟨"p", .has "b"⟩, ⟨"p", [.compound [.typeName "p"]]⟩,
    .hasDescendant ⟨"b", [.compound [.typeName "b"]]⟩⟩

/-- A page inside a page, each with a paragraph in bold. -/
def pageInPage : Tree :=
  Html.parse
    "<div data-type='page'><p><b>1</b><div data-type='page'><p><b>2</b><p>3</div></div>"

/-- The inner page is reported with its one paragraph in bold, hence the outer one is
reported with one or more. -/
theorem matchSet_nested_pageInPage :
    ∃ outer inner, pageInPage.at? [0, 1, 0] = some outer ∧ outer.at? [1] = some inner ∧
      Css.allScopeFree boldParagraphs.base.list = true ∧
      boldParagraphs.scanSection? inner = some ⟨none, none, 1⟩ ∧
      ∃ r, boldParagraphs.scanSection? outer = some r ∧ 1 ≤ r.instances := by
  have hpages : (pageInPage.at? [0, 1, 0]).any (fun outer => (outer.at? [1]).any fun inner =>
      boldParagraphs.scanSection? inner = some ⟨none, none, 1⟩) = true := by
    decide +kernel
  have hscope : Css.allScopeFree boldParagraphs.base.list = true := by decide
  obtain ⟨outer, houter, hrest⟩ := (Option.any_eq_true _ _).mp hpages
  obtain ⟨inner, hinner, hreported⟩ := (Option.any_eq_true _ _).mp hrest
  have hresult := of_decide_eq_true hreported
  obtain ⟨r, hr, hcount, -⟩ := (matchSet_nested hscope hinner).2.2.1 _ hresult
  exact ⟨outer, inner, houter, hinner, hscope, hresult, r, hr, hcount⟩

end Plan

end BookCensus
