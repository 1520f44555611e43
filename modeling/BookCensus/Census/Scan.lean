import BookCensus.Census.Title
import BookCensus.Selector.Plan

/-!
# Counting matches per section

A plan is evaluated in every section: the elements below it that the base
matches and that pass the filter are counted.  Sections without any are left
out.
-/

namespace BookCensus

open Document

/-- One section with matches.  No link is known yet. -/
structure SectionResult where
  title : Option String
  link : Option String
  instances : Nat
  deriving DecidableEq, Repr

/-- Whether an element passes a filter. -/
def MatchFilter.passes (filter : MatchFilter) (p : Place) : Bool :=
  match filter with
  | .all => true
  | .hasDescendant inner => (inner.list.firstBelow? p).isSome
  | .hasText test => test.accepts p.text

namespace Plan

/-- The matches of a plan below a section, in the order of the tree. -/
def matchSet (plan : Plan) (page : Place) : List Place :=
  (plan.base.list.below page).filter plan.filter.passes

/-- The result of a section, if it has matches. -/
def scanSection? (plan : Plan) (page : Place) : Option SectionResult :=
  let count := (plan.matchSet page).length
  if count = 0 then none else some ⟨page.displayTitle?, none, count⟩

/-- The results of all sections with matches, in the order of the sections. -/
def scan (plan : Plan) (tree : Tree) : List SectionResult :=
  tree.sections.filterMap plan.scanSection?

end Plan

/-- How many matches some results count together. -/
def totalInstances (results : List SectionResult) : Nat :=
  results.foldr (fun result total => result.instances + total) 0

end BookCensus
