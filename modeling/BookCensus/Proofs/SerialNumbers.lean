import BookCensus.Proofs.ChapterHeadings
import BookCensus.Proofs.TreeConstruction

/-!
# Serial numbers tell elements inside one another apart

Two elements count as the same when their serial numbers are.  For an element and one
around it that is no accident of the text: an element carries the position of its node in
the array that the document was read off, and the way up from a node, parent by parent,
ends after a number of steps that belongs to the position (`Arena.Level`).  Whatever is
around an element is fewer steps away from the end.

* `Tree.serial_ne_of_mem_enclosing` — in a document, no element has the number of one
  around it;
* `Tree.toldApart_of_mem` — nor does one below it.
-/

namespace BookCensus.Html.Arena

open Document

/-- How many steps lead from a node up to one without parent. -/
inductive Level (a : Arena) : Nat → Nat → Prop where
  | root {id : Nat} (h : (a.get id).parent = none) : Level a id 0
  | step {id p n : Nat} (h : (a.get id).parent = some p) (hp : Level a p n) : Level a id (n + 1)

/-- The way up is the same each time. -/
theorem Level.unique {a : Arena} {id m n : Nat} (hm : a.Level id m) (hn : a.Level id n) :
    m = n := by
  induction hm generalizing n with
  | root h =>
      cases hn with
      | root => rfl
      | step h' =>
          rw [h] at h'
          cases h'
  | step h _ ih =>
      cases hn with
      | root h' =>
          rw [h] at h'
          cases h'
      | step h' hp =>
          rw [h] at h'
          obtain rfl := Option.some.inj h'
          rw [ih hp]

/-- An element is on a level, and what is around it on levels above. -/
def Descends (a : Arena) (n : Nat) (e : Place) : Prop :=
  a.Level e.serial n ∧ ∀ q ∈ e.enclosing, ∃ m, m < n ∧ a.Level q.serial m

/-- An element has another number than those around it. -/
theorem Descends.serial_ne {a : Arena} {n : Nat} {e q : Place} (h : a.Descends n e)
    (hq : q ∈ e.enclosing) : q.serial ≠ e.serial := by
  obtain ⟨m, hlt, hm⟩ := h.2 q hq
  intro hsame
  rw [hsame] at hm
  have hlevel := hm.unique h.1
  omega

/-- From some level on, elements can be placed. -/
def Receives (a : Arena) (level : Nat) (make : Spot → Place) : Prop :=
  ∀ s n, level ≤ n → a.Level s.data.serial n → a.Descends n (make s)

/-- An element receives what is on a level below its own. -/
theorem Descends.receives {a : Arena} {n : Nat} {p : Place} (h : a.Descends n p) :
    a.Receives (n + 1) (.child p) ∧ a.Receives (n + 1) (.content p) := by
  have habove : ∀ m, n + 1 ≤ m → ∀ q ∈ p :: p.enclosing, ∃ k, k < m ∧ a.Level q.serial k := by
    intro m hm q hq
    rcases List.mem_cons.mp hq with rfl | hq
    · exact ⟨n, hm, h.1⟩
    · obtain ⟨k, hk, hlevel⟩ := h.2 q hq
      exact ⟨k, by omega, hlevel⟩
  exact ⟨fun s m hm hs => ⟨hs, habove m hm⟩, fun s m hm hs => ⟨hs, habove m hm⟩⟩

/-- Below a node, everything descends: the children of a node are one level further. -/
theorem descends_of_mem_placesAmong {a : Arena} (h : a.Linked) {fuel : Nat} {ids : List Nat}
    {level : Nat} {make inner : Spot → Place} {before : List Node} {e : Place}
    (hids : ∀ id ∈ ids, ∃ n, level ≤ n ∧ a.Level id n)
    (hmake : a.Receives level make) (hinner : a.Receives level inner)
    (he : e ∈ Place.placesAmong make inner before (ids.map (a.toNode fuel))) :
    ∃ n, a.Descends n e := by
  -- The fuel bounds how far down nodes are made, the list of nodes is gone through beside it.
  induction fuel generalizing ids level make inner before with
  | zero =>
      induction ids generalizing before with
      | nil => simp [Place.placesAmong] at he
      | cons id ids ih =>
          rw [List.map_cons, toNode, placesAmong_text] at he
          exact ih (List.forall_mem_cons.mp hids).2 he
  | succ fuel ih =>
      induction ids generalizing before with
      | nil => simp [Place.placesAmong] at he
      | cons id ids ihids =>
          obtain ⟨⟨n, hlevel, hn⟩, hrest⟩ := List.forall_mem_cons.mp hids
          have hchildren : ∀ least, least ≤ n + 1 → ∀ c ∈ (a.get id).children.reverse,
              ∃ m, least ≤ m ∧ a.Level c m := by
            intro least hleast c hc
            exact ⟨n + 1, hleast, .step (h.parent id c (List.mem_reverse.mp hc)) hn⟩
          -- what hangs in a fragment is placed as if it were beside it, on a level further down
          have hinside : e ∈ Place.placesAmong inner inner []
              ((a.get id).children.reverse.map (a.toNode fuel)) → ∃ n, a.Descends n e :=
            ih (hchildren level (by omega)) hinner hinner
          rw [List.map_cons, toNode] at he
          split at he
          · rw [placesAmong_text] at he
            exact ihids hrest he
          · rw [placesAmong_comment] at he
            exact ihids hrest he
          · next data hdata =>
              have hid : data.serial = id := h.serial id data (element?_eq_some_iff.mpr hdata)
              rw [placesAmong_element, List.cons_append, List.mem_cons, List.mem_append] at he
              rw [← hid] at hn
              have hhere : ∀ children rest, a.Descends n (make ⟨data, children, before, rest⟩) :=
                fun _ _ => hmake _ n hlevel hn
              rcases he with rfl | he | he
              · exact ⟨n, hhere _ _⟩
              · obtain ⟨hchild, hcontent⟩ := (hhere _ _).receives
                exact ih (hchildren (n + 1) (Nat.le_refl _)) hchild hcontent he
              · exact ihids hrest he
          · rw [placesAmong_fragment, List.mem_append] at he
            exact he.elim hinside (ihids hrest)
          · rw [placesAmong_fragment, List.mem_append] at he
            exact he.elim hinside (ihids hrest)

/-- Everything in a document descends, and so does everything beside it. -/
theorem descends_of_mem {a : Arena} (h : a.Linked) {e : Place}
    (he : e ∈ a.toTree.places ∨ e ∈ a.toTree.detachedPlaces) : ∃ n, a.Descends n e := by
  have htop : ∀ inTree, a.Receives 0 (.top inTree) := by
    intro inTree s n _ hn
    exact ⟨hn, fun q hq => absurd hq List.not_mem_nil⟩
  rcases he with he | he
  · refine descends_of_mem_placesAmong h ?_ (htop true) (htop true) he
    intro id hid
    have hparent := h.parent document id (List.mem_reverse.mp hid)
    exact ⟨1, Nat.zero_le 1, .step hparent (.root h.document)⟩
  · obtain ⟨n, hn, he⟩ := List.mem_flatMap.mp he
    obtain ⟨id, hid, rfl⟩ := List.mem_map.mp hn
    have hfree : (a.get id).parent = none := by
      simp only [List.mem_filter, Bool.and_eq_true, Option.isNone_iff_eq_none] at hid
      exact hid.2.1.2
    have hlevel : ∀ i ∈ [id], ∃ n, 0 ≤ n ∧ a.Level i n :=
      List.forall_mem_singleton.mpr ⟨0, Nat.le_refl 0, .root hfree⟩
    exact descends_of_mem_placesAmong h hlevel (htop false) (htop false) he

end BookCensus.Html.Arena

namespace BookCensus.Document

/-- An element is told apart from those below it: none of them has its number. -/
def Place.ToldApart (p : Place) : Prop :=
  ∀ e ∈ p.descendants, e.serial ≠ p.serial

end BookCensus.Document

namespace BookCensus.Document.Tree

/-- **Numbers on the way up.**  In a document, and in the subtrees outside it, no element has
the number of one around it. -/
theorem serial_ne_of_mem_enclosing {source : String} {e q : Place}
    (he : e ∈ (Html.parse source).places ∨ e ∈ (Html.parse source).detachedPlaces)
    (hq : q ∈ e.enclosing) : q.serial ≠ e.serial := by
  obtain ⟨a, hlinked, hparse⟩ := Html.exists_linked_toTree source
  rw [hparse] at he
  obtain ⟨n, hn⟩ := Html.Arena.descends_of_mem hlinked he
  exact hn.serial_ne hq

/-- What is below a place of a tree is a place of the tree. -/
theorem mem_of_mem_descendants {t : Tree} {p e : Place}
    (hp : p ∈ t.places ∨ p ∈ t.detachedPlaces) (he : e ∈ p.descendants) :
    e ∈ t.places ∨ e ∈ t.detachedPlaces := by
  rcases hp with hp | hp
  · exact Or.inl (mem_placesAmong_of_mem_descendants (fun _ => rfl) (fun _ => rfl) hp he)
  · obtain ⟨n, hn, hp⟩ := List.mem_flatMap.mp hp
    have hmem := mem_placesAmong_of_mem_descendants (fun _ => rfl) (fun _ => rfl) hp he
    exact Or.inr (List.mem_flatMap.mpr ⟨n, hn, hmem⟩)

/-- Every element of a document is told apart from those below it. -/
theorem toldApart_of_mem {source : String} {p : Place}
    (hp : p ∈ (Html.parse source).places ∨ p ∈ (Html.parse source).detachedPlaces) :
    p.ToldApart := by
  intro e he
  obtain ⟨route, hroute⟩ := (p.mem_descendants_iff e).mp he
  have haround := serial_ne_of_mem_enclosing (mem_of_mem_descendants hp he)
    (Place.mem_enclosing_of_at? hroute)
  exact Ne.symm haround

/-- The elements around a section have numbers of their own. -/
theorem toldApart_of_mem_sections {source : String} {page : Place}
    (hpage : page ∈ (Html.parse source).sections) : page.ToldApart :=
  toldApart_of_mem ((mem_sections_iff _ page).mp hpage).1

end BookCensus.Document.Tree
