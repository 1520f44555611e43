import BookCensus.Html.Arena
import Mathlib.Data.List.Basic

/-!
# The links of a tree under construction

While a document is read its nodes are moved about by changing links.  What has to stay
true is said from the side of the children: a node that is listed below another has that
one for its parent, so it is listed nowhere else; the document itself has no parent and is no
element; and the number that an element carries is its position in the array.

That a move never puts a node below itself is not among these conditions.  A tree that is
read off links like these from a node without parent meets no node twice on its way down
all the same, since the way up from a node is one and ends.

* `Arena.Linked` — the conditions;
* `Arena.Linked.append`, `Arena.Linked.insertBefore` and so on — every operation on the
  array keeps them, provided that what it moves is a node other than the document.
-/

namespace BookCensus.Html.Arena

open Document

/-- Links that fit together, and elements that carry their positions. -/
structure Linked (a : Arena) : Prop where
  serial : ∀ id data, a.element? id = some data → data.serial = id
  parent : ∀ id child, child ∈ (a.get id).children → (a.get child).parent = some id
  document : (a.get Arena.document).parent = none
  notElement : a.element? Arena.document = none
  nonempty : 0 < a.records.size

/-- A node that can be moved: one of the array, the document excepted. -/
def Movable (a : Arena) (id : Nat) : Prop :=
  id ≠ Arena.document ∧ id < a.records.size

variable {a : Arena} {id : Nat}

/-- A node that can be moved still can when there are more nodes. -/
theorem Movable.mono {a' : Arena} (h : a.Movable id) (hsize : a.records.size ≤ a'.records.size) :
    a'.Movable id :=
  ⟨h.1, Nat.lt_of_lt_of_le h.2 hsize⟩

/-! ## Looking at the array after a change -/

/-- A number beyond the nodes that there are is read as a node without links. -/
theorem get_of_size_le (h : a.records.size ≤ id) : a.get id = default := by
  rw [get, Array.getD_eq_getD_getElem?, Array.getElem?_eq_none h, Option.getD_none]

/-- A node with a parent is one of those that there are. -/
theorem lt_size_of_parent {p : Nat} (h : (a.get id).parent = some p) : id < a.records.size := by
  by_contra hsize
  rw [get_of_size_le (Nat.not_lt.mp hsize)] at h
  cases h

/-- So is a node with children. -/
theorem lt_size_of_mem_children {child : Nat} (h : child ∈ (a.get id).children) :
    id < a.records.size := by
  by_contra hsize
  rw [get_of_size_le (Nat.not_lt.mp hsize)] at h
  cases h

/-- Changing a node makes none. -/
@[simp]
theorem size_update (f : Record → Record) : (a.update id f).records.size = a.records.size :=
  Array.size_modify ..

/-- The element with a number is what the record says that it is. -/
theorem element?_eq_some_iff {data : Element} :
    a.element? id = some data ↔ (a.get id).content = .element data := by
  rw [element?]
  split
  · next found hfound => rw [hfound, Option.some_inj, Content.element.injEq]
  · next hnone =>
      constructor
      · intro h
        cases h
      · intro h
        exact absurd h (hnone data)

/-- A change at one position leaves the others alone. -/
theorem get_update_of_ne {other : Nat} (f : Record → Record) (h : other ≠ id) :
    (a.update id f).get other = a.get other := by
  rw [get, get, update, Array.getD_eq_getD_getElem?, Array.getD_eq_getD_getElem?,
    Array.getElem?_modify, if_neg (Ne.symm h)]

/-- A node that is changed is afterwards what it was changed to. -/
theorem get_update_self (f : Record → Record) (h : id < a.records.size) :
    (a.update id f).get id = f (a.get id) := by
  rw [get, get, update, Array.getD_eq_getD_getElem?, Array.getD_eq_getD_getElem?,
    Array.getElem?_modify, if_pos rfl, Array.getElem?_eq_getElem h]
  rfl

/-- Outside the array there is nothing to change. -/
theorem get_update_of_size_le {other : Nat} (f : Record → Record) (h : a.records.size ≤ id) :
    (a.update id f).get other = a.get other := by
  by_cases hother : other = id
  · rw [hother, get_of_size_le h, get_of_size_le (by rwa [size_update])]
  · exact get_update_of_ne f hother

/-- What a record says that a change leaves as it is. -/
theorem get_update_field {β : Type} (field : Record → β) {f : Record → Record}
    (h : ∀ r, field (f r) = field r) (other : Nat) :
    field ((a.update id f).get other) = field (a.get other) := by
  by_cases hother : other = id
  · subst hother
    by_cases hsize : other < a.records.size
    · rw [get_update_self f hsize, h]
    · rw [get_update_of_size_le f (Nat.not_lt.mp hsize)]
  · rw [get_update_of_ne f hother]

/-- A change that keeps what nodes are keeps which of them are elements. -/
theorem element?_update {f : Record → Record} (h : ∀ r, (f r).content = r.content)
    (other : Nat) : (a.update id f).element? other = a.element? other := by
  rw [element?, element?, get_update_field Record.content h]

/-- Creating a node leaves the others as they were. -/
theorem get_create_of_lt (content : Content) (h : id < a.records.size) :
    (a.create content).2.get id = a.get id := by
  rw [get, get, create, Array.getD_eq_getD_getElem?, Array.getD_eq_getD_getElem?,
    Array.getElem?_push_lt h, Array.getElem?_eq_getElem h]

/-- A new node has neither parent nor children. -/
theorem get_create_self (content : Content) :
    (a.create content).2.get a.records.size = ⟨content, none, []⟩ := by
  rw [get, create, Array.getD_eq_getD_getElem?, Array.getElem?_push_size]
  rfl

/-- Creating a node makes one. -/
@[simp]
theorem size_create (content : Content) :
    (a.create content).2.records.size = a.records.size + 1 :=
  Array.size_push ..

/-! ## Moves are changes of single links -/

/-- Give a node another parent, or none. -/
def setParent (a : Arena) (id : Nat) (p : Option Nat) : Arena :=
  a.update id fun r => { r with parent := p }

/-- Change the list of what is below a node. -/
def changeChildren (a : Arena) (p : Nat) (g : List Nat → List Nat) : Arena :=
  a.update p fun r => { r with children := g r.children }

/-- Moving a node to the end of another one is three changes: it is cut off, listed, and given its
parent. -/
theorem append_eq (a : Arena) (p id : Nat) :
    a.append p id = ((a.detach id).changeChildren p (id :: ·)).setParent id (some p) :=
  rfl

/-- Moving a node in front of another one is the same three changes, if that one is somewhere. -/
theorem insertBefore_eq (a : Arena) (sibling id : Nat) :
    a.insertBefore sibling id =
      match ((a.detach id).get sibling).parent with
      | none => a.detach id
      | some p => ((a.detach id).changeChildren p (putBefore sibling id)).setParent id (some p) :=
  rfl

section SingleLinks

variable {p other child : Nat} {q : Option Nat} {g : List Nat → List Nat}

/-- Giving a parent makes no node. -/
@[simp]
theorem size_setParent : (a.setParent id q).records.size = a.records.size :=
  size_update _

/-- Changing a list of children makes no node. -/
@[simp]
theorem size_changeChildren : (a.changeChildren p g).records.size = a.records.size :=
  size_update _

/-- Giving a parent leaves what nodes are. -/
theorem element?_setParent : (a.setParent id q).element? other = a.element? other := by
  apply element?_update
  intro r
  rfl

/-- So does changing a list of children. -/
theorem element?_changeChildren : (a.changeChildren p g).element? other = a.element? other := by
  apply element?_update
  intro r
  rfl

/-- The lists of children stay when a parent is given. -/
theorem children_setParent : ((a.setParent id q).get other).children = (a.get other).children := by
  apply get_update_field Record.children
  intro r
  rfl

/-- The parents stay when a list of children is changed. -/
theorem parent_changeChildren :
    ((a.changeChildren p g).get other).parent = (a.get other).parent := by
  apply get_update_field Record.parent
  intro r
  rfl

/-- The node that is given a parent has it. -/
theorem parent_setParent_self (h : id < a.records.size) :
    ((a.setParent id q).get id).parent = q := by
  rw [setParent, get_update_self _ h]

/-- All others keep theirs. -/
theorem parent_setParent_of_ne (h : other ≠ id) :
    ((a.setParent id q).get other).parent = (a.get other).parent := by
  rw [setParent, get_update_of_ne _ h]

/-- A child is in the list that was changed or in one that was not. -/
theorem mem_children_changeChildren (h : child ∈ ((a.changeChildren p g).get other).children) :
    (other = p ∧ child ∈ g (a.get p).children) ∨
      (other ≠ p ∧ child ∈ (a.get other).children) := by
  by_cases hother : other = p
  · have hsize : p < a.records.size := by
      rw [hother] at h
      simpa using lt_size_of_mem_children h
    rw [hother, changeChildren, get_update_self _ hsize] at h
    exact Or.inl ⟨hother, h⟩
  · rw [changeChildren, get_update_of_ne _ hother] at h
    exact Or.inr ⟨hother, h⟩

end SingleLinks

/-! ## Operations keep the links -/

/-- At the beginning there is the document alone, without links. -/
theorem linked_empty : Linked .empty where
  serial := by
    intro id data h
    cases id with
    | zero => cases h
    | succ id => cases h
  parent := by
    intro id child h
    cases id with
    | zero => cases h
    | succ id => cases h
  document := rfl
  notElement := rfl
  nonempty := Nat.one_pos

namespace Linked

/-- An element can be moved, since the document is none. -/
theorem movable_of_element? (h : a.Linked) {data : Element} (hdata : a.element? id = some data) :
    a.Movable id := by
  refine ⟨?_, ?_⟩
  · intro hdocument
    rw [hdocument, h.notElement] at hdata
    cases hdata
  · by_contra hsize
    rw [element?, get_of_size_le (Nat.not_lt.mp hsize)] at hdata
    cases hdata

/-- What is listed below a node can be moved. -/
theorem movable_of_mem_children (h : a.Linked) {child : Nat}
    (hchild : child ∈ (a.get id).children) : a.Movable child := by
  have hparent := h.parent id child hchild
  refine ⟨?_, lt_size_of_parent hparent⟩
  intro hdocument
  rw [hdocument, h.document] at hparent
  cases hparent

/-- A change of contents alone, under which elements keep their numbers and no other node
becomes one. -/
theorem update_content (h : a.Linked) {f : Record → Record}
    (hparent : ∀ r, (f r).parent = r.parent) (hchildren : ∀ r, (f r).children = r.children)
    (hserial : ∀ r data, (f r).content = .element data →
      ∃ old, r.content = .element old ∧ data.serial = old.serial) :
    (a.update id f).Linked := by
  have helement : ∀ other data, (a.update id f).element? other = some data →
      ∃ old, a.element? other = some old ∧ data.serial = old.serial := by
    intro other data hdata
    by_cases hchanged : other = id ∧ other < a.records.size
    · obtain ⟨rfl, hsize⟩ := hchanged
      rw [element?_eq_some_iff, get_update_self f hsize] at hdata
      obtain ⟨old, hold, hsame⟩ := hserial _ _ hdata
      exact ⟨old, element?_eq_some_iff.mpr hold, hsame⟩
    · have hget : (a.update id f).get other = a.get other := by
        by_cases hother : other = id
        · exact get_update_of_size_le f (by omega)
        · exact get_update_of_ne f hother
      rw [element?, hget] at hdata
      exact ⟨data, hdata, rfl⟩
  refine ⟨?_, ?_, ?_, ?_, ?_⟩
  · intro other data hdata
    obtain ⟨old, hold, hsame⟩ := helement other data hdata
    rw [hsame, h.serial other old hold]
  · intro other child hchild
    rw [get_update_field Record.children hchildren] at hchild
    rw [get_update_field Record.parent hparent]
    exact h.parent other child hchild
  · rw [get_update_field Record.parent hparent]
    exact h.document
  · rw [Option.eq_none_iff_forall_ne_some]
    intro data hdata
    obtain ⟨old, hold, -⟩ := helement _ data hdata
    rw [h.notElement] at hold
    cases hold
  · rw [size_update]
    exact h.nonempty

/-- A new node is nowhere yet. -/
theorem create (h : a.Linked) {content : Content}
    (hcontent : ∀ data, content = .element data → data.serial = a.records.size) :
    (a.create content).2.Linked where
  serial := by
    intro other data hdata
    rcases Nat.lt_trichotomy other a.records.size with hlt | rfl | hgt
    · rw [element?, get_create_of_lt content hlt] at hdata
      exact h.serial other data hdata
    · rw [element?, get_create_self] at hdata
      cases content <;> cases hdata
      exact hcontent _ rfl
    · rw [element?, get_of_size_le (by rw [size_create]; omega)] at hdata
      cases hdata
  parent := by
    intro other child hchild
    have hsize := lt_size_of_mem_children hchild
    rw [size_create] at hsize
    by_cases hnew : other = a.records.size
    · rw [hnew, get_create_self] at hchild
      cases hchild
    · rw [get_create_of_lt content (by omega)] at hchild
      have hparent := h.parent other child hchild
      rw [get_create_of_lt content (lt_size_of_parent hparent), hparent]
  document := by
    have hdocument := get_create_of_lt content h.nonempty
    rw [Arena.document, hdocument]
    exact h.document
  notElement := by
    have hdocument := get_create_of_lt content h.nonempty
    rw [element?, Arena.document, hdocument]
    exact h.notElement
  nonempty := by
    rw [size_create]
    omega

/-- A new node can be moved, like all that could be moved before. -/
theorem create_movable (h : a.Linked) {content : Content}
    (hcontent : ∀ data, content = .element data → data.serial = a.records.size) :
    (a.create content).2.Linked ∧ (a.create content).2.Movable (a.create content).1 ∧
      a.records.size ≤ (a.create content).2.records.size := by
  refine ⟨h.create hcontent, ⟨Nat.ne_of_gt h.nonempty, ?_⟩, ?_⟩
  · rw [size_create]
    exact Nat.lt_succ_self _
  · rw [size_create]
    exact Nat.le_succ _

/-- A new node that is no element needs no number. -/
theorem create_other (h : a.Linked) {content : Content}
    (hcontent : ∀ data, content ≠ .element data) :
    (a.create content).2.Linked ∧ (a.create content).2.Movable (a.create content).1 ∧
      a.records.size ≤ (a.create content).2.records.size :=
  h.create_movable fun data hdata => absurd hdata (hcontent data)

/-- A change of links leaves what is no link alone, so that the links alone have to be looked
at. -/
theorem relink (h : a.Linked) {p id : Nat} {q : Option Nat} {g : List Nat → List Nat}
    (hparent : ∀ other child,
      child ∈ (((a.changeChildren p g).setParent id q).get other).children →
        (((a.changeChildren p g).setParent id q).get child).parent = some other)
    (hdocument : (((a.changeChildren p g).setParent id q).get Arena.document).parent = none) :
    ((a.changeChildren p g).setParent id q).Linked where
  serial := by
    intro other data hdata
    rw [element?_setParent, element?_changeChildren] at hdata
    exact h.serial other data hdata
  parent := hparent
  document := hdocument
  notElement := by
    rw [element?_setParent, element?_changeChildren]
    exact h.notElement
  nonempty := by
    rw [size_setParent, size_changeChildren]
    exact h.nonempty

/-- A node that was taken out has no parent, and the others are as many as before. -/
theorem detach (h : a.Linked) (id : Nat) :
    (a.detach id).Linked ∧ ((a.detach id).get id).parent = none ∧
      (a.detach id).records.size = a.records.size := by
  cases hp : (a.get id).parent with
  | none =>
      have hsame : a.detach id = a := by
        rw [Arena.detach, hp]
      rw [hsame]
      exact ⟨h, hp, rfl⟩
  | some p =>
      have hmoved : a.detach id
          = (a.changeChildren p fun l => l.filter (· != id)).setParent id none := by
        rw [Arena.detach, hp]
        rfl
      have hsize := lt_size_of_parent hp
      have hself : (((a.changeChildren p fun l => l.filter (· != id)).setParent id none).get
          id).parent = none :=
        parent_setParent_self (by rwa [size_changeChildren])
      rw [hmoved]
      refine ⟨h.relink ?_ ?_, hself, by rw [size_setParent, size_changeChildren]⟩
      · intro other child hchild
        rw [children_setParent] at hchild
        -- the node is gone from the one list that it stood in
        have hold : child ≠ id ∧ child ∈ (a.get other).children := by
          rcases mem_children_changeChildren hchild with ⟨rfl, hmem⟩ | ⟨hother, hmem⟩
          · rw [List.mem_filter] at hmem
            exact ⟨by simpa using hmem.2, hmem.1⟩
          · refine ⟨?_, hmem⟩
            intro hid
            have hparent := h.parent other child hmem
            rw [hid, hp] at hparent
            exact hother (Option.some.inj hparent).symm
        rw [parent_setParent_of_ne hold.1, parent_changeChildren]
        exact h.parent other child hold.2
      · by_cases hdocument : Arena.document = id
        · rw [hdocument]
          exact hself
        · rw [parent_setParent_of_ne hdocument, parent_changeChildren]
          exact h.document

/-- A node without parent can be listed below any other. -/
theorem attach (h : a.Linked) (hid : a.Movable id) (hfree : (a.get id).parent = none) (p : Nat)
    {g : List Nat → List Nat} (hg : ∀ l, ∀ c ∈ g l, c = id ∨ c ∈ l) :
    ((a.changeChildren p g).setParent id (some p)).Linked := by
  apply h.relink
  · intro other child hchild
    rw [children_setParent] at hchild
    by_cases hchanged : child = id
    · subst hchanged
      have hother : other = p := by
        rcases mem_children_changeChildren hchild with ⟨hother, -⟩ | ⟨-, hmem⟩
        · exact hother
        · rw [h.parent other child hmem] at hfree
          cases hfree
      rw [parent_setParent_self (by rw [size_changeChildren]; exact hid.2), hother]
    · rw [parent_setParent_of_ne hchanged, parent_changeChildren]
      rcases mem_children_changeChildren hchild with ⟨rfl, hmem⟩ | ⟨-, hmem⟩
      · exact h.parent other child ((hg _ child hmem).resolve_left hchanged)
      · exact h.parent other child hmem
  · rw [parent_setParent_of_ne (Ne.symm hid.1), parent_changeChildren]
    exact h.document

/-! ### Moves -/

/-- Moving a node to the end of another one keeps the links and makes no node. -/
theorem append (h : a.Linked) (hid : a.Movable id) (p : Nat) :
    (a.append p id).Linked ∧ (a.append p id).records.size = a.records.size := by
  obtain ⟨hlinked, hfree, hsize⟩ := h.detach id
  rw [append_eq]
  refine ⟨hlinked.attach ⟨hid.1, by rw [hsize]; exact hid.2⟩ hfree p ?_, by simpa using hsize⟩
  intro l c hc
  exact List.mem_cons.mp hc

/-- Listing a child in front of another one adds that child alone. -/
theorem mem_of_mem_putBefore {sibling id c : Nat} {l : List Nat}
    (h : c ∈ putBefore sibling id l) : c = id ∨ c ∈ l := by
  induction l with
  | nil => cases h
  | cons d rest ih =>
      unfold putBefore at h
      split at h
      · rcases List.mem_cons.mp h with rfl | h
        · exact Or.inr List.mem_cons_self
        · exact (List.mem_cons.mp h).imp_right (List.mem_cons_of_mem d)
      · rcases List.mem_cons.mp h with rfl | h
        · exact Or.inr List.mem_cons_self
        · exact (ih h).imp_right (List.mem_cons_of_mem d)

/-- Moving a node in front of another one keeps the links and makes no node. -/
theorem insertBefore (h : a.Linked) (hid : a.Movable id) (sibling : Nat) :
    (a.insertBefore sibling id).Linked ∧
      (a.insertBefore sibling id).records.size = a.records.size := by
  obtain ⟨hlinked, hfree, hsize⟩ := h.detach id
  rw [insertBefore_eq]
  split
  · exact ⟨hlinked, hsize⟩
  · next p _ =>
      have hplace : ∀ l, ∀ c ∈ putBefore sibling id l, c = id ∨ c ∈ l :=
        fun _ _ => mem_of_mem_putBefore
      have hput := hlinked.attach ⟨hid.1, by rw [hsize]; exact hid.2⟩ hfree p hplace
      exact ⟨hput, by rw [size_setParent, size_changeChildren, hsize]⟩

/-- All that is below a node can be moved below another. -/
theorem moveChildren (h : a.Linked) (source target : Nat) :
    (a.moveChildren source target).Linked ∧
      (a.moveChildren source target).records.size = a.records.size := by
  have hmove : ∀ ids : List Nat, (∀ id ∈ ids, a.Movable id) →
      (ids.foldr (fun id a => a.append target id) a).Linked ∧
        (ids.foldr (fun id a => a.append target id) a).records.size = a.records.size := by
    intro ids
    induction ids with
    | nil => exact fun _ => ⟨h, rfl⟩
    | cons id ids ih =>
        intro hids
        obtain ⟨⟨hid, hlt⟩, hrest⟩ := List.forall_mem_cons.mp hids
        obtain ⟨hlinked, hsize⟩ := ih hrest
        obtain ⟨happend, hsame⟩ := hlinked.append ⟨hid, by rwa [hsize]⟩ target
        exact ⟨happend, hsame.trans hsize⟩
  exact hmove _ fun child hchild => h.movable_of_mem_children hchild

/-! ### Text and attributes -/

/-- Adding to a text changes what the node is, and no link. -/
theorem extendText (h : a.Linked) (id : Nat) (run : String) :
    (a.extendText id run).Linked ∧ (a.extendText id run).records.size = a.records.size := by
  refine ⟨h.update_content ?_ ?_ ?_, size_update _⟩
  · intro r
    split <;> rfl
  · intro r
    split <;> rfl
  · intro r data hdata
    split at hdata
    · cases hdata
    · exact ⟨data, hdata, rfl⟩

/-- Adding attributes changes what the node is, and no link. -/
theorem addAttributes (h : a.Linked) (id : Nat) (attributes : List (String × String)) :
    (a.addAttributes id attributes).Linked ∧
      (a.addAttributes id attributes).records.size = a.records.size := by
  refine ⟨h.update_content ?_ ?_ ?_, size_update _⟩
  · intro r
    split <;> rfl
  · intro r
    split <;> rfl
  · intro r data hdata
    split at hdata
    · next old hold =>
        cases hdata
        exact ⟨old, hold, rfl⟩
    · exact ⟨data, hdata, rfl⟩

/-- Text is added to one that is there or comes as a new node. -/
theorem appendText (h : a.Linked) (p : Nat) (run : String) :
    (a.appendText p run).Linked ∧ a.records.size ≤ (a.appendText p run).records.size := by
  unfold Arena.appendText
  split
  · next id _ =>
      obtain ⟨hlinked, hsize⟩ := h.extendText id run
      exact ⟨hlinked, Nat.le_of_eq hsize.symm⟩
  · have htext : ∀ data, Content.text run ≠ .element data := by simp
    obtain ⟨hcreate, hmovable, hgrown⟩ := h.create_other htext
    obtain ⟨hlinked, hsize⟩ := hcreate.append hmovable p
    exact ⟨hlinked, Nat.le_trans hgrown (Nat.le_of_eq hsize.symm)⟩

/-- Text in front of a node goes into the text that is there already, or into a new node. -/
theorem insertTextBefore (h : a.Linked) (sibling : Nat) (run : String) :
    (a.insertTextBefore sibling run).Linked ∧
      a.records.size ≤ (a.insertTextBefore sibling run).records.size := by
  unfold Arena.insertTextBefore
  split
  · exact ⟨h, Nat.le_refl _⟩
  · split
    · next id _ =>
        obtain ⟨hlinked, hsize⟩ := h.extendText id run
        exact ⟨hlinked, Nat.le_of_eq hsize.symm⟩
    · have htext : ∀ data, Content.text run ≠ .element data := by simp
      obtain ⟨hcreate, hmovable, hgrown⟩ := h.create_other htext
      obtain ⟨hlinked, hsize⟩ := hcreate.insertBefore hmovable sibling
      exact ⟨hlinked, Nat.le_trans hgrown (Nat.le_of_eq hsize.symm)⟩

end Linked

end BookCensus.Html.Arena
