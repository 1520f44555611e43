import BookCensus.Proofs.RouteOrder
import Mathlib.Data.List.Forall2

/-!
# Outlines

The outline of a node is what a reader of the text sees of it: tags, attributes, characters
and their order.  It leaves out the numbers of elements, comments, and where one run of text
ends and the next begins; of the attributes it keeps what each name stands for.

Two elements with the same outline may stand in different documents.  The elements below
them correspond all the same: the first to the first, the second to the second and so on,
and what stands in between has the same outlines too.

* `Place.map_profile_descendants` — the outlines below an element, and of what stands in
  between, are settled by its outline;
* `Place.findBelow?_congr` — so is what a search below it finds, if the test looks at
  outlines alone;
* `Place.text_congr` — so is its text.
-/

namespace BookCensus.Document

/-- The value of an attribute. -/
def Element.value? (e : Element) (space : AttributeNamespace) (name : String) : Option String :=
  (e.attributes.find? fun a => a.space == space && a.name == name).map (·.value)

/-- What is seen of a node. -/
inductive Outline where
  | char (c : Char)
  | element (space : Namespace) (name : String)
      (value? : AttributeNamespace → String → Option String) (inside : List Outline)
  | contents (inside : List Outline)

namespace Node

mutual

/-- The outline of a node: a list, as text is seen character by character and a comment
not at all. -/
def outline : Node → List Outline
  | text content => content.toList.map .char
  | comment _ => []
  | element data children =>
      [.element data.space data.name data.value? (outlineOfAll children)]
  | fragment children => [.contents (outlineOfAll children)]

/-- `outline` of several nodes, one after the other. -/
def outlineOfAll : List Node → List Outline
  | [] => []
  | n :: rest => outline n ++ outlineOfAll rest

end

end Node

namespace Outline

/-- The value of an attribute in no namespace. -/
def attribute? (name : String) : Outline → Option String
  | element _ _ value? _ => value? .none name
  | _ => none

mutual

/-- The characters of an outline. -/
def chars : Outline → List Char
  | char c => [c]
  | element _ _ _ inside => charsOfAll inside
  | contents inside => charsOfAll inside

/-- `chars` of several outlines, one after the other. -/
def charsOfAll : List Outline → List Char
  | [] => []
  | o :: rest => chars o ++ charsOfAll rest

end

mutual

/-- The elements of an outline in the order of the tree, each with those that it stands in,
from the inside outwards; `around` are those around the outline. -/
def elements (around : List Outline) : Outline → List (Outline × List Outline)
  | char _ => []
  | element space name value? inside =>
      (element space name value? inside, around)
        :: elementsOfAll (element space name value? inside :: around) inside
  | contents inside => elementsOfAll around inside

/-- `elements` of several outlines, one after the other. -/
def elementsOfAll (around : List Outline) : List Outline → List (Outline × List Outline)
  | [] => []
  | o :: rest => elements around o ++ elementsOfAll around rest

end

/-- The elements of siblings are those of the first ones and then those of the others. -/
theorem elementsOfAll_append (around : List Outline) (front back : List Outline) :
    elementsOfAll around (front ++ back)
      = elementsOfAll around front ++ elementsOfAll around back := by
  induction front with
  | nil => rfl
  | cons o front ih =>
      rw [List.cons_append, elementsOfAll, elementsOfAll, ih, List.append_assoc]

/-- So are the characters of their texts. -/
theorem charsOfAll_append (front back : List Outline) :
    charsOfAll (front ++ back) = charsOfAll front ++ charsOfAll back := by
  induction front with
  | nil => rfl
  | cons o front ih => rw [List.cons_append, charsOfAll, charsOfAll, ih, List.append_assoc]

/-- Characters are no elements. -/
theorem elementsOfAll_map_char (around : List Outline) (cs : List Char) :
    elementsOfAll around (cs.map char) = [] := by
  induction cs with
  | nil => rfl
  | cons c cs ih => rw [List.map_cons, elementsOfAll, elements, ih, List.nil_append]

/-- Characters alone are the text that they make. -/
theorem charsOfAll_map_char (cs : List Char) : charsOfAll (cs.map char) = cs := by
  induction cs with
  | nil => rfl
  | cons c cs ih => rw [List.map_cons, charsOfAll, chars, ih, List.singleton_append]

end Outline

namespace Node

mutual

/-- The text of a node is in its outline. -/
theorem charsOfAll_outline : ∀ n : Node, Outline.charsOfAll n.outline = n.textChars
  | text s => by
      rw [outline, textChars, Outline.charsOfAll_map_char]
  | comment s => by
      rw [outline, textChars, Outline.charsOfAll]
  | element data children => by
      rw [outline, textChars, Outline.charsOfAll, Outline.chars, Outline.charsOfAll,
        List.append_nil, charsOfAll_outlineOfAll]
  | fragment children => by
      rw [outline, textChars, Outline.charsOfAll, Outline.chars, Outline.charsOfAll,
        List.append_nil, charsOfAll_outlineOfAll]

/-- The text of siblings is in their outlines. -/
theorem charsOfAll_outlineOfAll :
    ∀ ns : List Node, Outline.charsOfAll (outlineOfAll ns) = textCharsOfAll ns
  | [] => by
      rw [outlineOfAll, textCharsOfAll, Outline.charsOfAll]
  | n :: rest => by
      rw [outlineOfAll, textCharsOfAll, Outline.charsOfAll_append, charsOfAll_outline,
        charsOfAll_outlineOfAll]

end

end Node

namespace Place

/-- The outline of an element with everything below it. -/
def outline (p : Place) : Outline :=
  .element p.data.space p.data.name p.data.value? (Node.outlineOfAll p.children)

/-- An attribute can be looked up in the outline. -/
theorem attribute?_outline (p : Place) (name : String) :
    p.outline.attribute? name = p.data.attribute? name :=
  rfl

/-- The outline of an element and of those around it, but for the outermost `depth`. -/
def profile (depth : Nat) (p : Place) : Outline × List Outline :=
  (p.outline, (p.enclosing.take (p.enclosing.length - depth)).map outline)

/-- The outline of an element is told from the element and its children. -/
theorem outline_eq {p : Place} {s : Spot} (h : p.spot = s) :
    p.outline = .element s.data.space s.data.name s.data.value? (Node.outlineOfAll s.children) := by
  rw [outline, data, children, h]

/-- A profile has the outlines of those around the element that are inside the outermost ones. -/
theorem profile_eq {p : Place} {inside outer : List Place} (h : p.enclosing = inside ++ outer) :
    p.profile outer.length = (p.outline, inside.map outline) := by
  have hlength : p.enclosing.length - outer.length = inside.length := by
    rw [h, List.length_append, Nat.add_sub_cancel]
  rw [profile, hlength, h, List.take_left]

/-- A walk over siblings meets the elements of their outlines. -/
theorem map_profile_placesAmong {outer : List Place} (inside : List Place)
    {make inner : Spot → Place} (hmake : ∀ s, (make s).spot = s)
    (hinner : ∀ s, (inner s).spot = s) (hmakeOuter : ∀ s, (make s).enclosing = inside ++ outer)
    (hinnerOuter : ∀ s, (inner s).enclosing = inside ++ outer) (before : List Node) :
    ∀ ns, (placesAmong make inner before ns).map (profile outer.length)
      = Outline.elementsOfAll (inside.map outline) (Node.outlineOfAll ns)
  | [] => by
      rw [placesAmong, Node.outlineOfAll, Outline.elementsOfAll, List.map_nil]
  | .text s :: rest => by
      rw [placesAmong_text, Node.outlineOfAll, Node.outline, Outline.elementsOfAll_append,
        Outline.elementsOfAll_map_char, List.nil_append]
      exact map_profile_placesAmong inside hmake hinner hmakeOuter hinnerOuter _ rest
  | .comment s :: rest => by
      rw [placesAmong_comment, Node.outlineOfAll, Node.outline, List.nil_append]
      exact map_profile_placesAmong inside hmake hinner hmakeOuter hinnerOuter _ rest
  | .element data children :: rest => by
      rw [placesAmong_element, Node.outlineOfAll, Node.outline, Outline.elementsOfAll_append,
        Outline.elementsOfAll, Outline.elements, Outline.elementsOfAll, List.append_nil]
      have houtline := outline_eq (hmake ⟨data, children, before, rest⟩)
      have henclosing := hmakeOuter ⟨data, children, before, rest⟩
      generalize make ⟨data, children, before, rest⟩ = p at houtline henclosing ⊢
      have hchild : ∀ s, (child p s).enclosing = (p :: inside) ++ outer := by
        intro s
        rw [enclosing, henclosing, List.cons_append]
      have hcontent : ∀ s, (content p s).enclosing = (p :: inside) ++ outer := by
        intro s
        rw [enclosing, henclosing, List.cons_append]
      rw [List.map_append, List.map_cons, profile_eq henclosing,
        map_profile_placesAmong (p :: inside) (fun _ => rfl) (fun _ => rfl) hchild hcontent,
        map_profile_placesAmong inside hmake hinner hmakeOuter hinnerOuter, List.map_cons,
        houtline]
  | .fragment contents :: rest => by
      rw [placesAmong_fragment, Node.outlineOfAll, Node.outline, Outline.elementsOfAll_append,
        Outline.elementsOfAll, Outline.elements, Outline.elementsOfAll, List.append_nil,
        List.map_append, map_profile_placesAmong inside hinner hinner hinnerOuter hinnerOuter,
        map_profile_placesAmong inside hmake hinner hmakeOuter hinnerOuter]

/-- What is below an element and what it stands in there is settled by the outline. -/
theorem map_profile_descendants (p : Place) :
    p.descendants.map (profile (p.enclosing.length + 1))
      = Outline.elementsOfAll [] (Node.outlineOfAll p.children) := by
  have hchild : ∀ s, (child p s).enclosing = [] ++ p :: p.enclosing := fun _ => rfl
  have hcontent : ∀ s, (content p s).enclosing = [] ++ p :: p.enclosing := fun _ => rfl
  exact map_profile_placesAmong [] (fun _ => rfl) (fun _ => rfl) hchild hcontent [] p.children

/-! ## Elements with the same outline -/

section Congr

variable {p q : Place}

/-- Outlines are the same when the elements are and the outlines of the children are. -/
theorem outline_eq_iff :
    p.outline = q.outline ↔ p.data.space = q.data.space ∧ p.data.name = q.data.name ∧
      p.data.value? = q.data.value? ∧
      Node.outlineOfAll p.children = Node.outlineOfAll q.children := by
  rw [outline, outline, Outline.element.injEq]

/-- Elements with the same outline have the same attributes. -/
theorem attribute?_congr (h : p.outline = q.outline) (name : String) :
    p.data.attribute? name = q.data.attribute? name := by
  rw [← attribute?_outline, ← attribute?_outline, h]

/-- Elements with the same outline have the same text. -/
theorem text_congr (h : p.outline = q.outline) : p.text = q.text := by
  rw [text, text, ← Node.charsOfAll_outlineOfAll, ← Node.charsOfAll_outlineOfAll,
    (outline_eq_iff.mp h).2.2.2]

/-- Below elements with the same outline, elements correspond one by one. -/
theorem forall₂_profile (h : p.outline = q.outline) :
    List.Forall₂ (fun e e' => e.profile (p.enclosing.length + 1)
        = e'.profile (q.enclosing.length + 1)) p.descendants q.descendants := by
  have hmap : p.descendants.map (profile (p.enclosing.length + 1))
      = q.descendants.map (profile (q.enclosing.length + 1)) := by
    rw [map_profile_descendants, map_profile_descendants, (outline_eq_iff.mp h).2.2.2]
  rwa [← List.forall₂_eq_eq_eq, List.forall₂_map_left_iff, List.forall₂_map_right_iff] at hmap

end Congr

end Place

/-- In lists that correspond, searches with tests that agree end at the same position, or
find nothing in either. -/
theorem find?_of_forall₂ {α β : Type} {R : α → β → Prop} {test : α → Bool} {test' : β → Bool}
    {l : List α} {l' : List β} (h : List.Forall₂ R l l')
    (htest : ∀ a ∈ l, ∀ b ∈ l', R a b → test a = test' b) :
    (l.find? test = none ∧ l'.find? test' = none) ∨
      ∃ (n : Nat) (a : α) (b : β), l[n]? = some a ∧ l'[n]? = some b ∧ R a b ∧
        l.find? test = some a ∧ l'.find? test' = some b := by
  induction h with
  | nil => exact Or.inl ⟨rfl, rfl⟩
  | @cons a b l l' hab _ ih =>
      have hhead := htest a List.mem_cons_self b List.mem_cons_self hab
      by_cases ha : test a = true
      · rw [List.find?_cons_of_pos ha, List.find?_cons_of_pos (hhead ▸ ha)]
        exact Or.inr ⟨0, a, b, rfl, rfl, hab, rfl, rfl⟩
      · rw [List.find?_cons_of_neg ha, List.find?_cons_of_neg (hhead ▸ ha)]
        have hrest := ih fun a' ha' b' hb' =>
          htest a' (List.mem_cons_of_mem a ha') b' (List.mem_cons_of_mem b hb')
        refine hrest.imp_right ?_
        rintro ⟨n, a', b', hn⟩
        exact ⟨n + 1, a', b', hn⟩

namespace Place

/-- A search that looks at outlines alone finds the same outline below elements with the same
outline. -/
theorem findBelow?_congr {p q : Place} {test : Place → Bool} (h : p.outline = q.outline)
    (htest : ∀ e e' : Place, e.outline = e'.outline → test e = test e') :
    (p.findBelow? test).map outline = (q.findBelow? test).map outline := by
  have hsame : ∀ e ∈ p.descendants, ∀ e' ∈ q.descendants, e.profile (p.enclosing.length + 1)
      = e'.profile (q.enclosing.length + 1) → test e = test e' :=
    fun e _ e' _ hprofile => htest e e' (congrArg Prod.fst hprofile)
  rw [findBelow?_eq, findBelow?_eq]
  rcases find?_of_forall₂ (forall₂_profile h) hsame with
    ⟨hp, hq⟩ | ⟨_, e, e', -, -, hprofile, hp, hq⟩
  · rw [hp, hq]
  · rw [hp, hq, Option.map_some, Option.map_some]
    exact congrArg some (congrArg Prod.fst hprofile)

end Place

/-! ## A check for equal outlines -/

namespace Node

mutual

/-- Whether two nodes are the same but for the numbers of elements and what comments say. -/
def alike : Node → Node → Bool
  | text s, text t => s == t
  | comment _, comment _ => true
  | element d children, element e others =>
      d.space == e.space && d.name == e.name && d.attributes == e.attributes
        && alikeAll children others
  | fragment children, fragment others => alikeAll children others
  | _, _ => false

/-- Whether nodes are `alike` one by one. -/
def alikeAll : List Node → List Node → Bool
  | [], [] => true
  | n :: rest, m :: others => alike n m && alikeAll rest others
  | _, _ => false

end

mutual

/-- Then they have the same outline. -/
theorem outline_eq_of_alike : ∀ n m : Node, alike n m = true → outline n = outline m
  | text s, m, h => by
      cases m <;> simp_all [alike]
  | comment s, m, h => by
      cases m <;> simp_all [alike, outline]
  | element d children, m, h => by
      cases m with
      | element e others =>
          simp only [alike, Bool.and_eq_true, beq_iff_eq, and_assoc] at h
          obtain ⟨hspace, hname, hattributes, hchildren⟩ := h
          have hvalue : d.value? = e.value? := by
            funext space name
            rw [Element.value?, Element.value?, hattributes]
          rw [outline, outline, hspace, hname, hvalue,
            outlineOfAll_eq_of_alikeAll children others hchildren]
      | _ => simp [alike] at h
  | fragment children, m, h => by
      cases m with
      | fragment others =>
          rw [alike] at h
          rw [outline, outline, outlineOfAll_eq_of_alikeAll children others h]
      | _ => simp [alike] at h

/-- Siblings that are alike one by one have the same outlines. -/
theorem outlineOfAll_eq_of_alikeAll :
    ∀ ns ms : List Node, alikeAll ns ms = true → outlineOfAll ns = outlineOfAll ms
  | [], ms, h => by
      cases ms with
      | nil => rfl
      | cons m others => simp [alikeAll] at h
  | n :: rest, ms, h => by
      cases ms with
      | nil => simp [alikeAll] at h
      | cons m others =>
          rw [alikeAll, Bool.and_eq_true] at h
          rw [outlineOfAll, outlineOfAll, outline_eq_of_alike n m h.1,
            outlineOfAll_eq_of_alikeAll rest others h.2]

end

end Node

/-- The same of elements at places. -/
theorem Place.outline_eq_of_alike {p q : Place} (h : p.node.alike q.node = true) :
    p.outline = q.outline := by
  have hsame := Node.outline_eq_of_alike p.node q.node h
  rw [node, node, Node.outline, Node.outline, List.singleton_inj] at hsame
  exact hsame

end BookCensus.Document
