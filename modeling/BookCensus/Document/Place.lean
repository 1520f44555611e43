import BookCensus.Document.Node
import BookCensus.Text.Blank

/-!
# Places in a document

A `Place` is an element together with where it stands: its siblings on either
side and the place of its parent.  It is enough to walk from an element in any
direction, and two places of one document are the same exactly when the serial
numbers of their elements are.

An element in the contents of a template knows the template, but has no parent
*element*: a walk upwards ends at the fragment between them.
-/

namespace BookCensus.Document

/-- An element with its children and its siblings, those before it from the
nearest outwards. -/
structure Spot where
  data : Element
  children : List Node
  before : List Node
  after : List Node
  deriving Inhabited

/-- An element and where it stands: at the top of the tree or of a subtree
outside it, among the children of another element, or in the contents of a
template. -/
inductive Place where
  | top (inTree : Bool) (spot : Spot)
  | child (parent : Place) (spot : Spot)
  | content (template : Place) (spot : Spot)
  deriving Inhabited

namespace Place

/-- The element and its siblings. -/
def spot : Place → Spot
  | top _ s => s
  | child _ s => s
  | content _ s => s

/-- The element. -/
def data (p : Place) : Element :=
  p.spot.data

/-- The serial number of the element. -/
def serial (p : Place) : Nat :=
  p.data.serial

/-- The nodes right below the element. -/
def children (p : Place) : List Node :=
  p.spot.children

/-- The element with everything below it. -/
def node (p : Place) : Node :=
  .element p.data p.children

instance : BEq Place := ⟨fun p q => p.serial == q.serial⟩

/-- The parent element. -/
def parent? : Place → Option Place
  | top _ _ => none
  | child p _ => some p
  | content _ _ => none

/-- Whether the element has a parent node of any kind. -/
def hasParent : Place → Bool
  | top inTree _ => inTree
  | child _ _ => true
  | content _ _ => true

/-- Whether the element stands at the top of the tree. -/
def isRoot : Place → Bool
  | top inTree _ => inTree
  | _ => false

/-- The same place with another element of the same siblings. -/
def withSpot (p : Place) (s : Spot) : Place :=
  match p with
  | top inTree _ => top inTree s
  | child parent _ => child parent s
  | content template _ => content template s

/-- The parent element, its parent element and so on. -/
def ancestors : Place → List Place
  | top _ _ => []
  | child p _ => p :: ancestors p
  | content _ _ => []

/-- The elements among siblings on one side, nearest first.  `passed` are the
siblings on the other side of the first of them, nearest first. -/
def siblingsFrom (make : Element → List Node → List Node → List Node → Place) :
    List Node → List Node → List Place
  | _, [] => []
  | passed, n :: rest =>
      match n with
      | .element data children =>
          make data children passed rest :: siblingsFrom make (n :: passed) rest
      | _ => siblingsFrom make (n :: passed) rest

/-- The sibling elements after this one, nearest first. -/
def laterSiblings (p : Place) : List Place :=
  siblingsFrom (fun data children passed rest => p.withSpot ⟨data, children, passed, rest⟩)
    (p.node :: p.spot.before) p.spot.after

/-- The sibling elements before this one, nearest first. -/
def earlierSiblings (p : Place) : List Place :=
  siblingsFrom (fun data children passed rest => p.withSpot ⟨data, children, rest, passed⟩)
    (p.node :: p.spot.after) p.spot.before

/-- The first of `siblingsFrom`, found without making the others. -/
def siblingFrom? (make : Element → List Node → List Node → List Node → Place) :
    List Node → List Node → Option Place
  | _, [] => none
  | passed, n :: rest =>
      match n with
      | .element data children => some (make data children passed rest)
      | _ => siblingFrom? make (n :: passed) rest

/-- The sibling element right before this one. -/
def previousSibling? (p : Place) : Option Place :=
  siblingFrom? (fun data children passed rest => p.withSpot ⟨data, children, rest, passed⟩)
    (p.node :: p.spot.after) p.spot.before

mutual

/-- The places of a node and of all nodes below it, in the order of the tree.
`make` places an element beside the node, `before` and `after` are the siblings
of the node. -/
def placesAt (make : Spot → Place) (before after : List Node) : Node → List Place
  | .text _ => []
  | .comment _ => []
  | .element data children =>
      let p := make ⟨data, children, before, after⟩
      p :: placesAmong (child p) (content p) [] children
  | .fragment _ => []

/-- The places of all elements among and below some siblings.  `inner` places
an element in the contents of a template whose fragment is one of them. -/
def placesAmong (make inner : Spot → Place) (before : List Node) : List Node → List Place
  | [] => []
  | .fragment contents :: rest =>
      placesAmong inner inner [] contents
        ++ placesAmong make inner (.fragment contents :: before) rest
  | n :: rest => placesAt make before rest n ++ placesAmong make inner (n :: before) rest

end

/-- All elements below a place, contents of templates included, in the order of
the tree. -/
def descendants (p : Place) : List Place :=
  placesAmong (child p) (content p) [] p.children

mutual

/-- The first place that passes a test at a node or below it, with what `placesAt`
is given. -/
def findAt? (test : Place → Bool) (make : Spot → Place) (before after : List Node) :
    Node → Option Place
  | .text _ => none
  | .comment _ => none
  | .element data children =>
      let p := make ⟨data, children, before, after⟩
      if test p then some p else findAmong? test (child p) (content p) [] children
  | .fragment _ => none

/-- The first place that passes a test among and below some siblings, with what
`placesAmong` is given. -/
def findAmong? (test : Place → Bool) (make inner : Spot → Place) (before : List Node) :
    List Node → Option Place
  | [] => none
  | .fragment contents :: rest =>
      (findAmong? test inner inner [] contents).or
        (findAmong? test make inner (.fragment contents :: before) rest)
  | n :: rest =>
      (findAt? test make before rest n).or (findAmong? test make inner (n :: before) rest)

end

/-- The first element below a place that passes a test.  The tree is walked only
as far as that element. -/
def findBelow? (test : Place → Bool) (p : Place) : Option Place :=
  findAmong? test (child p) (content p) [] p.children

mutual

/-- A search among the places of a node finds the first that passes. -/
theorem findAt?_eq (test : Place → Bool) (make : Spot → Place) (before after : List Node) :
    ∀ n, findAt? test make before after n = (placesAt make before after n).find? test
  | .text _ => by simp [findAt?, placesAt]
  | .comment _ => by simp [findAt?, placesAt]
  | .fragment _ => by simp [findAt?, placesAt]
  | .element data children => by
      have inside := findAmong?_eq test (child (make ⟨data, children, before, after⟩))
        (content (make ⟨data, children, before, after⟩)) [] children
      cases h : test (make ⟨data, children, before, after⟩) <;>
        simp [findAt?, placesAt, h, inside]

/-- So does a search among the places of siblings. -/
theorem findAmong?_eq (test : Place → Bool) (make inner : Spot → Place) (before : List Node) :
    ∀ ns, findAmong? test make inner before ns = (placesAmong make inner before ns).find? test
  | [] => by simp [findAmong?, placesAmong]
  | .fragment contents :: rest => by
      simp [findAmong?, placesAmong, List.find?_append, findAmong?_eq test inner inner [] contents,
        findAmong?_eq test make inner (.fragment contents :: before) rest]
  | .text t :: rest => by
      simp [findAmong?, placesAmong, List.find?_append,
        findAt?_eq test make before rest (.text t),
        findAmong?_eq test make inner (.text t :: before) rest]
  | .comment t :: rest => by
      simp [findAmong?, placesAmong, List.find?_append,
        findAt?_eq test make before rest (.comment t),
        findAmong?_eq test make inner (.comment t :: before) rest]
  | .element data children :: rest => by
      simp [findAmong?, placesAmong, List.find?_append,
        findAt?_eq test make before rest (.element data children),
        findAmong?_eq test make inner (.element data children :: before) rest]

end

/-- `findBelow?` finds what comes first in the list of all elements below. -/
theorem findBelow?_eq (test : Place → Bool) (p : Place) :
    p.findBelow? test = p.descendants.find? test :=
  findAmong?_eq test (child p) (content p) [] p.children

/-- All text below the element with every run of blanks made one space. -/
def text (p : Place) : String :=
  String.ofList (Text.collapseChars (Node.textCharsOfAll p.children))

/-- The place `levels` parents up, if there are as many parent elements. -/
def ancestor? (p : Place) : Nat → Option Place
  | 0 => some p
  | levels + 1 => p.parent?.bind (ancestor? · levels)

/-- How many sibling elements stand before this one. -/
def index (p : Place) : Nat :=
  p.spot.before.countP Node.isElement

end Place

namespace Tree

/-- All elements of the tree, in its order. -/
def places (t : Tree) : List Place :=
  Place.placesAmong (Place.top true) (Place.top true) [] t.children

/-- All elements outside the tree, subtree by subtree. -/
def detachedPlaces (t : Tree) : List Place :=
  t.detached.flatMap fun n => Place.placesAmong (Place.top false) (Place.top false) [] [n]

/-- The element at the top of the tree. -/
def root? (t : Tree) : Option Place :=
  t.places.head?

end Tree

end BookCensus.Document
