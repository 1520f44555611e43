import BookCensus.Document.Node

/-!
# A tree under construction

While a document is read its nodes sit in an array, each with links to its
parent and children, so that a node can be moved by changing a few links.  A
node is named by its position in the array, which is also the order in which
nodes were created.  `Arena.toTree` reads the finished tree off the links.
-/

namespace BookCensus.Html

open Document

/-- What a node is, apart from its links. -/
inductive Content where
  | document
  | fragment
  | text (content : String)
  | comment (content : String)
  | element (data : Element)
  deriving Inhabited

/-- A node and its links, the children with the last one first. -/
structure Record where
  content : Content
  parent : Option Nat
  children : List Nat
  deriving Inhabited

/-- The nodes of a tree under construction.  The first is the document. -/
structure Arena where
  records : Array Record
  deriving Inhabited

namespace Arena

/-- A document without children. -/
def empty : Arena :=
  ⟨#[⟨.document, none, []⟩]⟩

/-- The position of the document. -/
def document : Nat := 0

/-- The node at a position. -/
def get (a : Arena) (id : Nat) : Record :=
  a.records.getD id default

/-- Change the node at a position. -/
def update (a : Arena) (id : Nat) (f : Record → Record) : Arena :=
  ⟨a.records.modify id f⟩

/-- The element at a position, if the node there is one. -/
def element? (a : Arena) (id : Nat) : Option Element :=
  match (a.get id).content with
  | .element data => some data
  | _ => none

/-- A new node without links, and its position. -/
def create (a : Arena) (content : Content) : Nat × Arena :=
  (a.records.size, ⟨a.records.push ⟨content, none, []⟩⟩)

/-- Take a node out of its place. -/
def detach (a : Arena) (id : Nat) : Arena :=
  match (a.get id).parent with
  | none => a
  | some parent =>
      let a := a.update parent fun r => { r with children := r.children.filter (· != id) }
      a.update id fun r => { r with parent := none }

/-- Move a node to the end of the children of another. -/
def append (a : Arena) (parent id : Nat) : Arena :=
  let a := a.detach id
  let a := a.update parent fun r => { r with children := id :: r.children }
  a.update id fun r => { r with parent := some parent }

/-- Put `id` right before `sibling` among children with the last one first. -/
def putBefore (sibling id : Nat) : List Nat → List Nat
  | [] => []
  | c :: rest => if c == sibling then c :: id :: rest else c :: putBefore sibling id rest

/-- Move a node to the place right before another, which must have a parent. -/
def insertBefore (a : Arena) (sibling id : Nat) : Arena :=
  let a := a.detach id
  match (a.get sibling).parent with
  | none => a
  | some parent =>
      let a := a.update parent fun r => { r with children := putBefore sibling id r.children }
      a.update id fun r => { r with parent := some parent }

/-- The child right before another, among children with the last one first. -/
def previous? (sibling : Nat) : List Nat → Option Nat
  | c :: rest => if c == sibling then rest.head? else previous? sibling rest
  | [] => none

/-- Whether a node is text. -/
def isText (a : Arena) (id : Nat) : Bool :=
  match (a.get id).content with
  | .text _ => true
  | _ => false

/-- Add to the text of a node. -/
def extendText (a : Arena) (id : Nat) (run : String) : Arena :=
  a.update id fun r =>
    match r.content with
    | .text content => { r with content := .text (content ++ run) }
    | _ => r

/-- Add text at the end of the children of a node, to a text that is already
there if there is one. -/
def appendText (a : Arena) (parent : Nat) (run : String) : Arena :=
  match (a.get parent).children.head?.filter a.isText with
  | some id => a.extendText id run
  | none =>
      let (id, a) := a.create (.text run)
      a.append parent id

/-- Add text right before a node, which must have a parent. -/
def insertTextBefore (a : Arena) (sibling : Nat) (run : String) : Arena :=
  match (a.get sibling).parent with
  | none => a
  | some parent =>
      match (previous? sibling (a.get parent).children).filter a.isText with
      | some id => a.extendText id run
      | none =>
          let (id, a) := a.create (.text run)
          a.insertBefore sibling id

/-- Move all children of a node to the end of the children of another. -/
def moveChildren (a : Arena) (source target : Nat) : Arena :=
  (a.get source).children.foldr (fun id a => a.append target id) a

/-- Add the attributes that an element does not have yet. -/
def addAttributes (a : Arena) (id : Nat) (attributes : List (String × String)) : Arena :=
  a.update id fun r =>
    match r.content with
    | .element data =>
        let missing := attributes.filter fun (name, _) =>
          !data.attributes.any fun b => b.space == .none && b.name == name
        let added := missing.map fun (name, value) => (⟨.none, name, value⟩ : Attribute)
        { r with content := .element { data with attributes := data.attributes ++ added } }
    | _ => r

/-- The node at a position with everything below it.  No path is longer than
the array, whose size bounds the depth. -/
def toNode (a : Arena) : Nat → Nat → Node
  | 0, _ => .text ""
  | fuel + 1, id =>
      let r := a.get id
      match r.content with
      | .text content => .text content
      | .comment content => .comment content
      | .element data => .element data (r.children.reverse.map (toNode a fuel))
      | .fragment => .fragment (r.children.reverse.map (toNode a fuel))
      | .document => .fragment (r.children.reverse.map (toNode a fuel))

/-- The finished tree: what hangs below the document, and the subtrees that do
not. -/
def toTree (a : Arena) : Tree :=
  let size := a.records.size
  let strays := (List.range size).filter fun id =>
    id != document && (a.get id).parent.isNone && (a.element? id).isSome
  ⟨(a.get document).children.reverse.map (toNode a size), strays.map (toNode a size)⟩

end Arena

end BookCensus.Html
