/-!
# Documents

A document is a tree of nodes.  Every element carries the number under which it
was created while the document was read: the parser may create elements in one
order and place them in another, and a list by creation order can differ from
the order of the tree.

The contents of a `template` element hang below a *fragment*, its only child.
Subtrees that were taken out of the tree while it was built are kept apart.
-/

namespace BookCensus.Document

/-- The vocabularies that elements come from. -/
inductive Namespace where
  | html
  | svg
  | mathml
  deriving DecidableEq, Repr, Inhabited

/-- The namespaces of attributes. -/
inductive AttributeNamespace where
  | none
  | xlink
  | xml
  | xmlns
  deriving DecidableEq, Repr

/-- An attribute. -/
structure Attribute where
  space : AttributeNamespace
  name : String
  value : String
  deriving DecidableEq, Repr

/-- An element without its children. -/
structure Element where
  serial : Nat
  space : Namespace
  name : String
  attributes : List Attribute
  deriving DecidableEq, Repr, Inhabited

/-- A node and everything below it. -/
inductive Node where
  | text (content : String)
  | comment (content : String)
  | element (data : Element) (children : List Node)
  | fragment (children : List Node)
  deriving Inhabited, Repr

/-- The nodes at the top of the tree, and the subtrees outside it. -/
structure Tree where
  children : List Node
  detached : List Node
  deriving Inhabited, Repr

namespace Element

/-- The value of an attribute in no namespace. -/
def attribute? (e : Element) (name : String) : Option String :=
  (e.attributes.find? fun a => a.space == .none && a.name == name).map (·.value)

/-- The value of the attribute `id`. -/
def id? (e : Element) : Option String :=
  e.attribute? "id"

/-- The same vocabulary and name. -/
def sameType (e f : Element) : Bool :=
  e.space == f.space && e.name == f.name

end Element

namespace Node

/-- Whether a node is an element. -/
def isElement : Node → Bool
  | element _ _ => true
  | _ => false

/-- Whether a node is text. -/
def isText : Node → Bool
  | text _ => true
  | _ => false

/-- The element that a node is. -/
def element? : Node → Option Element
  | element data _ => some data
  | _ => none

mutual

/-- All text at and below a node, in the order of the tree.  Contents of
templates count, comments do not. -/
def textChars : Node → List Char
  | text content => content.toList
  | comment _ => []
  | element _ children => textCharsOfAll children
  | fragment children => textCharsOfAll children

/-- `textChars` of several nodes, one after the other. -/
def textCharsOfAll : List Node → List Char
  | [] => []
  | n :: rest => textChars n ++ textCharsOfAll rest

end

end Node

end BookCensus.Document
