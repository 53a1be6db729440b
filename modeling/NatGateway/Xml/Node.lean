import NatGateway.Text.Blank

/-!
# XML trees

The tree that reading a document gives: elements with resolved names, texts, CDATA sections,
comments and processing instructions. The look-ups here go by local name and see only direct
children, which is how envelopes and descriptions are read.
-/

namespace NatGateway.Xml

/-- What the start tag of an element says. Attributes are kept by local name. -/
structure Tag where
  name : String
  qualifier : Option String
  uri : Option String
  attributes : List (String × String)
deriving DecidableEq

/-- A node of a document. -/
inductive Node where
  | element (tag : Tag) (children : List Node)
  | text (content : String)
  | cdata (content : String)
  | comment (content : String)
  | instruction (target : String) (content : Option String)

/-- An element with its children. -/
structure Element where
  tag : Tag
  children : List Node

/-- The element that a node is, if it is one. -/
def Node.element? : Node → Option Element
  | .element tag children => some ⟨tag, children⟩
  | _ => none

/-- The text that a node contributes to its parent: texts and CDATA sections do. -/
def Node.text? : Node → Option String
  | .text content => some content
  | .cdata content => some content
  | _ => none

namespace Element

/-- An element as a node. -/
def node (element : Element) : Node := .element element.tag element.children

/-- The local name. -/
def name (element : Element) : String := element.tag.name

/-- The child elements, in order. -/
def elements (element : Element) : List Element := element.children.filterMap Node.element?

/-- The child elements of a local name, in order. -/
def named (element : Element) (name : String) : List Element :=
  element.elements.filter (·.name == name)

/-- The first child element of a local name. -/
def child? (element : Element) (name : String) : Option Element := (element.named name).head?

/-- The texts and CDATA sections among the children, joined; absent if there are none. -/
def text? (element : Element) : Option String :=
  match element.children.filterMap Node.text? with
  | [] => none
  | pieces => some (String.join pieces)

/-- The trimmed text of the first child of a local name; empty if it is absent. -/
def textOf (element : Element) (name : String) : String :=
  (((element.child? name).bind text?).map Text.trim).getD ""

/-- The value of an attribute by its local name. -/
def attribute? (element : Element) (name : String) : Option String :=
  element.tag.attributes.lookup name

end Element

end NatGateway.Xml
