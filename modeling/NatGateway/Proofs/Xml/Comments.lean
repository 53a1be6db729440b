import NatGateway.Xml.Node

/-!
# Trees without comments

What leaving out comments does to a tree. Trees that differ in comments only are the same once all
comments are gone, so a reading does not depend on comments if it gives the same without any. The
look-ups of an element are of that kind: they see elements and texts only, and the pieces of a text
that a comment keeps apart are joined all the same.
-/

namespace NatGateway.Xml

/-- Whether a node is a comment. -/
def Node.isComment : Node → Bool
  | .comment _ => true
  | _ => false

mutual

/-- A node without the comments inside it. -/
def Node.bare : Node → Node
  | .element tag children => .element tag (bareNodes children)
  | .text content => .text content
  | .cdata content => .cdata content
  | .comment content => .comment content
  | .instruction target content => .instruction target content

/-- Nodes without the comments among them and inside them. -/
def bareNodes : List Node → List Node
  | [] => []
  | node :: rest => if node.isComment then bareNodes rest else node.bare :: bareNodes rest

end

/-- A comment is left out. -/
theorem bareNodes_comment (content : String) (rest : List Node) :
    bareNodes (.comment content :: rest) = bareNodes rest := rfl

/-- An element stays, without the comments inside it. -/
theorem bareNodes_element (tag : Tag) (children rest : List Node) :
    bareNodes (.element tag children :: rest) =
      .element tag (bareNodes children) :: bareNodes rest := rfl

/-- Whether nodes are others of which some comments are left out, at any depth. All other nodes stay
as they are; texts that a comment stood between stay apart. -/
inductive Uncommented : List Node → List Node → Prop
  | nil : Uncommented [] []
  | drop (content : String) {nodes kept : List Node} (h : Uncommented nodes kept) :
      Uncommented (.comment content :: nodes) kept
  | keep (node : Node) {nodes kept : List Node} (h : Uncommented nodes kept) :
      Uncommented (node :: nodes) (node :: kept)
  | inside (tag : Tag) {children keptChildren nodes kept : List Node}
      (hchildren : Uncommented children keptChildren) (h : Uncommented nodes kept) :
      Uncommented (.element tag children :: nodes) (.element tag keptChildren :: kept)

/-- Nodes of which some comments are left out are the same without any comments. -/
theorem Uncommented.bareNodes_eq {nodes kept : List Node} (h : Uncommented nodes kept) :
    bareNodes nodes = bareNodes kept := by
  induction h with
  | nil => rfl
  | drop content _ ih => rw [bareNodes_comment, ih]
  | keep node _ ih => rw [bareNodes, bareNodes, ih]
  | inside tag _ _ ihChildren ih => rw [bareNodes_element, bareNodes_element, ihChildren, ih]

/-- The elements among nodes without comments are the elements among them, without comments. -/
theorem filterMap_element?_bareNodes (nodes : List Node) :
    (bareNodes nodes).filterMap Node.element? =
      (nodes.filterMap Node.element?).map fun element => ⟨element.tag, bareNodes element.children⟩ := by
  induction nodes with
  | nil => rfl
  | cons node rest ih =>
    rw [bareNodes]
    cases node with
    | element tag children => exact congrArg (_ :: ·) ih
    | _ => exact ih

/-- The texts among nodes are there without comments. -/
theorem filterMap_text?_bareNodes (nodes : List Node) :
    (bareNodes nodes).filterMap Node.text? = nodes.filterMap Node.text? := by
  induction nodes with
  | nil => rfl
  | cons node rest ih =>
    rw [bareNodes]
    cases node with
    | text content => exact congrArg (content :: ·) ih
    | cdata content => exact congrArg (content :: ·) ih
    | _ => exact ih

namespace Element

/-- An element without the comments inside it. -/
def bare (element : Element) : Element := ⟨element.tag, bareNodes element.children⟩

/-- Whether an element is another one of which some comments are left out. -/
structure Uncommented (element kept : Element) : Prop where
  tag : kept.tag = element.tag
  children : Xml.Uncommented element.children kept.children

variable (element : Element) (name : String)

/-- Elements of which some comments are left out are the same without any comments. -/
theorem Uncommented.bare_eq {element kept : Element} (h : element.Uncommented kept) :
    kept.bare = element.bare := by
  rw [bare, bare, h.tag, h.children.bareNodes_eq]

/-- What gives the same without comments gives the same for elements that differ in comments only. -/
theorem Uncommented.congr {α : Type} {element kept : Element} (h : element.Uncommented kept)
    (read : Element → α) (hread : ∀ element, read element.bare = read element) :
    read kept = read element := by
  rw [← hread kept, h.bare_eq, hread element]

/-- Comments do not change the name. -/
@[simp] theorem bare_name : element.bare.name = element.name := rfl

/-- Comments are no child elements. -/
@[simp] theorem bare_elements : element.bare.elements = element.elements.map bare :=
  filterMap_element?_bareNodes element.children

/-- The children of a name are found without comments. -/
@[simp] theorem bare_named : element.bare.named name = (element.named name).map bare := by
  rw [named, bare_elements, List.filter_map]
  rfl

/-- The first child of a name is found without comments. -/
@[simp] theorem bare_child? : element.bare.child? name = (element.child? name).map bare := by
  rw [child?, bare_named, List.head?_map, child?]

/-- Comments are no part of the text, and do not end it. -/
@[simp] theorem bare_text? : element.bare.text? = element.text? := by
  rw [text?, text?, bare, filterMap_text?_bareNodes]

/-- The text of a child is the same without comments. -/
@[simp] theorem bare_textOf : element.bare.textOf name = element.textOf name := by
  rw [textOf, textOf, bare_child?]
  cases element.child? name with
  | none => rfl
  | some child => rw [Option.map_some, Option.bind_some, Option.bind_some, bare_text?]

/-- Comments do not change the attributes. -/
@[simp] theorem bare_attribute? : element.bare.attribute? name = element.attribute? name := rfl

end Element

end NatGateway.Xml
