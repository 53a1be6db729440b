import NatGateway.Proofs.Xml.Comments
import NatGateway.Soap.Envelope

/-!
# Comments in an answer

An envelope answers the same without comments. Comments between arguments are passed over, those
inside an argument do not end its text, and those in front of a node that is refused do not change the
failure: it names the node or its text and not its place.
-/

namespace NatGateway.Soap

open NatGateway.Xml

/-- The text of an argument is the same without comments, and so is the failure. -/
theorem argumentText_bareNodes (name : String) (nodes : List Node) :
    Answer.argumentText name (bareNodes nodes) = Answer.argumentText name nodes := by
  induction nodes with
  | nil => rfl
  | cons node rest ih =>
    cases node with
    | comment content => exact ih
    | text content => exact congrArg (·.map (content ++ ·)) ih
    | cdata content => exact congrArg (·.map (content ++ ·)) ih
    | element tag children => rfl
    | instruction target content => rfl

/-- An argument is the same without comments. -/
theorem argument_bareNodes (tag : Tag) (children : List Node) :
    Answer.argument tag (bareNodes children) = Answer.argument tag children := by
  simp only [Answer.argument, argumentText_bareNodes]

/-- Arguments are the same without comments, and so is the failure of the first child that offends. -/
theorem arguments_bareNodes (nodes : List Node) :
    Answer.arguments (bareNodes nodes) = Answer.arguments nodes := by
  induction nodes with
  | nil => rfl
  | cons node rest ih =>
    cases node with
    | comment content => exact ih
    | text content => exact congrArg (Answer.passText content) ih
    | cdata content => exact congrArg (Answer.passText content) ih
    | element tag children =>
      rw [bareNodes_element, Answer.arguments, Answer.arguments, argument_bareNodes, ih]
    | instruction target content => rfl

variable (element : Element)

/-- The element of an action tells the same without comments. -/
@[simp] theorem Answer.ofElement_bare : Answer.ofElement element.bare = Answer.ofElement element := by
  rw [Answer.ofElement, Element.bare, arguments_bareNodes]
  rfl

/-- A fault tells the same without comments. -/
@[simp] theorem Fault.ofElement_bare : Fault.ofElement element.bare = Fault.ofElement element := by
  have hdetail : (element.bare.child? "detail").bind (·.child? "UPnPError") =
      ((element.child? "detail").bind (·.child? "UPnPError")).map Element.bare := by
    rw [Element.bare_child?]
    cases element.child? "detail" with
    | none => rfl
    | some detail => exact detail.bare_child? "UPnPError"
  rw [Fault.ofElement, Fault.ofElement, hdetail]
  cases (element.child? "detail").bind (·.child? "UPnPError") <;>
    simp only [Option.map_none, Option.map_some, Element.bare_textOf]

/-- The first element of a kind is the same without comments, if it does not depend on comments of
which kind an element is. -/
theorem find?_bare (kind : Element → Bool) (h : ∀ element, kind element.bare = kind element)
    (elements : List Element) :
    (elements.map Element.bare).find? kind = (elements.find? kind).map Element.bare := by
  rw [List.find?_map]
  exact congrArg (Option.map Element.bare) (congrArg (elements.find? ·) (funext h))

/-- The root of an envelope answers the same without comments. -/
theorem Envelope.result_ofElement_bare :
    (Envelope.ofElement element.bare).bind Envelope.result =
      (Envelope.ofElement element).bind Envelope.result := by
  rw [Envelope.ofElement, Envelope.ofElement, Element.bare_name, Element.bare_child?]
  split
  · rfl
  · cases element.child? "Body" with
    | none => rfl
    | some body =>
      simp only [Option.map_some, Element.bare_elements, Except.bind, Envelope.result,
        find?_bare (·.name == "Fault") fun _ => rfl,
        find?_bare (·.name != "Fault") fun _ => rfl]
      cases body.elements.find? (·.name == "Fault") with
      | some fault => simp
      | none => cases body.elements.find? (·.name != "Fault") <;> simp

end NatGateway.Soap
