import NatGateway.Description.Reference
import NatGateway.Text.Integer
import NatGateway.Xml.Document

/-!
# Fields of a description

What devices and service descriptions have in common: lists of elements, whole numbers, references
and the version of the specification.
-/

namespace NatGateway.Description

open NatGateway.Xml (Element)

/-- The items of a list: the elements of a name inside the first child of another name. -/
def itemsOf (element : Element) (list item : String) : List Element :=
  match element.child? list with
  | some list => list.named item
  | none => []

/-- A whole number: zero if its element is absent or blank. -/
def numberOf (element : Element) (name : String) : Except DescriptionError Int :=
  let text := element.textOf name
  if text.isEmpty then .ok 0
  else
    match Text.IntegerType.i32.read text.toList with
    | .ok value => .ok value
    | .error _ => .error (.invalidValue name text)

/-- A reference that is not resolved yet. -/
def referenceOf (element : Element) (name : String) : Reference :=
  .ofText (element.textOf name)

/-- The version of the specification that a description follows. -/
structure SpecVersion where
  major : Int
  minor : Int
deriving DecidableEq

/-- Read the version of the specification; it is zero if the description has none. -/
def SpecVersion.ofElement (root : Element) : Except DescriptionError SpecVersion :=
  match root.child? "specVersion" with
  | none => .ok ⟨0, 0⟩
  | some version =>
      (numberOf version "major").bind fun major =>
        (numberOf version "minor").map fun minor => ⟨major, minor⟩

/-- Read bytes as a document whose root has a name. -/
def rootOf (name : String) (bytes : Text.Bytes) : Except DescriptionError Element :=
  match Element.ofBytes? bytes with
  | none => .error .malformed
  | some root =>
      if root.name = name then .ok root else .error (.unexpectedRoot name root.name)

end NatGateway.Description
