import NatGateway.Xml.Markup
import NatGateway.Xml.Node

/-!
# Namespaces

The prefixes that are in force at an element, and the tag that a start tag denotes under them. An
element adds its own declarations to those of its parent; declarations are not attributes.
-/

namespace NatGateway.Xml

/-- Prefixes with their namespaces, the nearest declaration first. The empty prefix stands for
unqualified elements, the empty namespace for none. -/
abbrev Bindings := List (String × String)

/-- The namespace of the prefix `xml`. -/
def xmlUri : String := "http://www.w3.org/XML/1998/namespace"

/-- The namespace of declarations of namespaces. -/
def xmlnsUri : String := "http://www.w3.org/2000/xmlns/"

/-- The bindings that hold in every document. -/
def Bindings.base : Bindings := [("xml", xmlUri), ("xmlns", xmlnsUri), ("", "")]

/-- What an attribute declares, if it is a declaration. -/
inductive Declaration where
  | none
  | binds (qualifier uri : String)
  | refused

/-- Read an attribute as a declaration. The reserved prefixes and namespaces cannot be declared
anew, and a prefix cannot be undeclared. -/
def Attribute.declaration (attr : Attribute) : Declaration :=
  if attr.name = ⟨Option.none, "xmlns"⟩ then
    if ["xml", "xmlns", xmlUri, xmlnsUri].contains attr.value then .refused
    else .binds "" attr.value
  else if attr.name.qualifier = some "xmlns" then
    if attr.name.name = "xmlns" then .refused
    else if attr.name.name = "xml" && attr.value != xmlUri then .refused
    else if attr.value.isEmpty then .refused
    else .binds attr.name.name attr.value
  else .none

/-- Separate declarations from attributes proper, in order. No attribute may be written twice. -/
def separate : List Attribute → Option (Bindings × List Attribute)
  | [] => some ([], [])
  | attr :: rest =>
      (separate rest).bind fun (bindings, attributes) =>
        match attr.declaration with
        | .refused => none
        | .binds qualifier uri => some ((qualifier, uri) :: bindings, attributes)
        | .none =>
            if attributes.any (·.name == attr.name) then none
            else some (bindings, attr :: attributes)

/-- The namespace of an element name: `none` if its prefix is not bound. -/
def Bindings.uri? (bindings : Bindings) (name : QName) : Option (Option String) :=
  if name.qualifier = some "xml" || name.qualifier = some "xmlns" then none
  else
    (bindings.lookup (name.qualifier.getD "")).map fun uri =>
      if uri.isEmpty then none else some uri

/-- Whether the prefix of an attribute, if it has one, is bound. -/
def Bindings.binds (bindings : Bindings) (name : QName) : Bool :=
  match name.qualifier with
  | none => true
  | some qualifier => (bindings.lookup qualifier).isSome

/-- Put a value under a key; an earlier value of that key gives way. -/
def setAttribute (attributes : List (String × String)) (name value : String) :
    List (String × String) :=
  attributes.filter (·.1 != name) ++ [(name, value)]

/-- The tag that a start tag denotes inside `parent`, and the bindings inside its element. -/
def Tag.resolve? (parent : Bindings) (name : QName) (attributes : List Attribute) :
    Option (Tag × Bindings) :=
  (separate attributes).bind fun (own, attributes) =>
    let bindings := own ++ parent
    (bindings.uri? name).bind fun uri =>
      if attributes.all (bindings.binds ·.name) then
        some (⟨name.name, name.qualifier, uri, attributes.foldl
          (fun kept attr => setAttribute kept attr.name.name attr.value) []⟩, bindings)
      else none

end NatGateway.Xml
