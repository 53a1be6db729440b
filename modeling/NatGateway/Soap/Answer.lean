import NatGateway.Soap.Error
import NatGateway.Soap.Value

/-!
# Arguments of an answer

Reading the element of an action as a list of arguments. Arguments are plain elements: attributes,
namespaces, nested elements, instructions and text between arguments are refused, comments are
passed over. The first child that offends decides the failure.
-/

namespace NatGateway.Soap

open NatGateway.Xml (Node Tag Element)

/-- The arguments of an answer, in order, under the name and namespace of its element. -/
structure Answer where
  action : String
  uri : Option String
  entries : List (String × String)
deriving DecidableEq

namespace Answer

/-- An answer without arguments. -/
def empty : Answer := ⟨"", none, []⟩

/-- How attributes are shown. -/
def shownAttributes (attributes : List (String × String)) : String :=
  "\x7b" ++ String.intercalate ", "
    (attributes.map fun (name, value) => Text.quoted name ++ ": " ++ Text.quoted value) ++ "\x7d"

/-- How an instruction is shown. -/
def shownInstruction (target : String) : String := "<?" ++ target ++ "?>"

/-- The text of an argument: its texts and CDATA sections, joined. -/
def argumentText (name : String) : List Node → Except SoapError String
  | [] => .ok ""
  | .text content :: rest => (argumentText name rest).map (content ++ ·)
  | .cdata content :: rest => (argumentText name rest).map (content ++ ·)
  | .comment _ :: rest => argumentText name rest
  | .element nested _ :: _ =>
      .error (.unexpectedToken ("<" ++ nested.name ++ "> inside argument " ++ name))
  | .instruction target _ :: _ => .error (.unexpectedToken (shownInstruction target))

/-- Read an element as an argument. -/
def argument (tag : Tag) (children : List Node) : Except SoapError (String × String) :=
  if !tag.attributes.isEmpty then
    .error (.unexpectedAttribute (shownAttributes tag.attributes))
  else
    match tag.uri with
    | some uri =>
        if uri.isEmpty then (argumentText tag.name children).map (tag.name, ·)
        else .error (.unexpectedNamespace uri)
    | none => (argumentText tag.name children).map (tag.name, ·)

/-- Text between arguments has to be blank. -/
def passText (content : String) (rest : Except SoapError (List (String × String))) :
    Except SoapError (List (String × String)) :=
  if Text.isBlankText content then rest else .error (.strayText content)

/-- Read the children of an action as arguments, in order. -/
def arguments : List Node → Except SoapError (List (String × String))
  | [] => .ok []
  | .element tag children :: rest =>
      (argument tag children).bind fun entry => (arguments rest).map (entry :: ·)
  | .text content :: rest => passText content (arguments rest)
  | .cdata content :: rest => passText content (arguments rest)
  | .comment _ :: rest => arguments rest
  | .instruction target _ :: _ => .error (.unexpectedToken (shownInstruction target))

/-- Read the element of an action. -/
def ofElement (element : Element) : Except SoapError Answer :=
  (arguments element.children).map fun entries => ⟨element.name, element.tag.uri, entries⟩

/-- The text of the first argument of a name. -/
def get? (answer : Answer) (name : String) : Option String := answer.entries.lookup name

/-- Read the text of an argument as a value. -/
def readEntry (type : ValueType) (name text : String) : Except SoapError Value :=
  match type.read text with
  | .ok value => .ok value
  | .error error => .error (.invalidValue name error.message)

/-- The first argument of a name as a value, absent if there is no such argument. -/
def value? (answer : Answer) (type : ValueType) (name : String) :
    Except SoapError (Option Value) :=
  match answer.get? name with
  | none => .ok none
  | some text => (readEntry type name text).map some

/-- All arguments as values of one type, in order. -/
def values (answer : Answer) (type : ValueType) : Except SoapError (List (String × Value)) :=
  answer.entries.mapM fun (name, text) => (readEntry type name text).map (name, ·)

/-- Put a value under its key in a list sorted by key; an earlier value of the key gives way. -/
def insertSorted {α : Type} (key : String) (value : α) : List (String × α) → List (String × α)
  | [] => [(key, value)]
  | (other, present) :: rest =>
      if key < other then (key, value) :: (other, present) :: rest
      else if key = other then (key, value) :: rest
      else (other, present) :: insertSorted key value rest

/-- The pairs as a map sorted by key, in which the last value of a key counts. -/
def sortedMap {α : Type} (pairs : List (String × α)) : List (String × α) :=
  pairs.foldl (fun map pair => insertSorted pair.1 pair.2 map) []

end Answer

end NatGateway.Soap
