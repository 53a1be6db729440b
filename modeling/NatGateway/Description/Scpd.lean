import NatGateway.Description.Fields
import NatGateway.Text.Ascii

/-!
# Service control protocol descriptions

What a service offers: its actions with their arguments, and its state variables.
-/

namespace NatGateway.Description

open NatGateway.Xml (Element)

/-- Whether an argument is given to an action or returned by it. -/
inductive Direction where
  | input
  | output
deriving DecidableEq

/-- The word for a direction. -/
def Direction.word : Direction → String
  | .input => "in"
  | .output => "out"

/-- An argument of an action. -/
structure Argument where
  name : String
  direction : Direction
  relatedVariable : String
deriving DecidableEq

/-- An action of a service. -/
structure ScpdAction where
  name : String
  arguments : List Argument
deriving DecidableEq

/-- A variable of the state of a service. -/
structure StateVariable where
  name : String
  dataType : String
  sendsEvents : Bool
  default? : Option String
  allowed : List String
deriving DecidableEq

/-- What a service offers. -/
structure Scpd where
  version : SpecVersion
  actions : List ScpdAction
  stateVariables : List StateVariable
deriving DecidableEq

/-- The arguments given to an action, in order. -/
def ScpdAction.inputs (action : ScpdAction) : List Argument :=
  action.arguments.filter (·.direction = .input)

/-- The arguments returned by an action, in order. -/
def ScpdAction.outputs (action : ScpdAction) : List Argument :=
  action.arguments.filter (·.direction = .output)

/-- Read the word for a direction. -/
def Direction.ofText (text : String) : Except DescriptionError Direction :=
  if text = "in" then .ok .input
  else if text = "out" then .ok .output
  else .error (.invalidValue "direction" text)

/-- Read an argument. -/
def Argument.ofElement (element : Element) : Except DescriptionError Argument :=
  (Direction.ofText (element.textOf "direction")).map fun direction =>
    ⟨element.textOf "name", direction, element.textOf "relatedStateVariable"⟩

/-- Read an action. -/
def ScpdAction.ofElement (element : Element) : Except DescriptionError ScpdAction :=
  ((itemsOf element "argumentList" "argument").mapM Argument.ofElement).map fun arguments =>
    ⟨element.textOf "name", arguments⟩

/-- Read a state variable. A variable has a default as soon as there is an element for it. -/
def StateVariable.ofElement (element : Element) : StateVariable where
  name := element.textOf "name"
  dataType := element.textOf "dataType"
  sendsEvents :=
    match element.attribute? "sendEvents" with
    | some value => Text.sameIgnoringCase (Text.trim value) "yes"
    | none => false
  default? := (element.child? "defaultValue").map fun _ => element.textOf "defaultValue"
  allowed :=
    ((itemsOf element "allowedValueList" "allowedValue").filterMap (·.text?)).map Text.trim

namespace Scpd

/-- Read the description of a service. -/
def ofBytes (bytes : Text.Bytes) : Except DescriptionError Scpd :=
  (rootOf "scpd" bytes).bind fun root =>
    (SpecVersion.ofElement root).bind fun version =>
      ((itemsOf root "actionList" "action").mapM ScpdAction.ofElement).map fun actions =>
        ⟨version, actions,
          (itemsOf root "serviceStateTable" "stateVariable").map StateVariable.ofElement⟩

/-- The first action of a name. -/
def findAction? (scpd : Scpd) (name : String) : Option ScpdAction :=
  scpd.actions.find? (·.name == name)

/-- The first variable of a name. -/
def findVariable? (scpd : Scpd) (name : String) : Option StateVariable :=
  scpd.stateVariables.find? (·.name == name)

end Scpd

end NatGateway.Description
