import NatGateway.Soap.Schema
import NatGateway.Text.Letter

/-!
# Actions

A request to a service: the namespace of the service, the name of the action and its arguments. The
name is given with the action, or comes with the arguments. An action is written as an envelope and
named in a header of the request.
-/

namespace NatGateway.Soap

/-- Arguments of a declared kind, with the names an action may take from them. -/
structure DeclaredArguments where
  typeName : String
  tag : Option String
  givenName : Option String
  fields : List (String × String)

/-- The arguments of an action: declared ones, or a list of pairs, which carries no name. -/
inductive Payload where
  | declared (arguments : DeclaredArguments)
  | listed (entries : List (String × String))

namespace Payload

/-- No arguments, and no name. -/
def empty : Payload := .declared ⟨"", none, none, []⟩

/-- The arguments of a record. -/
def ofRecord (schema : Schema) (record : Record) : Payload :=
  .declared ⟨schema.name, schema.action, none, schema.entries record⟩

/-- Give declared arguments a name for their action. -/
def withName (payload : Payload) (name : String) : Payload :=
  match payload with
  | .declared arguments => .declared { arguments with givenName := some name }
  | .listed entries => .listed entries

/-- A text, unless it is empty. -/
def nonEmpty? (text : String) : Option String := if text.isEmpty then none else some text

/-- The name that the arguments carry: the given one, the tag, or the name of their kind. -/
def name? : Payload → Option String
  | .declared arguments =>
      (arguments.givenName.bind nonEmpty?) <|> arguments.tag <|> nonEmpty? arguments.typeName
  | .listed _ => none

/-- The arguments in the order in which they are written. -/
def entries : Payload → List (String × String)
  | .declared arguments => arguments.fields
  | .listed entries => entries

end Payload

/-- A request to a service. -/
structure Action where
  uri : String
  givenName : Option String
  payload : Payload

namespace Action

/-- Give an action its name; the empty name is none. -/
def withName (action : Action) (name : String) : Action :=
  { action with givenName := Payload.nonEmpty? name }

/-- The name of an action; empty if it has none. -/
def name (action : Action) : String := (action.givenName <|> action.payload.name?).getD ""

/-- The value of the header that names the action, with its quotes. -/
def header (action : Action) : String := "\"" ++ action.uri ++ "#" ++ action.name ++ "\""

/-- Whether a text can be the name of an element: it starts with a letter or an underscore, and
goes on with letters, numbers, underscores, hyphens and points. -/
def isElementName (name : String) : Bool :=
  match name.toList with
  | [] => false
  | c :: rest =>
      (Text.isAlphabetic c || c == '_') &&
        rest.all fun c => Text.isAlphanumeric c || c == '_' || c == '-' || c == '.'

/-- Write an action as an envelope, unless its name or that of an argument cannot be an element. -/
def encode (action : Action) : Except SoapError String :=
  if !isElementName action.name then .error (.invalidName action.name)
  else
    match action.payload.entries.find? fun entry => !isElementName entry.1 with
    | some entry => .error (.invalidName entry.1)
    | none =>
        .ok (writtenEnvelope
          (Xml.enclosed ("u:" ++ action.name) [("xmlns:u", action.uri)]
            (String.join (action.payload.entries.map fun entry =>
              Xml.textElement entry.1 entry.2))))

end Action

end NatGateway.Soap
