import NatGateway.Configuration.Error
import NatGateway.Text.LowerCase
import NatGateway.Yaml.Value

/-!
# Documents of settings

Looking up and changing what a document holds at a path of names. Names are told apart in lower
case only, so a document has its keys in lower case before it is used. Documents are merged by
laying one over the other: mappings are united entry by entry, and everything else is replaced.
-/

namespace NatGateway.Configuration

open NatGateway.Yaml (Value)

/-- The key of a name. -/
def keyOf (name : String) : Value := .string (Text.lower name)

/-- What a document holds at a path, of which `walked` has been followed already. -/
def findFrom (walked : List String) : Value → List String → Except ConfigurationError Value
  | document, [] => .ok document
  | .mapping entries, name :: rest =>
      match Value.lookup? (keyOf name) entries with
      | some next => findFrom (walked ++ [name]) next rest
      | none => .error (.missing (walked ++ [name]))
  | _, _ :: _ => .error (.notMapping walked)

/-- What a document holds at a path. -/
def find (document : Value) (path : List String) : Except ConfigurationError Value :=
  findFrom [] document path

/-- Put a value at a path of a document. Mappings that the path needs are made, but nothing that is
no mapping gives way to one. -/
def update : Value → List String → Value → Except ConfigurationError Value
  | _, [], new => .ok new
  | .mapping entries, name :: rest, new =>
      let inner := (Value.lookup? (keyOf name) entries).getD (.mapping [])
      (update inner rest new).map fun inner => .mapping (Value.insert (keyOf name) inner entries)
  | _, _ :: _, _ => .error .blocked

mutual

/-- Lay a value over another. -/
def merge (lower : Value) : Value → Value
  | .mapping upper =>
      match lower with
      | .mapping entries => .mapping (mergeEntries entries upper)
      | _ => .mapping upper
  | upper => upper

/-- Lay entries over others. -/
def mergeEntries (lower : List (Value × Value)) : List (Value × Value) → List (Value × Value)
  | [] => lower
  | (key, value) :: rest =>
      let merged :=
        match Value.lookup? key lower with
        | some known => merge known value
        | none => value
      mergeEntries (Value.insert key merged lower) rest

end

/-- A key with its name in lower case, if it is a name. -/
def lowerKey : Value → Value
  | .string name => keyOf name
  | key => key

mutual

/-- A document with its keys in lower case. Of several entries that get the same key, the last one
counts. What is under a tag stays as it is. -/
def lowerKeys : Value → Value
  | .mapping entries => .mapping (lowerEntries [] entries)
  | .sequence items => .sequence (lowerItems items)
  | value => value

/-- Values with their keys in lower case. -/
def lowerItems : List Value → List Value
  | [] => []
  | item :: rest => lowerKeys item :: lowerItems rest

/-- Entries with their keys in lower case, behind those that were put in before. -/
def lowerEntries (known : List (Value × Value)) : List (Value × Value) → List (Value × Value)
  | [] => known
  | (key, value) :: rest =>
      lowerEntries (Value.insert (lowerKey key) (lowerKeys value) known) rest

end

end NatGateway.Configuration
