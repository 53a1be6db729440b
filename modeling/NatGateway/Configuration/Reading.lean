import NatGateway.Configuration.Document
import NatGateway.Text.Blank

/-!
# Reading settings

Settings of a kind at a path of a document, with a default for those that are missing or of another
kind. Texts count as numbers if they are written like one; numbers that cannot be used are warned
about.
-/

namespace NatGateway.Configuration

open NatGateway.Yaml (Value)

/-- A setting, and the warnings about it. -/
abbrev Warned (α : Type) := α × List String

/-- The warning about a number that is not unsigned or has more than 64 bits. -/
def numberWarning (path : List String) (default : Nat) : String :=
  shownPath path ++ " is not an unsigned integer, using default " ++ toString default

/-- The warning about a text that is no number. -/
def textWarning (path : List String) (text : String) (default : Nat) : String :=
  "Invalid value '" ++ text ++ "' for " ++ shownPath path ++ ", using default " ++
    toString default

/-- The unsigned integer at a path. -/
def readUnsigned (document : Value) (path : List String) (default : Nat) : Warned Nat :=
  match find document path with
  | .ok (.number number) =>
      match number.unsigned? with
      | some value => (value, [])
      | none => (default, [numberWarning path default])
  | .ok (.string text) =>
      match Text.IntegerType.u64.read (Text.trimmed text.toList) with
      | .ok value => (value.toNat, [])
      | .error _ => (default, [textWarning path text default])
  | _ => (default, [])

/-- The text at a path, which a number counts as too but an empty text does not. -/
def readText (document : Value) (path : List String) (default : String) : String :=
  match find document path with
  | .ok (.string text) => if text.isEmpty then default else text
  | .ok (.number number) => number.text
  | _ => default

/-- The text at a path that is not a number. -/
def readWord (document : Value) (path : List String) (default : String) : String :=
  match find document path with
  | .ok (.string text) => if text.isEmpty then default else text
  | _ => default

/-- The truth value at a path. -/
def readFlag (document : Value) (path : List String) (default : Bool) : Bool :=
  match find document path with
  | .ok (.bool value) => value
  | _ => default

/-- Where the least level of messages is set. -/
def levelPath : List String := ["host", "logger", "min_level"]

/-- Where it is set whether messages go to the console. -/
def consolePath : List String := ["host", "logger", "enable_console"]

/-- The least level of messages. -/
def readLevel (document : Value) : String := readWord document levelPath "INFO"

/-- Whether messages go to the console. -/
def readConsole (document : Value) : Bool := readFlag document consolePath true

end NatGateway.Configuration
