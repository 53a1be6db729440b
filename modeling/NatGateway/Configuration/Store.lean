import NatGateway.Configuration.Defaults
import NatGateway.Configuration.Document
import NatGateway.Configuration.System
import NatGateway.Yaml.Document
import NatGateway.Yaml.Writer

/-!
# Stored configurations

A configuration lives in a folder, as one file. It is loaded by laying the file over the default
document and the variables of the environment over both, and it is saved after every change. How a
document is written in a file is left to a format.
-/

namespace NatGateway

open NatGateway.Text (Bytes)
open NatGateway.Yaml (Value)

/-- A configuration: the folder that it was loaded from, and its document. -/
structure Configuration where
  folder : String
  document : Value

namespace Configuration

/-- How documents are read from files and written to them. -/
structure Format where
  read : Bytes → Option Value
  write : Value → Option String

/-- The format of the configuration file. -/
def yaml : Format := ⟨Yaml.value?, Yaml.Value.text?⟩

/-- A configuration and its surroundings. -/
structure Store where
  system : System
  configuration : Configuration

/-- Operations that may fail. What they did before stays done. -/
abbrev Action (σ : Type) := ExceptT ConfigurationError (StateM σ)

/-- The variable that names the folder of the configuration. -/
def folderVariable : String := "PMONAT_CONFIG"

/-- What the names of the variables begin with that change settings. -/
def settingVariable : String := "PMONAT_CONFIG__"

/-- The folder of a configuration where none is named. -/
def usualFolder : String := ".pmonat"

/-- The name of the file. -/
def fileName : String := "config.yaml"

/-- The folder of a home, if there is one. -/
def homeFolder? (system : System) : Option String :=
  match system.environment.lookup "HOME" with
  | some home => if home.isEmpty then none else some (System.join home usualFolder)
  | none => none

/-- The folder of a configuration: the given one, the one that the environment names, or the usual
one here or at home, whichever exists. -/
def chosenFolder (system : System) (given : String) : String :=
  if !given.isEmpty then given
  else
    match system.environment.lookup folderVariable with
    | some folder => folder
    | none =>
        if system.hasPath usualFolder then usualFolder
        else
          match homeFolder? system with
          | some folder => if system.hasPath folder then folder else usualFolder
          | none => usualFolder

/-- Change the surroundings, or fail. -/
def attempt (change : System → Option System) : Action System Unit := do
  match change (← get) with
  | some system => set system
  | none => throw .system

/-- Choose the folder of a configuration and see to it that it exists and can be written to. -/
def prepareFolder (given : String) : Action System String := do
  let folder := chosenFolder (← get) given
  if !(← get).hasPath folder then attempt (·.makeFolders folder)
  if !(← get).hasFolder folder then throw .notFolder
  attempt (·.writeIn folder ".write_test" (Text.utf8Bytes "test"))
  modify (·.removeIn folder ".write_test")
  return folder

/-- Drop a beginning of a text as often as it is there. -/
def dropAll (start : List Char) : Nat → List Char → List Char
  | 0, cs => cs
  | fuel + 1, cs =>
      if start.isPrefixOf cs && !start.isEmpty then dropAll start fuel (cs.drop start.length)
      else cs

/-- Cut a text at every pair of underscores, from the left. -/
def splitPairs : List Char → List (List Char)
  | [] => [[]]
  | '_' :: '_' :: rest => [] :: splitPairs rest
  | c :: rest =>
      match splitPairs rest with
      | piece :: pieces => (c :: piece) :: pieces
      | [] => [[c]]

/-- The path of the setting that a variable changes, if it changes any. -/
def variablePath? (name : String) : Option (List String) :=
  if !Text.beginsWith name settingVariable then none
  else
    let cs := name.toList
    let path := splitPairs (dropAll settingVariable.toList cs.length cs)
    some (path.map String.ofList)

/-- The value that a variable gives: a document if it is one, and a text otherwise. -/
def variableValue (format : Format) (text : String) : Value :=
  (format.read (Text.utf8Bytes text)).getD (.string text)

/-- Lay a variable over a document. Where that is not possible it has no effect. -/
def withVariable (format : Format) (document : Value) (given : String × String) : Value :=
  match variablePath? given.1 with
  | some path =>
      match update document path (variableValue format given.2) with
      | .ok document => document
      | .error _ => document
  | none => document

/-- Lay variables over a document one after another. -/
def withVariables (format : Format) (document : Value) (environment : List (String × String)) :
    Value :=
  environment.foldl (withVariable format) document

/-- The document of a file, if there is a file, under the variables and over the defaults. -/
def loaded (format : Format) (file : Option Bytes) (environment : List (String × String)) :
    Except ConfigurationError Value :=
  let external :=
    match file with
    | some bytes => format.read bytes
    | none => some defaults
  match external with
  | some external =>
      .ok (withVariables format (merge (lowerKeys defaults) (lowerKeys external)) environment)
  | none => .error .document

/-- Save a configuration in its folder. -/
def save (configuration : Configuration) (format : Format) : Action System Unit := do
  match format.write configuration.document with
  | some text => attempt (·.writeIn configuration.folder fileName (Text.utf8Bytes text))
  | none => throw .document

/-- Load a configuration, and save what was loaded. -/
def load (format : Format) (given : String) : Action System Configuration := do
  let folder ← prepareFolder given
  let system ← get
  let document ← loaded format (system.content? (System.join folder fileName)) system.environment
  let configuration : Configuration := ⟨folder, document⟩
  configuration.save format
  return configuration

namespace Store

/-- Save the configuration. -/
def save (format : Format) : Action Store Unit := do
  let store ← get
  let (outcome, system) := (store.configuration.save format).run.run store.system
  set { store with system := system }
  liftExcept outcome
where
  /-- An outcome as an operation. -/
  liftExcept (outcome : Except ConfigurationError Unit) : Action Store Unit :=
    match outcome with
    | .ok () => return ()
    | .error error => throw error

/-- Change the document at a path, without saving. -/
def change (path : List String) (value : Value) : Action Store Unit := do
  let store ← get
  match update store.configuration.document path value with
  | .ok document =>
      set { store with configuration := { store.configuration with document := document } }
  | .error error => throw error

/-- Put a value at a path, and save. -/
def put (format : Format) (path : List String) (value : Value) : Action Store Unit := do
  change path value
  save format

end Store

end Configuration

end NatGateway
