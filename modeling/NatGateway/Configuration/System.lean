import NatGateway.Text.Ascii
import NatGateway.Text.Utf8

/-!
# Files and variables

What a configuration finds around it: folders and files, the folder that relative paths start from,
and the variables of the environment. There are no links, so that every path leads to one place.
-/

namespace NatGateway.Configuration

open NatGateway.Text (Bytes)

/-- What stands at a place: a folder, or a file with its content. -/
inductive Entry where
  | folder
  | file (content : Bytes)
deriving DecidableEq

/-- Where something stands: the names of the folders around it from the outermost on, and its own
name. -/
abbrev Location := List String

/-- The surroundings of a configuration. -/
structure System where
  current : Location
  environment : List (String × String)
  entries : List (Location × Entry)

namespace System

/-- What stands at a location. The outermost folder always exists. -/
def entryAt? (system : System) (location : Location) : Option Entry :=
  if location.isEmpty then some .folder else system.entries.lookup location

/-- Put something at a location. -/
def put (system : System) (location : Location) (entry : Entry) : System :=
  { system with
    entries := (location, entry) :: system.entries.filter fun known => known.1 != location }

/-- Take away what stands at a location. -/
def remove (system : System) (location : Location) : System :=
  { system with entries := system.entries.filter fun known => known.1 != location }

/-- Whether a text can be the name of something. -/
def isName (name : String) : Bool := name.utf8ByteSize ≤ 255 && !name.toList.contains '\x00'

/-- The steps of a path. A path that ends with a slash goes on into a folder. -/
def steps (path : String) : List String :=
  ((Text.splitChars '/' path.toList).map String.ofList).filter fun step => !step.isEmpty

/-- Whether a path only leads to folders. -/
def endsInFolder (path : String) : Bool := Text.endsWith path "/"

/-- Where a path starts. -/
def origin (system : System) (path : String) : Location :=
  if Text.beginsWith path "/" then [] else system.current

/-- One step from a folder: to itself, to the folder around it, or to something in it. -/
def stepFrom (folder : Location) (step : String) : Location :=
  if step = "." then folder
  else if step = ".." then folder.dropLast
  else folder ++ [step]

/-- The place that steps lead to. All but the last have to lead to folders, and the last one to
something. -/
def follow (system : System) (folder : Location) : List String → Option (Location × Entry)
  | [] => some (folder, .folder)
  | step :: rest =>
      let next := stepFrom folder step
      match system.entryAt? next with
      | some .folder => system.follow next rest
      | some (.file content) => if rest.isEmpty then some (next, .file content) else none
      | none => none

/-- What a path leads to. An empty path leads nowhere. -/
def find? (system : System) (path : String) : Option (Location × Entry) :=
  if path.isEmpty then none
  else
    match system.follow (system.origin path) (steps path) with
    | some (location, .file content) =>
        if endsInFolder path then none else some (location, .file content)
    | found => found

/-- Whether a path leads to anything. -/
def hasPath (system : System) (path : String) : Bool := (system.find? path).isSome

/-- Whether a path leads to a folder. -/
def hasFolder (system : System) (path : String) : Bool :=
  match system.find? path with
  | some (_, .folder) => true
  | _ => false

/-- The content of the file that a path leads to. -/
def content? (system : System) (path : String) : Option Bytes :=
  match system.find? path with
  | some (_, .file content) => some content
  | _ => none

/-- Make the folders that steps need. -/
def makeFoldersFrom (system : System) (folder : Location) : List String → Option System
  | [] => some system
  | step :: rest =>
      let next := stepFrom folder step
      match system.entryAt? next with
      | some .folder => system.makeFoldersFrom next rest
      | some (.file _) => none
      | none =>
          if isName step then (system.put next .folder).makeFoldersFrom next rest else none

/-- Make the folders of a path, if nothing else stands in their place. -/
def makeFolders (system : System) (path : String) : Option System :=
  system.makeFoldersFrom (system.origin path) (steps path)

/-- Write a file into a folder, unless a folder has its name. -/
def writeIn (system : System) (folder name : String) (content : Bytes) : Option System :=
  match system.find? folder with
  | some (location, .folder) =>
      if system.entryAt? (location ++ [name]) = some .folder then none
      else some (system.put (location ++ [name]) (.file content))
  | _ => none

/-- Take a file away from a folder. -/
def removeIn (system : System) (folder name : String) : System :=
  match system.find? folder with
  | some (location, _) => system.remove (location ++ [name])
  | none => system

/-- Make a file and the folders around it, at a path from the outermost folder on. -/
def withFile (system : System) (path : String) (content : Bytes) : Option System :=
  let location := steps path
  (system.makeFoldersFrom [] location.dropLast).map (·.put location (.file content))

/-- Set a variable, which keeps its place among the others if it was set before. -/
def setVariable (system : System) (name value : String) : System :=
  let known := system.environment.any fun entry => entry.1 == name
  { system with
    environment :=
      if known then
        system.environment.map fun entry => if entry.1 == name then (name, value) else entry
      else system.environment ++ [(name, value)] }

/-- The path of something in a folder. -/
def join (folder name : String) : String :=
  if folder.isEmpty || endsInFolder folder then folder ++ name else folder ++ "/" ++ name

end System

end NatGateway.Configuration
