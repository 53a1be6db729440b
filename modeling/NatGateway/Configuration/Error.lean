/-!
# Failures of a configuration
-/

namespace NatGateway.Configuration

/-- Why an operation on a configuration failed. The system and the reader of documents explain
themselves no further. -/
inductive ConfigurationError where
  | system
  | document
  | notFolder
  | missing (path : List String)
  | notMapping (path : List String)
  | blocked
deriving DecidableEq

/-- A path as it is shown in messages. -/
def shownPath (path : List String) : String := ".".intercalate path

/-- The wording of a failure, where it has one of its own. -/
def ConfigurationError.message? : ConfigurationError → Option String
  | .system => none
  | .document => none
  | .notFolder => some "Le chemin spécifié n'est pas un répertoire"
  | .missing path => some ("Path " ++ shownPath path ++ " does not exist")
  | .notMapping path => some ("Path " ++ shownPath path ++ " is not a Config")
  | .blocked => some "Current node is not a map"

end NatGateway.Configuration
