/-!
# Settings of the mapping of ports

How long each step may take and how often it is tried. Times are in milliseconds.
-/

namespace NatGateway.Mapping

/-- The settings of discovery and mapping. -/
structure Settings where
  searchWait : Nat
  multicastTtl : Nat
  descriptionTimeout : Nat
  soapTimeout : Nat
  attempts : Nat
  retryBackoff : Nat
  fallbackGrace : Nat
  description : String
deriving DecidableEq

namespace Settings

/-- The settings that hold unless others are given. -/
def standard : Settings where
  searchWait := 1000
  multicastTtl := 2
  descriptionTimeout := 3000
  soapTimeout := 10000
  attempts := 3
  retryBackoff := 50
  fallbackGrace := 300
  description := "pmonat"

/-- The wait that a search announces, in seconds: one at least, and no more than a word holds. -/
def searchSeconds (settings : Settings) : Nat :=
  min (max (settings.searchWait / 1000) 1) (Nat.pow 2 32 - 1)

end Settings

end NatGateway.Mapping
