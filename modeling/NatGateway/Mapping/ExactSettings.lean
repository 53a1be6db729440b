import NatGateway.Mapping.Preferences

/-!
# Settings as they are given

Settings with times to the nanosecond and with numbers that are words. They are kept in a configuration
as whole seconds or milliseconds, and what is read from one is given in the same form again.
-/

namespace NatGateway.Mapping

open NatGateway.Configuration (Action Format Store Warned)
open NatGateway.Yaml (Value)

/-- A length of time. -/
structure Duration where
  seconds : Nat
  nanoseconds : Nat
  nanoseconds_lt : nanoseconds < Nat.pow 10 9
deriving DecidableEq

namespace Duration

/-- So many seconds. -/
def ofSeconds (seconds : Nat) : Duration := ⟨seconds, 0, by decide⟩

/-- So many milliseconds. -/
def ofMilliseconds (milliseconds : Nat) : Duration where
  seconds := milliseconds / 1000
  nanoseconds := milliseconds % 1000 * 1000000
  nanoseconds_lt := by
    have hlt : milliseconds % 1000 < 1000 := Nat.mod_lt _ (by decide)
    simp only [Nat.pow_eq]
    omega

/-- The whole milliseconds of a time. -/
def milliseconds (duration : Duration) : Nat :=
  duration.seconds * 1000 + duration.nanoseconds / 1000000

end Duration

/-- The settings of discovery and mapping as they are given. -/
structure ExactSettings where
  searchWait : Duration
  multicastTtl : UInt32
  descriptionTimeout : Duration
  soapTimeout : Duration
  attempts : UInt32
  retryBackoff : Duration
  fallbackGrace : Duration
  description : String
deriving DecidableEq

/-- Settings that were read, with the numbers cast to words. -/
def Settings.exact (settings : Settings) : ExactSettings where
  searchWait := .ofMilliseconds settings.searchWait
  multicastTtl := .ofNat settings.multicastTtl
  descriptionTimeout := .ofMilliseconds settings.descriptionTimeout
  soapTimeout := .ofMilliseconds settings.soapTimeout
  attempts := .ofNat settings.attempts
  retryBackoff := .ofMilliseconds settings.retryBackoff
  fallbackGrace := .ofMilliseconds settings.fallbackGrace
  description := settings.description

namespace ExactSettings

/-- The settings that hold unless others are given. -/
def standard : ExactSettings := Settings.standard.exact

/-- Settings with their times in whole milliseconds. -/
def whole (settings : ExactSettings) : Settings where
  searchWait := settings.searchWait.milliseconds
  multicastTtl := settings.multicastTtl.toNat
  descriptionTimeout := settings.descriptionTimeout.milliseconds
  soapTimeout := settings.soapTimeout.milliseconds
  attempts := settings.attempts.toNat
  retryBackoff := settings.retryBackoff.milliseconds
  fallbackGrace := settings.fallbackGrace.milliseconds
  description := settings.description

/-- The wait that a search announces, in seconds: one at least, and the largest word at most. The bounds
come before the cast. -/
def searchSeconds (settings : ExactSettings) : UInt32 :=
  .ofNat (min (max settings.searchWait.seconds 1) (Nat.pow 2 32 - 1))

/-- The settings of a document, with the warnings about numbers that cannot be used. -/
def ofDocument (document : Value) : Warned ExactSettings :=
  ((Settings.ofDocument document).1.exact, (Settings.ofDocument document).2)

/-- Write settings into a configuration one by one, until one of them fails. -/
def put (settings : ExactSettings) (format : Format) : Action Store Unit :=
  settings.whole.put format

end ExactSettings

end NatGateway.Mapping
