import NatGateway.Configuration.Reading
import NatGateway.Configuration.Store
import NatGateway.Mapping.Settings

/-!
# Settings in a configuration

The section of a configuration that holds the settings of mappings. What is read is always usable:
what is missing or of no use is replaced by its default, and what is out of range by the bound.
-/

namespace NatGateway.Mapping

open NatGateway.Configuration (Action Format Store Warned readText readUnsigned)
open NatGateway.Yaml (Value)

/-- The path of a setting. -/
def settingPath (name : String) : List String := ["nat", name]

/-- A number of the section, with the warnings about it behind those before. -/
def readSetting (document : Value) (name : String) (default : Nat) : StateM (List String) Nat := do
  let (value, warnings) := readUnsigned document (settingPath name) default
  modify (· ++ warnings)
  return value

/-- The settings of a document, with the warnings about numbers that cannot be used. -/
def Settings.ofDocument (document : Value) : Warned Settings :=
  let standard := Settings.standard
  let read : StateM (List String) Settings := do
    let attempts ← readSetting document "port_mapping_attempts" standard.attempts
    let seconds ← readSetting document "search_wait_secs" standard.searchSeconds
    let ttl ← readSetting document "multicast_ttl" standard.multicastTtl
    let description ←
      readSetting document "description_timeout_ms" standard.descriptionTimeout
    let soap ← readSetting document "soap_timeout_ms" standard.soapTimeout
    let backoff ← readSetting document "retry_backoff_ms" standard.retryBackoff
    let grace ← readSetting document "fallback_grace_ms" standard.fallbackGrace
    return {
      searchWait := max seconds 1 * 1000
      multicastTtl := min ttl 255
      descriptionTimeout := description
      soapTimeout := soap
      attempts := min (max attempts 1) (Nat.pow 2 32 - 1)
      retryBackoff := backoff
      fallbackGrace := grace
      description :=
        readText document (settingPath "mapping_description") standard.description }
  read.run []

/-- A number as a value of 64 bits. -/
def numberValue (n : Nat) : Value := .number (.integer (n % Nat.pow 2 64 : Nat))

/-- The values under which settings are kept, in the order in which they are written. -/
def Settings.entries (settings : Settings) : List (String × Value) :=
  [("search_wait_secs", numberValue (settings.searchWait / 1000)),
    ("multicast_ttl", numberValue settings.multicastTtl),
    ("description_timeout_ms", numberValue settings.descriptionTimeout),
    ("soap_timeout_ms", numberValue settings.soapTimeout),
    ("port_mapping_attempts", numberValue settings.attempts),
    ("retry_backoff_ms", numberValue settings.retryBackoff),
    ("fallback_grace_ms", numberValue settings.fallbackGrace),
    ("mapping_description", .string settings.description)]

/-- Write settings into a configuration one by one, until one of them fails. -/
def Settings.put (settings : Settings) (format : Format) : Action Store Unit :=
  settings.entries.forM fun (name, value) => Store.put format (settingPath name) value

end NatGateway.Mapping
