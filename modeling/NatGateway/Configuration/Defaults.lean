import NatGateway.Yaml.Value

/-!
# The default document

The settings that hold unless a file or a variable gives others.
-/

namespace NatGateway.Configuration

open NatGateway.Yaml (Value)

/-- An integer as a value. -/
def integer (value : Nat) : Value := .number (.integer value)

/-- A mapping from names. -/
def named (entries : List (String × Value)) : Value :=
  .mapping (entries.map fun (name, value) => (.string name, value))

/-- The default document. -/
def defaults : Value :=
  named
    [("host", named
      [("logger", named [("min_level", .string "INFO"), ("enable_console", .bool true)])]),
    ("nat", named
      [("search_wait_secs", integer 1), ("multicast_ttl", integer 2),
        ("description_timeout_ms", integer 3000), ("soap_timeout_ms", integer 10000),
        ("port_mapping_attempts", integer 3), ("retry_backoff_ms", integer 50),
        ("fallback_grace_ms", integer 300), ("mapping_description", .string "pmonat")])]

end NatGateway.Configuration
