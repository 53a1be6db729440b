import NatGateway.Text.Ascii

/-!
# Protocols of a mapping
-/

namespace NatGateway.Mapping

/-- The protocol whose port is mapped. -/
inductive Protocol where
  | tcp
  | udp
deriving DecidableEq

/-- The name that a gateway expects. -/
def Protocol.name : Protocol → String
  | .tcp => "TCP"
  | .udp => "UDP"

/-- Read a name in any letter case. -/
def Protocol.ofText? (text : String) : Option Protocol :=
  let name := Text.upperAscii text
  if name = "TCP" then some .tcp else if name = "UDP" then some .udp else none

end NatGateway.Mapping
