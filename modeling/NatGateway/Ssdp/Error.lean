import NatGateway.Net.Ipv4

/-!
# Failures of a search
-/

namespace NatGateway.Ssdp

open NatGateway.Net (Ipv4)

/-- Why a search failed. The socket explains itself no further. -/
inductive SsdpError where
  | socket
  | noInterfaceJoined (group : Ipv4)
  | invalidWait (seconds : Nat)
  | cancelled
deriving DecidableEq

/-- The wording of a failure. -/
def SsdpError.message? : SsdpError → Option String
  | .socket => none
  | .noInterfaceJoined group =>
      some ("no interfaces had joined to group " ++ group.text)
  | .invalidWait seconds =>
      some ("ssdp: request timeout must be at least 1s, got " ++ toString seconds)
  | .cancelled => some "SSDP search cancelled"

end NatGateway.Ssdp
