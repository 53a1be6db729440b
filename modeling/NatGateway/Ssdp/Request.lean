import NatGateway.Ssdp.Error
import NatGateway.Text.Utf8

/-!
# Search requests

The datagram that asks for devices and services. It is sent to a group of listeners, who answer
within the announced number of seconds.
-/

namespace NatGateway.Ssdp

open NatGateway.Net (Ipv4)

/-- The group that listens for searches. -/
def searchGroup : Ipv4 := Ipv4.ofOctets 239 255 255 250

/-- The port of the group. -/
def searchPort : Nat := 1900

/-- The group and its port, as a text. -/
def destination : String := searchGroup.text ++ ":" ++ toString searchPort

/-- A search for a type of device or service. -/
structure SearchRequest where
  searchType : String
  wait : Nat
deriving DecidableEq

namespace SearchRequest

/-- A search has to wait a second at least. -/
def make (searchType : String) (wait : Nat) : Except SsdpError SearchRequest :=
  if wait < 1 then .error (.invalidWait wait) else .ok ⟨searchType, wait⟩

/-- The text of the datagram. -/
def datagram (request : SearchRequest) : String :=
  "M-SEARCH * HTTP/1.1\r\n" ++
    "HOST: " ++ destination ++ "\r\n" ++
    "MAN: \"ssdp:discover\"\r\n" ++
    "MX: " ++ toString request.wait ++ "\r\n" ++
    "ST: " ++ request.searchType ++ "\r\n" ++
    "\r\n"

/-- The bytes of the datagram. -/
def bytes (request : SearchRequest) : Text.Bytes := Text.utf8Bytes request.datagram

end SearchRequest

end NatGateway.Ssdp
