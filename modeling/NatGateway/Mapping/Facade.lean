import NatGateway.Description.Root
import NatGateway.Mapping.Client
import NatGateway.Mapping.Error
import NatGateway.Mapping.Protocol
import NatGateway.Mapping.Settings

/-!
# Mapping ports

What a user can ask of a gateway: its addresses, its status, and the mappings of ports. Protocols
are checked before the gateway is asked for anything, and adding a mapping is tried several times.
-/

namespace NatGateway.Mapping

open NatGateway.Description (Root)
open NatGateway.Net (Interface Ipv4)
open NatGateway.Soap (Record SoapError)
open NatGateway.Wan (ServiceKind)

/-- What the local machine knows of the network: its interfaces, and the addresses of names. -/
structure Machine where
  interfaces : List Interface
  hosts : List (String × List Ipv4)

/-- The name of a kind of gateway. -/
def kindName : ServiceKind → String
  | .ip1 => "UPNP(IP1)"
  | .ip2 => "UPNP(IP2)"
  | .ppp1 => "UPNP(PPP1)"

/-- A gateway that mappings can be asked of. -/
structure MappingGateway where
  kind : ServiceKind
  location : Url
  deviceName : String
  attempts : Nat
  defaultDescription : String
deriving DecidableEq

namespace MappingGateway

/-- The gateway of a root device. A mapping is tried once at least. -/
def ofRoot (kind : ServiceKind) (root : Root) (settings : Settings) : MappingGateway where
  kind := kind
  location := root.base
  deviceName := root.device.details.friendlyName
  attempts := max settings.attempts 1
  defaultDescription := settings.description

/-- What a gateway is called in traces. -/
def shown (gateway : MappingGateway) (serviceType : String) : String :=
  "UpnpNat \x7b nat_type: " ++ Text.quoted (kindName gateway.kind) ++
    ", service_type: " ++ Text.quoted serviceType ++
    ", location: " ++ Text.quoted gateway.location.text ++
    ", device_name: " ++ Text.quoted gateway.deviceName ++ " \x7d"

/-- The address of a gateway: that of the host its description came from. -/
def deviceAddress (gateway : MappingGateway) (machine : Machine) : Except MappingError Ipv4 :=
  match gateway.location.host? with
  | some (.ipv4 address) => .ok address
  | some (.domain name) =>
      match machine.hosts.lookup name with
      | none => .error .system
      | some [] => .error (.unresolvedDeviceAddress gateway.location.text)
      | some (address :: _) => .ok address
  | _ => .error (.unresolvedDeviceAddress gateway.location.text)

/-- The local address on the subnet of an address. -/
def localAddress (machine : Machine) (address : Ipv4) : Except MappingError Ipv4 :=
  match Net.localAddressFor machine.interfaces address with
  | some address => .ok address
  | none => .error .noInternalAddress

/-- The local address on the subnet of a gateway. -/
def internalAddress (gateway : MappingGateway) (machine : Machine) : Except MappingError Ipv4 :=
  (gateway.deviceAddress machine).bind (localAddress machine)

/-- Read a protocol. -/
def readProtocol (text : String) : Except MappingError Protocol :=
  match Protocol.ofText? text with
  | some protocol => .ok protocol
  | none => .error (.unsupportedProtocol text)

/-- Sort the failure of an action, if there is one. -/
def sorted {α : Type} : Except SoapError α → Except MappingError α
  | .ok value => .ok value
  | .error error => .error (.ofSoap error)

variable {σ : Type}

/-- The public address that the gateway reports. -/
def externalAddress (client : MappingClient σ) : StateM σ (Except MappingError String) := do
  return (sorted (← client.externalAddress)).bind fun text =>
    match Net.normalAddress? (Text.trim text) with
    | some address => .ok address
    | none => .error .noExternalAddress

/-- The warning about an attempt that failed. -/
def attemptWarning (gateway : MappingGateway) (attempt : Nat) (error : SoapError) : String :=
  "AddPortMapping attempt " ++ toString attempt ++ "/" ++ toString gateway.attempts ++ " on " ++
    gateway.deviceName ++ " failed: " ++ error.message?.getD ""

/-- Ask for a mapping until it is added, with so many attempts left after the next one. The result
comes with the warnings about attempts that failed. -/
def tryAdd (gateway : MappingGateway) (client : MappingClient σ) (request : MappingRequest) :
    Nat → StateM σ (Except SoapError Unit × List String)
  | 0 => do return (← client.add request, [])
  | left + 1 => do
      match ← client.add request with
      | .ok () => return (.ok (), [])
      | .error error =>
          let warning := gateway.attemptWarning (gateway.attempts - (left + 1)) error
          let (result, warnings) ← gateway.tryAdd client request left
          return (result, warning :: warnings)

/-- The request for a mapping. A description that is empty gives way to the usual one. -/
def mappingRequest (gateway : MappingGateway) (protocol : Protocol) (internal : Ipv4)
    (internalPort externalPort : UInt16) (lease : UInt32) (description : String) :
    MappingRequest where
  remoteHost := ""
  externalPort := externalPort
  protocol := protocol.name
  internalPort := internalPort
  internalClient := internal.text
  enabled := true
  description := if description.isEmpty then gateway.defaultDescription else description
  leaseDuration := lease

/-- Map a port of the gateway to a port of this machine. -/
def addMapping (gateway : MappingGateway) (client : MappingClient σ) (machine : Machine)
    (protocol : String) (internalPort externalPort : UInt16) (lease : UInt32)
    (description : String) : StateM σ (Except MappingError Unit × List String) :=
  let prepared : Except MappingError MappingRequest :=
    (readProtocol protocol).bind fun protocol =>
      (gateway.internalAddress machine).map fun internal =>
        gateway.mappingRequest protocol internal internalPort externalPort lease description
  match prepared with
  | .error error => return (.error error, [])
  | .ok request => do
      let (result, warnings) ← gateway.tryAdd client request (gateway.attempts - 1)
      return (sorted result, warnings)

/-- The key of a mapping of this machine. -/
def keyOf (protocol : Protocol) (externalPort : UInt16) : MappingKey :=
  ⟨"", externalPort, protocol.name⟩

/-- Remove the mapping of a port. -/
def deleteMapping (client : MappingClient σ) (protocol : String) (externalPort : UInt16) :
    StateM σ (Except MappingError Unit) :=
  match readProtocol protocol with
  | .error error => return .error error
  | .ok protocol => do return sorted (← client.delete (keyOf protocol externalPort))

/-- Look up the mapping of a port. -/
def findMapping (client : MappingClient σ) (protocol : String) (externalPort : UInt16) :
    StateM σ (Except MappingError Record) :=
  match readProtocol protocol with
  | .error error => return .error error
  | .ok protocol => do return sorted (← client.find (keyOf protocol externalPort))

/-- The status of the connection. -/
def deviceStatus (client : MappingClient σ) : StateM σ (Except MappingError Record) := do
  return sorted (← client.status)

end MappingGateway

end NatGateway.Mapping
