import NatGateway.Wan.Connection

/-!
# Clients for port mappings

The actions on the table of port mappings that a gateway is driven by, whatever stands behind them.
The WAN connection services are such clients.
-/

namespace NatGateway.Mapping

open NatGateway.Http (Gateway)
open NatGateway.Soap (Record SoapError Value)
open NatGateway.Wan (Connection Operation)

/-- A mapping to be added. -/
structure MappingRequest where
  remoteHost : String
  externalPort : UInt16
  protocol : String
  internalPort : UInt16
  internalClient : String
  enabled : Bool
  description : String
  leaseDuration : UInt32
deriving DecidableEq

/-- The arguments that ask for a mapping. -/
def MappingRequest.record (request : MappingRequest) : Record :=
  [.text request.remoteHost, .integer request.externalPort.toNat, .text request.protocol,
    .integer request.internalPort.toNat, .text request.internalClient, .flag request.enabled,
    .text request.description, .integer request.leaseDuration.toNat]

/-- The key under which a gateway keeps a mapping. -/
structure MappingKey where
  remoteHost : String
  externalPort : UInt16
  protocol : String
deriving DecidableEq

/-- The arguments that name a mapping. -/
def MappingKey.record (key : MappingKey) : Record :=
  [.text key.remoteHost, .integer key.externalPort.toNat, .text key.protocol]

/-- A client for the port mappings of a gateway, acting on some state. -/
structure MappingClient (σ : Type) where
  serviceType : String
  externalAddress : StateM σ (Except SoapError String)
  add : MappingRequest → StateM σ (Except SoapError Unit)
  delete : MappingKey → StateM σ (Except SoapError Unit)
  find : MappingKey → StateM σ (Except SoapError Record)
  status : StateM σ (Except SoapError Record)

/-- The text that a record of one field holds. -/
def textOf : Record → String
  | .text value :: _ => value
  | _ => ""

/-- A WAN connection as a client for port mappings. -/
def clientOf (connection : Connection) : MappingClient Gateway where
  serviceType := connection.serviceType
  externalAddress := do
    return (← connection.call .getExternalIpAddress []).map textOf
  add request := do
    return (← connection.call .addPortMapping request.record).map fun _ => ()
  delete key := do
    return (← connection.call .deletePortMapping key.record).map fun _ => ()
  find key := connection.call .getSpecificPortMappingEntry key.record
  status := connection.call .getStatusInfo []

end NatGateway.Mapping
