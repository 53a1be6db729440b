import NatGateway.Description.Device
import NatGateway.Soap.Client
import NatGateway.Wan.Operations

/-!
# WAN connections

A client of one WAN connection service. Every action is posted to the control URL of the service
under the type of the service.
-/

namespace NatGateway.Wan

open NatGateway.Http (Gateway)
open NatGateway.Soap

/-- A client of a WAN connection service. -/
structure Connection where
  client : Client
  serviceType : String
deriving DecidableEq

namespace Connection

/-- The connection of a described service, which needs a control URL. -/
def ofService (service : Description.Service) (serviceType : String) :
    Except Description.DescriptionError Connection :=
  (service.control.resolved "control").map fun url => ⟨⟨url⟩, serviceType⟩

/-- The arguments of an operation as they are sent. -/
def payload (operation : Operation) (record : Record) : Payload :=
  match operation.arguments with
  | some schema => .ofRecord schema record
  | none => .empty

/-- Read the results of an operation; without results the answer does not matter. -/
def readResults (operation : Operation) (answer : Answer) : Except SoapError Record :=
  match operation.results with
  | some schema => schema.read answer
  | none => .ok []

/-- Call an operation with its arguments. -/
def call (connection : Connection) (operation : Operation) (record : Record) :
    StateM Gateway (Except SoapError Record) := do
  return (← connection.client.call connection.serviceType operation.name
    (payload operation record)).bind (readResults operation)

end Connection

end NatGateway.Wan
