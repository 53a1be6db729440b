import NatGateway.Description.Scpd
import NatGateway.Http.Exchange
import NatGateway.Mapping.Facade

/-!
# Collecting gateways

From a description to its gateways: each WAN connection service that can be used gives one. The
second version of the IP connection service does not count on a device of the first version.
-/

namespace NatGateway.Mapping

open NatGateway.Description (DescriptionError Details Root Service)
open NatGateway.Http (Gateway Request)
open NatGateway.Wan (Connection ServiceKind)

/-- The first version of the device that holds WAN connections. -/
def wanConnectionDevice1 : String := "urn:schemas-upnp-org:device:WANConnectionDevice:1"

/-- A gateway that was collected, with the service that it is driven by. -/
structure Collected where
  gateway : MappingGateway
  connection : Connection
deriving DecidableEq

/-- The kind of gateway that a service of a device gives, if it gives any. -/
def kindOf? (root : Root) (details : Details) (service : Service) : Option ServiceKind :=
  match ServiceKind.ofServiceType? service.type with
  | some .ip2 =>
      if root.device.details.deviceType = wanConnectionDevice1 ||
          details.deviceType = wanConnectionDevice1 then none
      else some .ip2
  | kind => kind

/-- The warning about a service without a control URL. -/
def serviceWarning (root : Root) (service : Service) (error : DescriptionError) : String :=
  "ignoring " ++ service.shown ++ " on " ++ root.base.text ++ ": " ++ error.message?.getD ""

/-- The gateway of a service, or the warning about it; nothing for other services. -/
def gatewayOf? (root : Root) (settings : Settings) (details : Details) (service : Service) :
    Option (Except String Collected) :=
  (kindOf? root details service).map fun kind =>
    match Connection.ofService service kind.serviceType with
    | .ok connection => .ok ⟨.ofRoot kind root settings, connection⟩
    | .error error => .error (serviceWarning root service error)

/-- What a walk through a description has brought so far: the gateways, and the warnings about
services that cannot be used, both in order. -/
structure Collection where
  gateways : List Collected
  warnings : List String

namespace Collection

/-- What a walk begins with. -/
def start (earlier : List Collected) : Collection := ⟨earlier, []⟩

/-- Visit a service: it adds its gateway, a warning, or nothing. -/
def visit (root : Root) (settings : Settings) (found : Collection) (details : Details)
    (service : Service) : Collection :=
  match gatewayOf? root settings details service with
  | some (.ok gateway) => { found with gateways := found.gateways ++ [gateway] }
  | some (.error warning) => { found with warnings := found.warnings ++ [warning] }
  | none => found

/-- Visit services one after the other. The token is looked at before each of them: `looks` says how
many looks find it not cancelled, all of them if it is absent. -/
def visitAll (root : Root) (settings : Settings) :
    Option Nat → List (Details × Service) → Collection → Collection
  | _, [], found => found
  | some 0, _ :: rest, found => visitAll root settings (some 0) rest found
  | some (looks + 1), (details, service) :: rest, found =>
      visitAll root settings (some looks) rest (found.visit root settings details service)
  | none, (details, service) :: rest, found =>
      visitAll root settings none rest (found.visit root settings details service)

end Collection

/-- Add the gateways of a description to those that were collected earlier. -/
def collect (root : Root) (settings : Settings) (looks : Option Nat) (earlier : List Collected) :
    Collection :=
  Collection.visitAll root settings looks root.device.declaredServices (.start earlier)

/-- Fetch a document of a description. -/
def fetch (cancelled : Bool) (url : Url) :
    StateM Gateway (Except DescriptionError Text.Bytes) := do
  if cancelled then return .error .cancelled
  match ← Gateway.exchange ⟨"GET", url, none, none, ""⟩ with
  | .failed => return .error .transport
  | .answered 200 (some body) => return .ok body
  | .answered 200 none => return .error .transport
  | .answered status _ => return .error (.status status url.text)

/-- Fetch and read the description at a location. -/
def fetchRoot (cancelled : Bool) (location : Url) :
    StateM Gateway (Except DescriptionError Root) := do
  return (← fetch cancelled location).bind fun bytes => Root.ofBytes bytes location

/-- Fetch and read the description of a service. -/
def fetchScpd (cancelled : Bool) (service : Service) :
    StateM Gateway (Except DescriptionError Description.Scpd) :=
  match service.scpd.resolved "SCPD" with
  | .error error => return .error error
  | .ok url => do return (← fetch cancelled url).bind Description.Scpd.ofBytes

/-- The gateways of the description at a location. -/
def gatewaysAt (cancelled : Bool) (settings : Settings) (location : Url) :
    StateM Gateway (Except MappingError Collection) := do
  match ← fetchRoot cancelled location with
  | .error error => return .error (.description error)
  | .ok root => return .ok (collect root settings (if cancelled then some 0 else none) [])

end NatGateway.Mapping
