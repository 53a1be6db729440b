import NatGateway.Wan.Messages

/-!
# Operations of WAN connections

The actions that the three WAN connection services offer: the name of each, the arguments it takes
and those it returns. All services share the table of port mappings; the IP services add control of
the connection, the second version of theirs adds ranges of ports, and the PPP service adds its
compression.
-/

namespace NatGateway.Wan

open NatGateway.Soap (Schema)

/-- An action that a service offers, with its arguments and results, if it has any. -/
structure Operation where
  name : String
  arguments : Option Schema
  results : Option Schema

namespace Operation

/-- Add a mapping. -/
def addPortMapping : Operation := ⟨"AddPortMapping", some Wan.addPortMapping, none⟩

/-- Delete a mapping by its key. -/
def deletePortMapping : Operation := ⟨"DeletePortMapping", some Wan.deletePortMapping, none⟩

/-- Tell the public address. -/
def getExternalIpAddress : Operation := ⟨"GetExternalIPAddress", none, some externalIpAddress⟩

/-- Tell the type of the connection. -/
def getConnectionTypeInfo : Operation :=
  ⟨"GetConnectionTypeInfo", none, some connectionTypeInfo⟩

/-- Tell the mapping at an index of the table. -/
def getGenericPortMappingEntry : Operation :=
  ⟨"GetGenericPortMappingEntry", some Wan.getGenericPortMappingEntry,
    some genericPortMappingEntry⟩

/-- Tell the mapping under a key. -/
def getSpecificPortMappingEntry : Operation :=
  ⟨"GetSpecificPortMappingEntry", some Wan.getSpecificPortMappingEntry,
    some specificPortMappingEntry⟩

/-- Tell the status of the connection. -/
def getStatusInfo : Operation := ⟨"GetStatusInfo", none, some statusInfo⟩

/-- End the connection at once. -/
def forceTermination : Operation := ⟨"ForceTermination", none, none⟩

/-- Ask for a connection. -/
def requestConnection : Operation := ⟨"RequestConnection", none, none⟩

/-- Ask for the end of the connection. -/
def requestTermination : Operation := ⟨"RequestTermination", none, none⟩

/-- Tell whether addresses are translated. -/
def getNatRsipStatus : Operation := ⟨"GetNATRSIPStatus", none, some natRsipStatus⟩

/-- Tell the time after which an idle connection is ended. -/
def getIdleDisconnectTime : Operation :=
  ⟨"GetIdleDisconnectTime", none, some idleDisconnectTime⟩

/-- Set the time after which an idle connection is ended. -/
def setIdleDisconnectTime : Operation :=
  ⟨"SetIdleDisconnectTime", some idleDisconnectTime, none⟩

/-- Tell how long before the end of the connection there is a warning. -/
def getWarnDisconnectDelay : Operation :=
  ⟨"GetWarnDisconnectDelay", none, some warnDisconnectDelay⟩

/-- Set how long before the end of the connection there is a warning. -/
def setWarnDisconnectDelay : Operation :=
  ⟨"SetWarnDisconnectDelay", some warnDisconnectDelay, none⟩

/-- Tell the time after which any connection is ended. -/
def getAutoDisconnectTime : Operation :=
  ⟨"GetAutoDisconnectTime", none, some autoDisconnectTime⟩

/-- Set the time after which any connection is ended. -/
def setAutoDisconnectTime : Operation :=
  ⟨"SetAutoDisconnectTime", some autoDisconnectTime, none⟩

/-- Set the type of the connection. -/
def setConnectionType : Operation := ⟨"SetConnectionType", some connectionType, none⟩

/-- Add a mapping at any external port that is free. -/
def addAnyPortMapping : Operation :=
  ⟨"AddAnyPortMapping", some Wan.addAnyPortMapping, some reservedPort⟩

/-- Delete the mappings of a range of ports. -/
def deletePortMappingRange : Operation :=
  ⟨"DeletePortMappingRange", some Wan.deletePortMappingRange, none⟩

/-- List the mappings of a range of ports. -/
def getListOfPortMappings : Operation :=
  ⟨"GetListOfPortMappings", some Wan.getListOfPortMappings, some listOfPortMappings⟩

/-- Tell the compression of the connection. -/
def getPppCompressionProtocol : Operation :=
  ⟨"GetPPPCompressionProtocol", none, some pppCompressionProtocol⟩

/-- What all WAN connection services offer. -/
def shared : List Operation :=
  [addPortMapping, deletePortMapping, getExternalIpAddress, getConnectionTypeInfo,
    getGenericPortMappingEntry, getSpecificPortMappingEntry, getStatusInfo]

/-- What the IP connection services add. -/
def ofIp : List Operation :=
  [forceTermination, requestConnection, requestTermination, getNatRsipStatus,
    getIdleDisconnectTime, setIdleDisconnectTime, getWarnDisconnectDelay, setWarnDisconnectDelay,
    getAutoDisconnectTime, setAutoDisconnectTime, setConnectionType]

/-- What the second version of the IP connection service adds. -/
def ofIp2 : List Operation := [addAnyPortMapping, deletePortMappingRange, getListOfPortMappings]

/-- What the PPP connection service adds. -/
def ofPpp : List Operation := [getPppCompressionProtocol]

end Operation

/-- The WAN connection services. -/
inductive ServiceKind where
  | ip1
  | ip2
  | ppp1
deriving DecidableEq

namespace ServiceKind

/-- The type by which a description names a service. -/
def serviceType : ServiceKind → String
  | .ip1 => "urn:schemas-upnp-org:service:WANIPConnection:1"
  | .ip2 => "urn:schemas-upnp-org:service:WANIPConnection:2"
  | .ppp1 => "urn:schemas-upnp-org:service:WANPPPConnection:1"

/-- The service that a type names, if it is one of these. -/
def ofServiceType? (type : String) : Option ServiceKind :=
  [ip1, ip2, ppp1].find? (·.serviceType == type)

/-- The actions that a service offers. -/
def operations : ServiceKind → List Operation
  | .ip1 => Operation.shared ++ Operation.ofIp
  | .ip2 => Operation.shared ++ Operation.ofIp ++ Operation.ofIp2
  | .ppp1 => Operation.shared ++ Operation.ofPpp

/-- Whether a service offers an action. -/
def offers (kind : ServiceKind) (operation : Operation) : Bool :=
  kind.operations.any (·.name == operation.name)

end ServiceKind

end NatGateway.Wan
