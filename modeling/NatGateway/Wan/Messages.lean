import NatGateway.Soap.Schema

/-!
# Messages of WAN connections

The declared arguments of the actions of WAN connection services. Fields stand in the order of the
standard service descriptions, which is the order in which they are written.
-/

namespace NatGateway.Wan

open NatGateway.Soap
open NatGateway.Text (IntegerType)

/-- A field that holds a text. -/
def textField (label element : String) : Field := ⟨label, element, .text⟩

/-- A field that holds a flag. -/
def flagField (label element : String) : Field := ⟨label, element, .flag⟩

/-- A field that holds a port or another number of sixteen bits. -/
def portField (label element : String) : Field := ⟨label, element, .integer .u16⟩

/-- A field that holds a time in seconds. -/
def secondsField (label element : String) : Field := ⟨label, element, .integer .u32⟩

/-- The key of a mapping in the table of a gateway. -/
def keyFields : List Field :=
  [textField "remote_host" "NewRemoteHost",
    portField "external_port" "NewExternalPort",
    textField "protocol" "NewProtocol"]

/-- What a mapping leads to. -/
def targetFields : List Field :=
  [portField "internal_port" "NewInternalPort",
    textField "internal_client" "NewInternalClient",
    flagField "enabled" "NewEnabled",
    textField "description" "NewPortMappingDescription",
    secondsField "lease_duration" "NewLeaseDuration"]

/-- A request to add a mapping. -/
def addPortMapping : Schema :=
  ⟨"AddPortMappingRequest", some "AddPortMapping", keyFields ++ targetFields⟩

/-- A request to add a mapping at any external port that is free. -/
def addAnyPortMapping : Schema :=
  ⟨"AddAnyPortMappingRequest", some "AddAnyPortMapping", keyFields ++ targetFields⟩

/-- The external port that was reserved for a mapping. -/
def reservedPort : Schema :=
  ⟨"AddAnyPortMappingResponse", none, [portField "reserved_port" "NewReservedPort"]⟩

/-- A request to delete the mapping under a key. -/
def deletePortMapping : Schema :=
  ⟨"DeletePortMappingRequest", some "DeletePortMapping", keyFields⟩

/-- The ports from a first to a last one, and whether mappings of other clients are meant too. -/
def rangeFields : List Field :=
  [portField "start_port" "NewStartPort",
    portField "end_port" "NewEndPort",
    textField "protocol" "NewProtocol",
    flagField "manage" "NewManage"]

/-- A request to delete the mappings of a range of ports. -/
def deletePortMappingRange : Schema :=
  ⟨"DeletePortMappingRangeRequest", some "DeletePortMappingRange", rangeFields⟩

/-- A request for the mapping at an index of the table. -/
def getGenericPortMappingEntry : Schema :=
  ⟨"GetGenericPortMappingEntryRequest", some "GetGenericPortMappingEntry",
    [portField "index" "NewPortMappingIndex"]⟩

/-- The mapping at an index, with its key. -/
def genericPortMappingEntry : Schema :=
  ⟨"GetGenericPortMappingEntryResponse", none, keyFields ++ targetFields⟩

/-- A request for what the mapping under a key leads to. -/
def getSpecificPortMappingEntry : Schema :=
  ⟨"GetSpecificPortMappingEntryRequest", some "GetSpecificPortMappingEntry", keyFields⟩

/-- What the mapping under a key leads to. -/
def specificPortMappingEntry : Schema :=
  ⟨"GetSpecificPortMappingEntryResponse", none, targetFields⟩

/-- The status of a connection, its last error and how long it has been up. -/
def statusInfo : Schema :=
  ⟨"GetStatusInfoResponse", none,
    [textField "connection_status" "NewConnectionStatus",
      textField "last_connection_error" "NewLastConnectionError",
      secondsField "uptime" "NewUptime"]⟩

/-- The public address of a gateway. -/
def externalIpAddress : Schema :=
  ⟨"GetExternalIpAddressResponse", none,
    [textField "external_ip_address" "NewExternalIPAddress"]⟩

/-- The type of a connection, and the types that it could have. -/
def connectionTypeInfo : Schema :=
  ⟨"GetConnectionTypeInfoResponse", none,
    [textField "connection_type" "NewConnectionType",
      textField "possible_connection_types" "NewPossibleConnectionTypes"]⟩

/-- The compression of a PPP connection. -/
def pppCompressionProtocol : Schema :=
  ⟨"GetPppCompressionProtocolResponse", none,
    [textField "compression_protocol" "NewPPPCompressionProtocol"]⟩

/-- A request for the mappings of a range of ports, with the most that are wanted. -/
def getListOfPortMappings : Schema :=
  ⟨"GetListOfPortMappingsRequest", some "GetListOfPortMappings",
    rangeFields ++ [portField "number_of_ports" "NewNumberOfPorts"]⟩

/-- A list of mappings as one text. -/
def listOfPortMappings : Schema :=
  ⟨"GetListOfPortMappingsResponse", none, [textField "port_listing" "NewPortListing"]⟩

/-- Whether addresses are translated, and whether realm-specific addresses can be had. -/
def natRsipStatus : Schema :=
  ⟨"GetNatRsipStatusResponse", none,
    [flagField "rsip_available" "NewRSIPAvailable",
      flagField "nat_enabled" "NewNATEnabled"]⟩

/-- The time after which an idle connection is ended. -/
def idleDisconnectTime : Schema :=
  ⟨"IdleDisconnectTimeArgs", none,
    [secondsField "idle_disconnect_time" "NewIdleDisconnectTime"]⟩

/-- The time between the warning about the end of a connection and the end. -/
def warnDisconnectDelay : Schema :=
  ⟨"WarnDisconnectDelayArgs", none,
    [secondsField "warn_disconnect_delay" "NewWarnDisconnectDelay"]⟩

/-- The time after which any connection is ended. -/
def autoDisconnectTime : Schema :=
  ⟨"AutoDisconnectTimeArgs", none,
    [secondsField "auto_disconnect_time" "NewAutoDisconnectTime"]⟩

/-- The type that a connection is to have. -/
def connectionType : Schema :=
  ⟨"ConnectionTypeArgs", none, [textField "connection_type" "NewConnectionType"]⟩

/-- Every declared message. -/
def messages : List Schema :=
  [addPortMapping, addAnyPortMapping, reservedPort, deletePortMapping, deletePortMappingRange,
    getGenericPortMappingEntry, genericPortMappingEntry, getSpecificPortMappingEntry,
    specificPortMappingEntry, statusInfo, externalIpAddress, connectionTypeInfo,
    pppCompressionProtocol, getListOfPortMappings, listOfPortMappings, natRsipStatus,
    idleDisconnectTime, warnDisconnectDelay, autoDisconnectTime, connectionType]

end NatGateway.Wan
