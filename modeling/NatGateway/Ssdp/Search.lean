import NatGateway.Ssdp.Request
import NatGateway.Ssdp.Response
import NatGateway.Url.Reader

/-!
# Searches

From the datagrams that answer a search to the services that were found. Of several answers for one
service at one place the first counts.
-/

namespace NatGateway.Ssdp

open NatGateway.Text (Bytes)

/-- A service that a search found. -/
structure FoundService where
  searchType : String
  uniqueName : String
  server : String
  location : Url
deriving DecidableEq

namespace FoundService

/-- What a found service is called in messages. -/
def shown (service : FoundService) : String :=
  "ST: " ++ service.searchType ++ ", USN: " ++ service.uniqueName ++ ", SERVER: " ++
    service.server ++ ", LOCATION: " ++ service.location.text

/-- What tells found services apart: the place and the name, with a character between them that no
URL holds. -/
def key (service : FoundService) : String :=
  service.location.text ++ "\x00" ++ service.uniqueName

end FoundService

/-- Whether a search type asks for everything, so that answers may name any type. -/
def asksForAll (searchType : String) : Bool :=
  searchType = "ssdp:all" || searchType = "upnp:rootdevice"

/-- The service that a response announces for a search, if it is usable. -/
def eligible? (searchType : String) (response : Response) : Option FoundService :=
  if response.status != 200 then none
  else if !asksForAll searchType && response.searchType != searchType then none
  else
    match Url.ofText response.location with
    | .ok location =>
        some ⟨response.searchType, response.uniqueName, response.server, location⟩
    | .error _ => none

/-- Drop the services whose key was seen before. -/
def dropSeen : List String → List FoundService → List FoundService
  | _, [] => []
  | seen, service :: rest =>
      if seen.contains service.key then dropSeen seen rest
      else service :: dropSeen (service.key :: seen) rest

/-- The services that responses announce for a search, in the order of arrival. -/
def found (searchType : String) (responses : List Response) : List FoundService :=
  dropSeen [] (responses.filterMap (eligible? searchType))

/-- The responses among datagrams, in the order of arrival. -/
def responsesOf (datagrams : List Bytes) : List Response :=
  datagrams.filterMap Response.ofBytes?

/-- Whether a search type is that of an internet gateway. -/
def isInternetGateway (searchType : String) : Bool :=
  Text.occursIn "InternetGatewayDevice" searchType

/-- Give datagrams to a handler in the order of arrival, until it fails. -/
def readPackets {σ : Type} (handle : Bytes → StateM σ (Except SsdpError Unit)) :
    List Bytes → StateM σ (Except SsdpError Unit)
  | [] => return .ok ()
  | datagram :: rest => do
      match ← handle datagram with
      | .ok () => readPackets handle rest
      | .error error => return .error error

/-- A handler that keeps the responses and passes over all else. -/
def keepResponse (datagram : Bytes) : StateM (List Response) (Except SsdpError Unit) := do
  match Response.ofBytes? datagram with
  | some response =>
      modify fun kept => kept ++ [response]
      return .ok ()
  | none => return .ok ()

/-- The responses to a request, from the datagrams that arrive after it. -/
def request (datagrams : List Bytes) : Except SsdpError (List Response) :=
  let (ended, kept) := (readPackets keepResponse datagrams).run []
  ended.map fun () => kept

/-- The services that a search finds in the datagrams that arrive. -/
def search (searchType : String) (datagrams : List Bytes) : Except SsdpError (List FoundService) :=
  (request datagrams).map (found searchType)

/-- A search whose token is cancelled already: the wait is looked at first. -/
def searchCancelled (searchType : String) (wait : Nat) : Except SsdpError (List FoundService) :=
  (SearchRequest.make searchType wait).bind fun _ => .error .cancelled

end NatGateway.Ssdp
