import NatGateway.Text.Utf8
import NatGateway.Url.Reader

/-!
# Exchanges with a gateway

Requests over HTTP and what becomes of them. An exchange begins with a request that is sent to the
gateway, and a reply may redirect it: the client then sends a further request by itself, which may go to
another server. A gateway is known by the replies to come, whoever gives them; it notes the requests that
are sent.
-/

namespace NatGateway.Http

open NatGateway.Text (Bytes)

/-- A request. -/
structure Request where
  method : String
  url : Url
  contentType : Option String
  soapAction : Option String
  body : String

/-- What a request is replied: nothing at all, or a status, the place that the reply points to if it
names one, and a body. The body is missing if it broke off. -/
inductive Reply where
  | failed
  | answered (status : Nat) (location : Option String) (body : Option Bytes)

/-- What becomes of an exchange: no answer at all, or a status and a body. -/
inductive Outcome where
  | failed
  | answered (status : Nat) (body : Option Bytes)

/-- What becomes of an exchange that ends with a reply. -/
def Reply.outcome : Reply → Outcome
  | .failed => .failed
  | .answered status _ body => .answered status body

/-- A request that asks for a document at the same URL, and carries nothing. -/
def Request.bare (request : Request) : Request :=
  { request with method := "GET", contentType := none, body := "" }

/-- The request that a reply redirects a request to, if it does. After some statuses it is the same
request at another URL, after others only the document there is asked for. -/
def Request.redirected? (request : Request) : Reply → Option Request
  | .answered status (some location) _ =>
      let next : Option Request :=
        if status = 307 || status = 308 then some request
        else if status = 301 || status = 302 || status = 303 then some request.bare
        else none
      next.bind fun next =>
        (request.url.join location).toOption.map fun url => { next with url := url }
  | _ => none

/-- How often an exchange may be redirected. -/
def redirectLimit : Nat := 10

/-- A gateway at an address, with the replies to come and the requests that were sent in exchanges with
it, the last one first. -/
structure Gateway where
  host : Url.Host
  port : Nat
  script : List Reply
  received : List Request

namespace Gateway

/-- Whether a request for a URL reaches the gateway. -/
def reaches (gateway : Gateway) (url : Url) : Bool :=
  url.scheme = "http" && url.host? = some gateway.host &&
    (url.authority.bind (·.port)).getD 80 = gateway.port

/-- The reply to the next request. When the script is over the gateway refuses with an empty body. -/
def next (gateway : Gateway) : Reply := gateway.script.headD (.answered 500 none (some []))

/-- The gateway after a request has been sent. -/
def noting (gateway : Gateway) (request : Request) : Gateway :=
  { gateway with script := gateway.script.tail, received := request :: gateway.received }

/-- Send a request, and go on in some way with the one that it is redirected to. Without encryption only
servers of plain HTTP can be asked. -/
def send (goOn : Request → StateM Gateway Outcome) (request : Request) : StateM Gateway Outcome := do
  let gateway ← get
  set (gateway.noting request)
  match request.redirected? gateway.next with
  | none => return gateway.next.outcome
  | some further => if further.url.scheme = "http" then goOn further else return .failed

/-- Send a request and those that it is redirected to, with so many redirects left. -/
def follow : Nat → Request → StateM Gateway Outcome
  | 0 => send fun _ => return .failed
  | left + 1 => send (follow left)

/-- Exchange a request with the gateway. -/
def exchange (request : Request) : StateM Gateway Outcome := do
  if (← get).reaches request.url then follow redirectLimit request else return .failed

/-- A header can hold a value that has no control characters other than tabs. -/
def isHeaderValue (value : String) : Bool :=
  value.toList.all fun c => (0x20 ≤ c.toNat && c.toNat != 0x7F) || c == '\t'

end Gateway

end NatGateway.Http
