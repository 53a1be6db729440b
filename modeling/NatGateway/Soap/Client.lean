import NatGateway.Http.Exchange
import NatGateway.Soap.Action
import NatGateway.Soap.Envelope

/-!
# Clients of a service

Posting an action to the control URL of a service and reading the answer. A status other than 200
without a body is a failure of the exchange; nothing is tried twice.
-/

namespace NatGateway.Soap

open NatGateway.Http

/-- A client of the service at a URL. -/
structure Client where
  control : Url
deriving DecidableEq

namespace Client

/-- The request that posts an encoded action. -/
def request (client : Client) (action : Action) (body : String) : Request where
  method := "POST"
  url := client.control
  contentType := some "text/xml; charset=\"utf-8\""
  soapAction := some action.header
  body := body

/-- What an outcome answers to an action. -/
def readOutcome : Outcome → Except SoapError (Option Answer)
  | .failed => .error .transport
  | .answered _ none => .error .transport
  | .answered status (some body) =>
      if status != 200 && body.isEmpty then .error (.status status)
      else (Envelope.decode body).bind Envelope.result

/-- Send an action and read its answer. -/
def send (client : Client) (action : Action) :
    StateM Gateway (Except SoapError (Option Answer)) := do
  match action.encode with
  | .error error => return .error error
  | .ok body =>
      if Gateway.isHeaderValue action.header then
        return readOutcome (← Gateway.exchange (client.request action body))
      else return .error .transport

/-- Call an action by its name; an answer without an action element has no arguments. -/
def call (client : Client) (uri name : String) (payload : Payload) :
    StateM Gateway (Except SoapError Answer) := do
  return (← client.send ((⟨uri, none, payload⟩ : Action).withName name)).map fun answer =>
    answer.getD .empty

end Client

end NatGateway.Soap
