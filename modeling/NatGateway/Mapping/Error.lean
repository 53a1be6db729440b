import NatGateway.Description.Error
import NatGateway.Ssdp.Error

/-!
# Failures of a mapping

What the user of a gateway is told. Failures of an action are told apart by who is to blame: the
exchange, the answer, or the gateway's own refusal.
-/

namespace NatGateway.Mapping

open NatGateway.Description (DescriptionError)
open NatGateway.Soap (Fault SoapError)
open NatGateway.Ssdp (SsdpError)

/-- Why an operation on a gateway failed. -/
inductive MappingError where
  | unsupportedProtocol (text : String)
  | noExternalAddress
  | noInternalAddress
  | unresolvedDeviceAddress (location : String)
  | transport (cause : SoapError)
  | decode (cause : SoapError)
  | fault (refusal : Fault)
  | description (cause : DescriptionError)
  | search (cause : SsdpError)
  | system
  | cancelled
  | taskFailed (task reason : String)
deriving DecidableEq

namespace MappingError

/-- Sort the failure of an action. -/
def ofSoap (error : SoapError) : MappingError :=
  match error.fault? with
  | some refusal => .fault refusal
  | none => if error.isTransport then .transport error else .decode error

/-- The wording of a failure, where it has one of its own. -/
def message? : MappingError → Option String
  | .unsupportedProtocol text => some ("not support protocol: " ++ Text.quoted text)
  | .noExternalAddress => some "no external address"
  | .noInternalAddress => some "no internal address"
  | .unresolvedDeviceAddress location =>
      some ("cannot resolve gateway address " ++ Text.quoted location)
  | .transport cause => cause.message?.map ("transport error: " ++ ·)
  | .decode cause => cause.message?.map ("decode error: " ++ ·)
  | .fault refusal => some refusal.message
  | .description _ => none
  | .search _ => none
  | .system => none
  | .cancelled => some "NAT discovery cancelled"
  | .taskFailed task reason => some ("discovery task " ++ task ++ " failed: " ++ reason)

/-- The gateway's refusal, if the failure is one. -/
def fault? : MappingError → Option Fault
  | .fault refusal => some refusal
  | _ => none

/-- Whether the gateway refused. -/
def isFault (error : MappingError) : Bool := error.fault?.isSome

/-- Whether the operation was given up because its token was cancelled. -/
def isCancelled : MappingError → Bool
  | .cancelled => true
  | .search .cancelled => true
  | .description .cancelled => true
  | _ => false

end MappingError

end NatGateway.Mapping
