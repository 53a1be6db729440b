import NatGateway.Soap.Fault
import NatGateway.Text.Quoted

/-!
# Failures of an action

Everything that can go wrong between the arguments of an action and the arguments of its answer.
The transport and the markup explain themselves no further than by their kind.
-/

namespace NatGateway.Soap

/-- Why an action failed. -/
inductive SoapError where
  | malformed
  | unwritable (reason : String)
  | invalidName (name : String)
  | missingEnvelope (found : String)
  | missingBody
  | unexpectedAttribute (shown : String)
  | unexpectedNamespace (uri : String)
  | strayText (text : String)
  | unexpectedToken (shown : String)
  | invalidValue (name reason : String)
  | transport
  | status (code : Nat)
  | fault (fault : Fault)
deriving DecidableEq

namespace SoapError

/-- A word for the kind of a failure, for callers that only tell kinds apart. -/
def kind : SoapError → String
  | .malformed => "Xml"
  | .unwritable _ => "Encode"
  | .invalidName _ => "InvalidName"
  | .missingEnvelope _ => "MissingEnvelope"
  | .missingBody => "MissingBody"
  | .unexpectedAttribute _ => "UnexpectedAttribute"
  | .unexpectedNamespace _ => "UnexpectedNamespace"
  | .strayText _ => "StrayText"
  | .unexpectedToken _ => "UnexpectedToken"
  | .invalidValue _ _ => "InvalidValue"
  | .transport => "Http"
  | .status _ => "HttpStatus"
  | .fault _ => "Fault"

/-- The wording of a failure; malformed markup and the transport have none of their own. -/
def message? : SoapError → Option String
  | .malformed => none
  | .unwritable reason => some ("XML write error: " ++ reason)
  | .invalidName name => some ("invalid XML element name " ++ Text.quoted name)
  | .missingEnvelope found => some ("Missing SOAP Envelope, found <" ++ found ++ ">")
  | .missingBody => some "Missing SOAP Body"
  | .unexpectedAttribute shown =>
      some ("SOAP action arg does not support attributes, got " ++ shown)
  | .unexpectedNamespace uri =>
      some ("SOAP action arg does not support non-empty namespace, got " ++ Text.quoted uri)
  | .strayText text => some ("SOAP action args contained stray text: " ++ Text.quoted text)
  | .unexpectedToken shown => some ("SOAP action args contained unexpected token " ++ shown)
  | .invalidValue name reason =>
      some ("SOAP action arg " ++ Text.quoted name ++ " errored while decoding: " ++ reason)
  | .transport => none
  | .status code => some ("soap http request fault: status " ++ toString code)
  | .fault refusal => some refusal.message

/-- The fault that a failure is, if it is one. -/
def fault? : SoapError → Option Fault
  | .fault refusal => some refusal
  | _ => none

/-- Whether the gateway answered with a fault. -/
def isFault (error : SoapError) : Bool := error.fault?.isSome

/-- Whether the exchange itself failed: no answer, or a refusing status without a body. -/
def isTransport : SoapError → Bool
  | .transport => true
  | .status _ => true
  | _ => false

end SoapError

end NatGateway.Soap
