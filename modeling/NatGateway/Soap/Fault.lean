import NatGateway.Text.Integer
import NatGateway.Xml.Node
import NatGateway.Xml.Writer

/-!
# Faults

The refusal of an action by a gateway: a code and a text, and the device error that a UPnP gateway
puts into the detail. A fault is read from its element and can be written as a whole envelope.
-/

namespace NatGateway.Soap

/-- The namespace of envelopes. -/
def envelopeUri : String := "http://schemas.xmlsoap.org/soap/envelope/"

/-- The encoding style that envelopes announce. -/
def encodingUri : String := "http://schemas.xmlsoap.org/soap/encoding/"

/-- The namespace of the device error inside a fault. -/
def controlUri : String := "urn:schemas-upnp-org:control-1-0"

/-- The device error inside a fault; both texts are empty if the gateway gave none. -/
structure DeviceError where
  code : String
  description : String
deriving DecidableEq

/-- Whether there is no device error. -/
def DeviceError.isEmpty (error : DeviceError) : Bool :=
  error.code.isEmpty && error.description.isEmpty

/-- The device error of a code and a description. Neither of them is one alone. -/
def DeviceError.ofParts? : Option String → Option String → Option DeviceError
  | some code, some description => some ⟨code, description⟩
  | _, _ => none

/-- A refusal. -/
structure Fault where
  code : String
  text : String
  actor : String
  detail : DeviceError
deriving DecidableEq

namespace Fault

/-- The number of the device error, if it has one. -/
def number? (fault : Fault) : Option Int :=
  (Text.IntegerType.u32.read (Text.trimmed fault.detail.code.toList)).toOption

/-- The wording of a fault: the device error if there is one. -/
def message (fault : Fault) : String :=
  if fault.detail.isEmpty then "SOAP fault code=" ++ fault.code ++ ": message=" ++ fault.text
  else "SOAP fault code=" ++ fault.detail.code ++ " message=" ++ fault.detail.description

/-- Read a fault from its element. -/
def ofElement (element : Xml.Element) : Fault where
  code := element.textOf "faultcode"
  text := element.textOf "faultstring"
  actor := element.textOf "faultactor"
  detail :=
    match (element.child? "detail").bind (·.child? "UPnPError") with
    | some error => ⟨error.textOf "errorCode", error.textOf "errorDescription"⟩
    | none => ⟨"", ""⟩

end Fault

/-- An envelope around the content of its body. -/
def writtenEnvelope (content : String) : String :=
  Xml.writtenDeclaration ++
    Xml.enclosed "s:Envelope" [("xmlns:s", envelopeUri), ("s:encodingStyle", encodingUri)]
      (Xml.enclosed "s:Body" [] content)

/-- The detail of a fault, if there is a device error. -/
def writtenDetail : Option DeviceError → String
  | none => ""
  | some error =>
      Xml.enclosed "detail" []
        (Xml.enclosed "UPnPError" [("xmlns", controlUri)]
          (Xml.textElement "errorCode" error.code ++
            Xml.textElement "errorDescription" error.description))

/-- A fault as an envelope. -/
def writtenFault (code text : String) (error : Option DeviceError) : String :=
  writtenEnvelope
    (Xml.enclosed "s:Fault" []
      (Xml.textElement "faultcode" code ++ Xml.textElement "faultstring" text ++
        writtenDetail error))

end NatGateway.Soap
