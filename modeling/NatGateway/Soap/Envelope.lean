import NatGateway.Soap.Answer
import NatGateway.Text.Ascii
import NatGateway.Xml.Document

/-!
# Envelopes

Reading the bytes of an answer as an envelope. An answer that is empty or blank is an envelope
without content. Of the elements in the body the first fault and the first other element count, and
the fault goes before the arguments.
-/

namespace NatGateway.Soap

open NatGateway.Text (Bytes)
open NatGateway.Xml (Element)

/-- An envelope that was read: its encoding style, its fault and the element of its action. -/
structure Envelope where
  encodingStyle : Option String
  fault : Option Fault
  action : Option Element

namespace Envelope

/-- The envelope without content. -/
def empty : Envelope := ⟨none, none, none⟩

/-- Whether an envelope holds neither a fault nor an action. -/
def isEmpty (envelope : Envelope) : Bool := envelope.fault.isNone && envelope.action.isNone

/-- The white space that makes an answer blank. -/
def isBlankByte (b : UInt8) : Bool :=
  b == 0x20 || b == 0x09 || b == 0x0A || b == 0x0C || b == 0x0D

/-- Read the root of a document as an envelope. -/
def ofElement (root : Element) : Except SoapError Envelope :=
  if root.name != "Envelope" then .error (.missingEnvelope root.name)
  else
    match root.child? "Body" with
    | none => .error .missingBody
    | some body =>
        .ok {
          encodingStyle :=
            (root.tag.attributes.find? fun attr => Text.endsWith attr.1 "encodingStyle").map (·.2)
          fault := (body.elements.find? (·.name == "Fault")).map Fault.ofElement
          action := body.elements.find? (·.name != "Fault") }

/-- Read bytes as an envelope. -/
def decode (bytes : Bytes) : Except SoapError Envelope :=
  if bytes.all isBlankByte then .ok empty
  else
    match Element.ofBytes? bytes with
    | none => .error .malformed
    | some root => ofElement root

/-- What an envelope answers: its fault, else the arguments of its action, if there is one. -/
def result (envelope : Envelope) : Except SoapError (Option Answer) :=
  match envelope.fault, envelope.action with
  | some fault, _ => .error (.fault fault)
  | none, some action => (Answer.ofElement action).map some
  | none, none => .ok none

end Envelope

/-- Read bytes as the arguments of an answer; without an action there are none. -/
def decodeAnswer (bytes : Bytes) : Except SoapError Answer :=
  (Envelope.decode bytes).bind fun envelope => envelope.result.map fun answer =>
    answer.getD .empty

end NatGateway.Soap
