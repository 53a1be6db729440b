import NatGateway.Proofs.Xml.Head
import NatGateway.Proofs.Xml.Written
import NatGateway.Soap.Envelope

/-!
# Written envelopes

What is read from a written envelope, for any content of its body. The tags around the content are
always the same, so reading comes down to the content: it is read inside the body, and the envelope
can be decoded exactly if the content can.
-/

namespace NatGateway.Soap

open NatGateway.Text (utf8Bytes utf8Bytes_append)
open NatGateway.Xml

/-- The name of a written envelope. -/
def envelopeName : QName := ⟨some "s", "Envelope"⟩

/-- The name of a written body. -/
def bodyName : QName := ⟨some "s", "Body"⟩

/-- The attributes of a written envelope. -/
def envelopeAttributes : List Attribute :=
  [⟨⟨some "xmlns", "s"⟩, envelopeUri⟩, ⟨⟨some "s", "encodingStyle"⟩, encodingUri⟩]

/-- The prefixes in force inside a written body. -/
def bodyBindings : Bindings := ("s", envelopeUri) :: Bindings.base

/-- A written envelope whose content is still to be read. -/
def openEnvelope : OpenElement :=
  ⟨⟨"Envelope", some "s", some envelopeUri, [("encodingStyle", encodingUri)]⟩, envelopeName,
    bodyBindings, []⟩

/-- A written body whose content is still to be read. -/
def openBody : OpenElement := ⟨⟨"Body", some "s", some envelopeUri, []⟩, bodyName, bodyBindings, []⟩

/-- The root of a written envelope with these nodes in its body. -/
def envelopeRoot (nodes : List Node) : Element := ⟨openEnvelope.tag, [.element openBody.tag nodes]⟩

/-- Reading a written envelope is reading the content of its body. -/
theorem ofBytes?_writtenEnvelope {content : String} {nodes : List Node} {readable : Bool}
    (h : Content.ReadsAs bodyBindings content nodes readable) :
    Element.ofBytes? (utf8Bytes (writtenEnvelope content)) =
      if readable = true then some (envelopeRoot nodes) else none := by
  have hbody : Tag.resolve? bodyBindings bodyName [] = some (openBody.tag, bodyBindings) := rfl
  have henvelope : Tag.resolve? .base envelopeName envelopeAttributes =
      some (openEnvelope.tag, bodyBindings) := rfl
  have hread : Content.ReadsAs bodyBindings
      (enclosed bodyName.written ([].map Attribute.written) content) [.element openBody.tag nodes]
      readable :=
    Content.ReadsAs.enclosed (by decide) (by simp) h rfl hbody
  have hwritten : writtenEnvelope content = writtenDeclaration ++
      enclosed envelopeName.written (envelopeAttributes.map Attribute.written)
        (enclosed bodyName.written ([].map Attribute.written) content) := rfl
  rw [hwritten]
  exact Element.ofBytes?_enclosed (by decide) (by decide) rfl henvelope hread

/-- A written envelope is no blank answer. -/
theorem writtenEnvelope_not_blank (content : String) :
    (utf8Bytes (writtenEnvelope content)).all Envelope.isBlankByte = false := by
  rw [writtenEnvelope, utf8Bytes_append, List.all_append]
  rfl

namespace Envelope

/-- The envelope that announces the usual encoding and holds these elements in its body. -/
def holding (elements : List Element) : Envelope where
  encodingStyle := some encodingUri
  fault := (elements.find? (·.name == "Fault")).map Fault.ofElement
  action := elements.find? (·.name != "Fault")

/-- The root of a written envelope is an envelope. -/
theorem ofElement_envelopeRoot (nodes : List Node) :
    ofElement (envelopeRoot nodes) = .ok (holding (nodes.filterMap Node.element?)) := rfl

/-- A written envelope is decoded exactly if the content of its body can be read. -/
theorem decode_writtenEnvelope {content : String} {nodes : List Node} {readable : Bool}
    (h : Content.ReadsAs bodyBindings content nodes readable) :
    decode (utf8Bytes (writtenEnvelope content)) =
      if readable = true then .ok (holding (nodes.filterMap Node.element?))
      else .error .malformed := by
  rw [decode, writtenEnvelope_not_blank, ofBytes?_writtenEnvelope h]
  cases readable with
  | false => rfl
  | true => exact ofElement_envelopeRoot nodes

end Envelope

end NatGateway.Soap
