import NatGateway.Proofs.Soap.Schema
import NatGateway.Proofs.Text.Integer
import NatGateway.Proofs.Xml.Written

/-!
# Written faults

What a reader is told by a fault that was written. Its texts come back without the white space at their
ends, whatever markup they look like, and the device error comes back if its code and its description
were both given. So the number of a fault is known from the code that was given for it. Of the texts it is
asked only that a document may hold their characters.
-/

namespace NatGateway.Xml

/-- Without white space at its ends, what is read of a text is the text. -/
theorem Element.trim_text?_textNodes (tag : Tag) (text : String) :
    ((Element.text? ⟨tag, textNodes text⟩).map Text.trim).getD "" = Text.trim text := by
  unfold textNodes
  split
  · next hspace =>
    have hblank : Text.isBlankText text = true := List.all_eq_true.2 fun c hc =>
      Soap.isBlank_of_isSpace (List.all_eq_true.1 hspace c hc)
    rw [(Text.trim_eq_empty_iff text).2 hblank]
    rfl
  · simp [Element.text?, Node.text?]

/-- The first child element is found by its name, and other names pass it over. -/
theorem Element.child?_cons (tag : Tag) (head : Element) (rest : List Node) (name : String) :
    Element.child? ⟨tag, head.node :: rest⟩ name =
      if head.name = name then some head else Element.child? ⟨tag, rest⟩ name := by
  have hhead : head.node.element? = some head := rfl
  unfold Element.child? Element.named Element.elements
  rw [List.filterMap_cons_some hhead, List.filter_cons]
  by_cases h : head.name = name
  · rw [if_pos h, if_pos (beq_iff_eq.2 h), List.head?_cons]
  · rw [if_neg h, if_neg (mt beq_iff_eq.1 h)]

/-- A text that stands first is found by the name of its element, and other names pass it over. -/
theorem Element.textOf_cons (tag : Tag) (uri name text : String) (rest : List Node) (other : String) :
    Element.textOf ⟨tag, Content.textElementNode uri (name, text) :: rest⟩ other =
      if name = other then Text.trim text else Element.textOf ⟨tag, rest⟩ other := by
  let head : Element := ⟨⟨name, none, if uri.isEmpty then none else some uri, []⟩, textNodes text⟩
  have hhead : Content.textElementNode uri (name, text) = head.node := rfl
  have hname : head.name = name := rfl
  rw [Element.textOf, hhead, Element.child?_cons, hname]
  by_cases h : name = other
  · rw [if_pos h, if_pos h, Option.bind_some, Element.trim_text?_textNodes]
  · rw [if_neg h, if_neg h, Element.textOf]

end NatGateway.Xml

namespace NatGateway.Soap

open NatGateway.Text (StandsFor trim trimmed utf8Bytes)
open NatGateway.Xml

variable {code text : String} {error : Option DeviceError}

/-! ## Reading a written fault -/

/-- The nodes that the detail of a fault is read back as. -/
def detailNodes : Option DeviceError → List Node
  | none => []
  | some error =>
      [.element ⟨"detail", none, none, []⟩ [.element ⟨"UPnPError", none, some controlUri, []⟩
        [Content.textElementNode controlUri ("errorCode", error.code),
          Content.textElementNode controlUri ("errorDescription", error.description)]]]

/-- The element that a fault is read back as. -/
def faultElement (code text : String) (error : Option DeviceError) : Element :=
  ⟨⟨"Fault", some "s", some envelopeUri, []⟩,
    Content.textElementNode "" ("faultcode", code) ::
      Content.textElementNode "" ("faultstring", text) :: detailNodes error⟩

/-- Whether a document may hold the texts of a device error. -/
def DeviceError.isXml (error : DeviceError) : Bool :=
  isXmlText error.code && isXmlText error.description

/-- The detail of a fault is read if a document may hold its texts. -/
theorem readsAs_writtenDetail (error : Option DeviceError) :
    Content.ReadsAs bodyBindings (writtenDetail error) (detailNodes error)
      (error.all DeviceError.isXml) := by
  cases error with
  | none => exact Content.readsAs_empty bodyBindings
  | some error =>
    have hdetail : Tag.resolve? bodyBindings ⟨none, "detail"⟩ [] =
        some (⟨"detail", none, none, []⟩, bodyBindings) := rfl
    have herror : Tag.resolve? bodyBindings ⟨none, "UPnPError"⟩ [⟨⟨none, "xmlns"⟩, controlUri⟩] =
        some (⟨"UPnPError", none, some controlUri, []⟩, ("", controlUri) :: bodyBindings) := rfl
    have hbound : (("", controlUri) :: bodyBindings : Bindings).lookup "" = some controlUri := rfl
    have hcode := Content.readsAs_textElement hbound (by decide : isXmlName "errorCode" = true) error.code
    have hdescription := Content.readsAs_textElement hbound (by decide : isXmlName "errorDescription" = true)
      error.description
    have hinner := (hcode.append hdescription).enclosed (by decide) (by decide) (by decide) herror
    have houter := hinner.enclosed (by decide) (by simp) (by decide) hdetail
    exact houter

/-- A fault is read if a document may hold its texts. -/
theorem readsAs_fault (code text : String) (error : Option DeviceError) :
    Content.ReadsAs bodyBindings
      (enclosed "s:Fault" [] (textElement "faultcode" code ++ textElement "faultstring" text ++
        writtenDetail error))
      [(faultElement code text error).node]
      (isXmlText code && isXmlText text && error.all DeviceError.isXml) := by
  have hname : QName.written ⟨some "s", "Fault"⟩ = "s:Fault" := rfl
  have hfault : Tag.resolve? bodyBindings ⟨some "s", "Fault"⟩ [] =
      some (⟨"Fault", some "s", some envelopeUri, []⟩, bodyBindings) := rfl
  have hbound : bodyBindings.lookup "" = some "" := rfl
  have hcode := Content.readsAs_textElement hbound (by decide : isXmlName "faultcode" = true) code
  have htext := Content.readsAs_textElement hbound (by decide : isXmlName "faultstring" = true) text
  have hread := ((hcode.append htext).append (readsAs_writtenDetail error)).enclosed (by decide)
    (by simp) rfl hfault
  rw [hname] at hread
  exact hread

/-- A written fault is decoded exactly if a document may hold its texts. -/
theorem decode_writtenFault (code text : String) (error : Option DeviceError) :
    Envelope.decode (utf8Bytes (writtenFault code text error)) =
      if (isXmlText code && isXmlText text && error.all DeviceError.isXml) = true then
        .ok (Envelope.holding [faultElement code text error])
      else .error .malformed :=
  Envelope.decode_writtenEnvelope (readsAs_fault code text error)

/-! ## What a written fault tells -/

/-- The device error that comes back of the detail of a fault. -/
theorem child?_detailNodes (tag : Tag) (error : Option DeviceError) :
    ((Element.child? ⟨tag, detailNodes error⟩ "detail").bind (·.child? "UPnPError")) =
      error.map fun error => ⟨⟨"UPnPError", none, some controlUri, []⟩,
        [Content.textElementNode controlUri ("errorCode", error.code),
          Content.textElementNode controlUri ("errorDescription", error.description)]⟩ := by
  cases error <;> rfl

/-- What comes back of a written fault. -/
theorem ofElement_faultElement (code text : String) (error : Option DeviceError) :
    Fault.ofElement (faultElement code text error) =
      ⟨trim code, trim text, "",
        (error.map fun error => ⟨trim error.code, trim error.description⟩).getD ⟨"", ""⟩⟩ := by
  let tag := (faultElement code text error).tag
  have hcode : (faultElement code text error).textOf "faultcode" = trim code := by
    rw [faultElement, Element.textOf_cons, if_pos rfl]
  have htext : (faultElement code text error).textOf "faultstring" = trim text := by
    rw [faultElement, Element.textOf_cons, if_neg (by decide), Element.textOf_cons, if_pos rfl]
  have hactor : (faultElement code text error).textOf "faultactor" = "" := by
    rw [faultElement, Element.textOf_cons, if_neg (by decide), Element.textOf_cons, if_neg (by decide)]
    cases error <;> rfl
  have hdetail : (faultElement code text error).child? "detail" =
      Element.child? ⟨tag, detailNodes error⟩ "detail" := rfl
  rw [Fault.ofElement, hcode, htext, hactor, hdetail, child?_detailNodes]
  cases error with
  | none => rfl
  | some error =>
    have hne : "errorCode" ≠ "errorDescription" := by decide
    simp only [Option.map_some, Option.getD_some, Element.textOf_cons, if_true, if_neg hne]

/-- The number of a fault is the one that the code of its device error stands for, if it has thirty-two
bits. -/
theorem Fault.number?_eq_some_iff {fault : Fault} {n : Int} :
    fault.number? = some n ↔ StandsFor false (trimmed fault.detail.code.toList) n ∧ n ≤ 4294967295 := by
  have hsigned : Text.IntegerType.u32.signed = false := rfl
  have htop : Text.IntegerType.u32.top = 4294967295 := by decide
  have hdepth : Text.IntegerType.u32.depth = 0 := rfl
  rw [number?, toOption_eq_some_iff, Text.IntegerType.read_eq_ok_iff, Text.IntegerType.Holds, hsigned,
    htop, hdepth]
  refine and_congr_right fun h => and_iff_right_of_imp fun _ => ?_
  have hnonneg := h.nonneg
  omega

/-- Without a device error a fault has no number. -/
theorem Fault.number?_of_noDetail {fault : Fault} (h : fault.detail = ⟨"", ""⟩) :
    fault.number? = none := by
  rw [number?, h]
  rfl

/-- A written fault comes back. Its code and its text are without the white space at their ends, it names
no actor, and it tells the device error if both parts of one were given. So it has a number exactly if both
were given and the code stands for one of thirty-two bits without a sign. -/
theorem decode_writtenFault_received {code text : String} {errorCode description : Option String}
    (hcode : isXmlText code = true) (htext : isXmlText text = true)
    (herrorCode : ∀ given ∈ errorCode, isXmlText given = true)
    (hdescription : ∀ given ∈ description, isXmlText given = true) :
    ∃ envelope fault,
      Envelope.decode
          (utf8Bytes (writtenFault code text (DeviceError.ofParts? errorCode description))) =
        .ok envelope ∧
      envelope.result = .error (.fault fault) ∧
      fault.code = trim code ∧ fault.text = trim text ∧ fault.actor = "" ∧
      fault.detail = (match errorCode, description with
        | some errorCode, some description => ⟨trim errorCode, trim description⟩
        | _, _ => ⟨"", ""⟩) ∧
      ∀ n, fault.number? = some n ↔
        ∃ given, errorCode = some given ∧ description.isSome = true ∧
          StandsFor false (trimmed given.toList) n ∧ n ≤ 4294967295 := by
  have hreadable : (isXmlText code && isXmlText text &&
      (DeviceError.ofParts? errorCode description).all DeviceError.isXml) = true := by
    rw [hcode, htext]
    rcases errorCode with - | errorCode <;> rcases description with - | description
    case some.some =>
      simp only [DeviceError.ofParts?, Option.all_some, DeviceError.isXml, herrorCode errorCode rfl,
        hdescription description rfl, Bool.and_self]
    all_goals rfl
  refine ⟨_, _, (decode_writtenFault code text _).trans (if_pos hreadable), rfl, ?_⟩
  rw [ofElement_faultElement]
  refine ⟨rfl, rfl, rfl, ?_, fun n => ?_⟩
  · rcases errorCode with - | errorCode <;> rcases description with - | description <;> rfl
  · rcases errorCode with - | errorCode <;> rcases description with - | description
    case some.some =>
      have htwice : trimmed (trim errorCode).toList = trimmed errorCode.toList := by
        rw [trim, String.toList_ofList, Text.trimmed_trimmed]
      rw [Fault.number?_eq_some_iff]
      simp [DeviceError.ofParts?, htwice]
    all_goals
      rw [Fault.number?_of_noDetail rfl]
      simp

/-- A fault whose texts look like markup, with a plus and white space around the number of its device
error. -/
theorem decode_writtenFault_received_markup :
    ∃ envelope fault,
      Envelope.decode (utf8Bytes (writtenFault "s:Client" " </faultstring>&amp; "
          (some ⟨"\t+718\n", "]]>"⟩))) = .ok envelope ∧
        envelope.result = .error (.fault fault) ∧ fault.text = "</faultstring>&amp;" ∧
        fault.detail = ⟨"+718", "]]>"⟩ ∧ fault.number? = some 718 := by
  obtain ⟨envelope, fault, hdecode, hresult, _, htext, _, hdetail, hnumber⟩ :=
    @decode_writtenFault_received "s:Client" " </faultstring>&amp; " (some "\t+718\n") (some "]]>")
      (by decide) (by decide) (by rintro _ ⟨⟩; decide) (by rintro _ ⟨⟩; decide)
  have hcode : StandsFor false "+718".toList 718 :=
    @StandsFor.plus false "718".toList ⟨by decide, List.all_eq_true.1 (by decide)⟩
  exact ⟨envelope, fault, hdecode, hresult, htext.trans (by decide), hdetail.trans (by decide),
    (hnumber 718).2 ⟨_, rfl, rfl, hcode, by decide⟩⟩

end NatGateway.Soap
