import NatGateway.Proofs.Http.Exchange
import NatGateway.Proofs.Result
import NatGateway.Soap.Client

/-!
# Answers of a client

What a client makes of an answer, by its body. An answer is silent if it is blank or an envelope
without elements in its body: it tells of no action and of no fault. A client takes a silent answer
for one without arguments, under any status; only an empty body makes a refusing status a failure.
-/

namespace NatGateway.Soap

open NatGateway.Http
open NatGateway.Text (Bytes)
open NatGateway.Xml (Element)

/-! ## Bodies of answers -/

/-- The elements in the body of an envelope. -/
def bodyElements? (body : Bytes) : Option (List Element) :=
  (Element.ofBytes? body).bind fun root =>
    if root.name = "Envelope" then (root.child? "Body").map Element.elements else none

/-- Whether a body is blank, or an envelope with neither an action nor a fault. -/
def IsSilent (body : Bytes) : Prop :=
  body.all Envelope.isBlankByte = true ∨ bodyElements? body = some []

/-- Whether a body is an envelope with an action and without a fault. -/
def TellsAction (body : Bytes) : Prop :=
  ∃ elements, bodyElements? body = some elements ∧ (∃ element ∈ elements, element.name ≠ "Fault") ∧
    ∀ element ∈ elements, element.name ≠ "Fault"

/-- A body that is not blank is decoded by its elements. -/
theorem decode_eq_ok_iff {body : Bytes} (hblank : body.all Envelope.isBlankByte = false)
    {fault : Option Fault} {action : Option Element} :
    (∃ style, Envelope.decode body = .ok ⟨style, fault, action⟩) ↔
      ∃ elements, bodyElements? body = some elements ∧
        fault = (elements.find? (·.name == "Fault")).map Fault.ofElement ∧
          action = elements.find? (·.name != "Fault") := by
  rw [Envelope.decode, hblank]
  simp only [Bool.false_eq_true, if_false, bodyElements?]
  cases hroot : Element.ofBytes? body with
  | none => simp
  | some root =>
    simp only [Option.bind_some, Envelope.ofElement, bne]
    by_cases hname : root.name = "Envelope"
    · cases hbody : root.child? "Body" with
      | none => simp [hname]
      | some element =>
        simp only [hname, beq_self_eq_true, Bool.not_true, Bool.false_eq_true, if_false, if_true,
          Option.map_some, Option.some.injEq, exists_eq_left']
        constructor
        · rintro ⟨style, hstyle⟩
          cases hstyle
          exact ⟨rfl, rfl⟩
        · rintro ⟨rfl, rfl⟩
          exact ⟨_, rfl⟩
    · simp [hname]

/-- An envelope answers nothing exactly if it holds neither a fault nor an action. -/
theorem result_eq_none_iff (envelope : Envelope) :
    envelope.result = .ok none ↔ envelope.fault = none ∧ envelope.action = none := by
  obtain ⟨style, fault, action⟩ := envelope
  cases fault with
  | some fault => simp [Envelope.result]
  | none =>
    cases action with
    | none => simp [Envelope.result]
    | some element =>
      cases hanswer : Answer.ofElement element <;> simp [Envelope.result, hanswer, Except.map]

/-- An envelope answers arguments only if it holds an action and no fault. -/
theorem result_eq_some {envelope : Envelope} {answer : Answer}
    (h : envelope.result = .ok (some answer)) :
    envelope.fault = none ∧ ∃ element, envelope.action = some element := by
  obtain ⟨style, fault, action⟩ := envelope
  cases fault with
  | some fault => cases h
  | none =>
    cases action with
    | none => cases h
    | some element => exact ⟨rfl, element, rfl⟩

/-- The elements of a body in which there is neither a fault nor an action. -/
theorem find?_fault_action_eq_none_iff (elements : List Element) :
    elements.find? (·.name == "Fault") = none ∧ elements.find? (·.name != "Fault") = none ↔
      elements = [] := by
  cases elements with
  | nil => simp
  | cons element rest =>
    cases hname : element.name == "Fault" <;> simp [bne, hname]

/-- An answer without arguments comes of silence, and only of silence. -/
theorem result_decode_eq_none_iff (body : Bytes) :
    (Envelope.decode body).bind Envelope.result = .ok none ↔ IsSilent body := by
  rw [bind_eq_ok_iff, IsSilent]
  cases hblank : body.all Envelope.isBlankByte with
  | true => simp [Envelope.decode, hblank, Envelope.empty, Envelope.result]
  | false =>
    simp only [Bool.false_eq_true, false_or]
    constructor
    · rintro ⟨⟨style, fault, action⟩, hdecode, hresult⟩
      obtain ⟨rfl, rfl⟩ := (result_eq_none_iff ⟨style, fault, action⟩).1 hresult
      obtain ⟨elements, helements, hfault, haction⟩ := (decode_eq_ok_iff hblank).1 ⟨style, hdecode⟩
      rw [helements, (find?_fault_action_eq_none_iff elements).1
        ⟨Option.map_eq_none_iff.1 hfault.symm, haction.symm⟩]
    · intro helements
      obtain ⟨style, hdecode⟩ := (decode_eq_ok_iff hblank).2 ⟨[], helements, rfl, rfl⟩
      exact ⟨_, hdecode, rfl⟩

/-- Arguments come of an action without a fault. -/
theorem tellsAction_of_result {body : Bytes} {answer : Answer}
    (h : (Envelope.decode body).bind Envelope.result = .ok (some answer)) : TellsAction body := by
  obtain ⟨⟨style, fault, action⟩, hdecode, hresult⟩ := bind_eq_ok_iff.1 h
  obtain ⟨rfl, element, rfl⟩ := result_eq_some hresult
  have hblank : body.all Envelope.isBlankByte = false := by
    rw [Bool.eq_false_iff]
    intro hblank
    rw [Envelope.decode, if_pos hblank] at hdecode
    cases hdecode
  obtain ⟨elements, helements, hfault, haction⟩ := (decode_eq_ok_iff hblank).1 ⟨style, hdecode⟩
  have hnoFault := Option.map_eq_none_iff.1 hfault.symm
  refine ⟨elements, helements, ⟨element, List.mem_of_find?_eq_some haction.symm, ?_⟩, ?_⟩
  · simpa [bne] using List.find?_some haction.symm
  · simpa using hnoFault

/-! ## Sending -/

namespace Client

/-- What a client makes of an answer with a refusing status. -/
theorem readOutcome_refusing {status : Nat} (h : status ≠ 200) (body : Bytes) :
    readOutcome (.answered status (some body)) =
      if body = [] then .error (.status status)
      else (Envelope.decode body).bind Envelope.result := by
  cases body with
  | nil => simp [readOutcome, h]
  | cons b rest => simp [readOutcome]

variable {client : Client} {action : Action} {text : String}

/-- An action that can be written is sent if the header can name it. -/
theorem send_of_encode (h : action.encode = .ok text) :
    client.send action =
      if Gateway.isHeaderValue action.header = true then do
        return readOutcome (← Gateway.exchange (client.request action text))
      else return .error .transport := by
  rw [send, h]

/-- An action that cannot be written is not sent. -/
theorem send_of_encode_error {error : SoapError} (h : action.encode = .error error) :
    client.send action = pure (.error error) := by
  rw [send, h]

/-- What an action is answered, if it is sent and reaches the gateway. -/
theorem send_run (h : action.encode = .ok text)
    (hheader : Gateway.isHeaderValue action.header = true) {gateway : Gateway}
    (hreaches : gateway.reaches client.control = true) :
    (client.send action).run gateway =
      (readOutcome (gateway.outcome (client.request action text)),
        gateway.after (client.request action text)) := by
  have hrun := Gateway.exchange_run (client.request action text) gateway
  rw [if_pos (show gateway.reaches (client.request action text).url = true from hreaches)] at hrun
  rw [send_of_encode h, if_pos hheader]
  simp only [StateT.run_bind, hrun]
  rfl

/-- Nothing is sent to a gateway that is not reached. -/
theorem send_run_of_not_reaches (h : action.encode = .ok text)
    (hheader : Gateway.isHeaderValue action.header = true) {gateway : Gateway}
    (hreaches : gateway.reaches client.control = false) :
    (client.send action).run gateway = (.error .transport, gateway) := by
  have hrun := Gateway.exchange_run (client.request action text) gateway
  rw [if_neg (show ¬ gateway.reaches (client.request action text).url = true from
    Bool.eq_false_iff.1 hreaches)] at hrun
  rw [send_of_encode h, if_pos hheader]
  simp only [StateT.run_bind, hrun]
  rfl

/-- Only an action that was sent and reached the gateway is answered at all. -/
theorem send_eq_ok {gateway : Gateway} {answer : Option Answer}
    (h : ((client.send action).run gateway).1 = .ok answer) :
    ∃ text, action.encode = .ok text ∧ Gateway.isHeaderValue action.header = true ∧
      gateway.reaches client.control = true ∧
        readOutcome (gateway.outcome (client.request action text)) = .ok answer := by
  cases hencode : action.encode with
  | error error =>
    rw [send_of_encode_error hencode] at h
    cases h
  | ok text =>
    by_cases hheader : Gateway.isHeaderValue action.header = true
    · cases hreaches : gateway.reaches client.control with
      | true =>
        rw [send_run hencode hheader hreaches] at h
        exact ⟨text, rfl, hheader, rfl, h⟩
      | false =>
        rw [send_run_of_not_reaches hencode hheader hreaches] at h
        cases h
    · rw [send_of_encode hencode, if_neg hheader] at h
      cases h

/-- A call is answered by what its action is answered; silence has no arguments. -/
theorem call_eq_ok {uri name : String} {payload : Payload} {gateway : Gateway} {answer : Answer}
    (h : ((client.call uri name payload).run gateway).1 = .ok answer) :
    ∃ told, ((client.send ((⟨uri, none, payload⟩ : Action).withName name)).run gateway).1 = .ok told ∧
      answer = told.getD .empty := by
  change Except.map _ ((client.send _).run gateway).1 = _ at h
  obtain ⟨told, htold, hanswer⟩ := map_eq_ok_iff.1 h
  exact ⟨told, htold, hanswer.symm⟩

/-- Sending an action posts its text, or nothing; it may be redirected. -/
theorem send_onlySends {P : Request → Prop}
    (h : ∀ text, action.encode = .ok text → P (client.request action text)) :
    OnlySends P (client.send action) := by
  cases hencode : action.encode with
  | error error =>
    rw [send_of_encode_error hencode]
    exact OnlySends.pure _
  | ok text =>
    rw [send_of_encode hencode]
    split
    · exact (OnlySends.exchange (h text hencode)).bind fun _ => OnlySends.pure _
    · exact OnlySends.pure _

/-- A call sends what its action sends. -/
theorem call_onlySends {P : Request → Prop} {uri name : String} {payload : Payload}
    (h : ∀ text, ((⟨uri, none, payload⟩ : Action).withName name).encode = .ok text →
      P (client.request ((⟨uri, none, payload⟩ : Action).withName name) text)) :
    OnlySends P (client.call uri name payload) :=
  (send_onlySends h).bind fun _ => OnlySends.pure _

end Client

end NatGateway.Soap
