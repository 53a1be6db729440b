import NatGateway.Proofs.Mapping.Client
import NatGateway.Proofs.Soap.Action

/-!
# Answers with a refusing status

When an operation succeeds although the gateway answered with a status other than 200. An empty body
never lets it, and a fault neither. What remains is an action in the body, or silence: a gateway that
refuses with a blank body or an empty envelope is taken to have done what it was asked.
-/

namespace NatGateway.Mapping

open NatGateway.Http
open NatGateway.Soap
open NatGateway.Text (Bytes utf8Bytes)
open NatGateway.Wan (Connection Operation)

/-- An outcome that is no success: no whole answer, or a refusing status whose body is empty or tells
neither of an action nor of nothing at all. -/
def Refuses : Outcome → Prop
  | .failed => True
  | .answered _ none => True
  | .answered status (some body) =>
      status ≠ 200 ∧ (body = [] ∨ ¬ TellsAction body ∧ ¬ IsSilent body)

/-- A refusing status is passed over only for an action or for silence. -/
theorem readOutcome_eq_ok {status : Nat} (hstatus : status ≠ 200) {body : Bytes}
    {answer : Option Answer}
    (h : Client.readOutcome (.answered status (some body)) = .ok answer) :
    body ≠ [] ∧ (TellsAction body ∨ IsSilent body) := by
  rw [Client.readOutcome_refusing hstatus] at h
  by_cases hempty : body = []
  · rw [if_pos hempty] at h
    cases h
  · rw [if_neg hempty] at h
    refine ⟨hempty, ?_⟩
    cases answer with
    | none => exact Or.inr ((result_decode_eq_none_iff body).1 h)
    | some answer => exact Or.inl (tellsAction_of_result h)

/-- No success is read from a refusal. -/
theorem readOutcome_refuses {outcome : Outcome} (h : Refuses outcome) (answer : Option Answer) :
    Client.readOutcome outcome ≠ .ok answer := by
  intro hok
  cases outcome with
  | failed => cases hok
  | answered status body =>
    cases body with
    | none => cases hok
    | some body =>
      obtain ⟨hstatus, hbody⟩ := h
      obtain ⟨hnonempty, htold⟩ := readOutcome_eq_ok hstatus hok
      rcases hbody with hempty | ⟨hno, hloud⟩
      · exact hnonempty hempty
      · exact htold.elim hno hloud

/-- A gateway of which all replies to come are refusals refuses every exchange, redirected or not and even
after its script is over. -/
theorem outcome_refuses {gateway : Gateway} (h : ∀ reply ∈ gateway.script, Refuses reply.outcome)
    (request : Request) : Refuses (gateway.outcome request) :=
  Gateway.outcome_of_forall trivial ⟨by decide, Or.inl rfl⟩ h request

/-- An operation that succeeds was told of success by the outcome of its exchange. -/
theorem readOutcome_of_call {connection : Connection} {operation : Operation}
    {record results : Record} {gateway : Gateway}
    (h : ((connection.call operation record).run gateway).1 = .ok results) :
    ∃ request told, request.url = connection.client.control ∧
      Client.readOutcome (gateway.outcome request) = .ok told := by
  obtain ⟨answer, hanswer⟩ := call_eq_ok h
  obtain ⟨told, htold, _⟩ := Client.call_eq_ok hanswer
  obtain ⟨text, _, _, _, hread⟩ := Client.send_eq_ok htold
  exact ⟨_, told, rfl, hread⟩

/-- No attempt to add a mapping succeeds with a gateway that only refuses. -/
theorem add_fails {connection : Connection} {request : MappingRequest} {gateway : Gateway}
    (h : ∀ reply ∈ gateway.script, Refuses reply.outcome) :
    ∃ error, (((clientOf connection).add request).run gateway).1 = .error error := by
  cases hadd : (((clientOf connection).add request).run gateway).1 with
  | error error => exact ⟨error, rfl⟩
  | ok _ =>
    obtain ⟨results, hresults⟩ := add_eq_ok hadd
    obtain ⟨post, told, _, htold⟩ := readOutcome_of_call hresults
    exact absurd htold (readOutcome_refuses (outcome_refuses h post) told)

/-- A mapping is not added, however often it is tried, by a gateway that only refuses. -/
theorem addMapping_fails (mapping : MappingGateway) (connection : Connection) (machine : Machine)
    (protocol : String) (internalPort externalPort : UInt16) (lease : UInt32) (description : String)
    {gateway : Gateway} (h : ∀ reply ∈ gateway.script, Refuses reply.outcome) :
    ((mapping.addMapping (clientOf connection) machine protocol internalPort externalPort lease
      description).run gateway).1.1 ≠ .ok () := by
  cases hprepared : mapping.preparedRequest machine protocol internalPort externalPort lease
      description with
  | error error =>
    rw [MappingGateway.addMapping_of_error _ hprepared]
    intro hok
    cases hok
  | ok request =>
    have hkeeps : ∀ state : Gateway, (∀ reply ∈ state.script, Refuses reply.outcome) →
        ∀ reply ∈ (((clientOf connection).add request).run state).2.script, Refuses reply.outcome :=
      fun state hstate => OnlySends.forall_script
        (@add_onlySends connection request (fun _ => True) fun _ _ => trivial) hstate
    obtain ⟨error, herror⟩ := MappingGateway.tryAdd_fails mapping
      (fun state hstate => add_fails hstate) hkeeps (mapping.attempts - 1) h
    rw [MappingGateway.addMapping_of_ok _ hprepared, StateT.run_bind]
    generalize (mapping.tryAdd (clientOf connection) request (mapping.attempts - 1)).run gateway =
      outcome at herror ⊢
    obtain ⟨⟨result, warnings⟩, after⟩ := outcome
    obtain rfl : result = .error error := herror
    intro hok
    cases hok

/-- Where exchanges with the control URL of a connection end with a refusing status, an action that was
sent is answered by nothing only for silence, and always for it unless the body is empty. So a call into
nothing, and the calls that add and delete mappings, pass over such a status only for an action without a
fault or for silence. -/
theorem silence_of_refusing_status {gateway : Gateway} {status : Nat} {body : Bytes}
    (hstatus : status ≠ 200) (connection : Connection)
    (hanswer : ∀ request : Request, request.url = connection.client.control →
      gateway.outcome request = .answered status (some body)) :
    (∀ action text, action.encode = .ok text →
      (((connection.client.send action).run gateway).1 = .ok none ↔
        Gateway.isHeaderValue action.header = true ∧
          gateway.reaches connection.client.control = true ∧ body ≠ [] ∧ IsSilent body) ∧
      (Gateway.isHeaderValue action.header = true →
        gateway.reaches connection.client.control = true → body = [] →
          ((connection.client.send action).run gateway).1 = .error (.status status))) ∧
    (∀ uri name payload answer,
      ((connection.client.call uri name payload).run gateway).1 = .ok answer →
        body ≠ [] ∧ (TellsAction body ∨ IsSilent body)) ∧
    (∀ request, (((clientOf connection).add request).run gateway).1 = .ok () →
      body ≠ [] ∧ (TellsAction body ∨ IsSilent body)) ∧
    (∀ key, (((clientOf connection).delete key).run gateway).1 = .ok () →
      body ≠ [] ∧ (TellsAction body ∨ IsSilent body)) ∧
    ∀ (mapping : MappingGateway) (machine : Machine) (protocol description : String)
      (internalPort externalPort : UInt16) (lease : UInt32),
      (∀ reply ∈ gateway.script, Refuses reply.outcome) →
        ((mapping.addMapping (clientOf connection) machine protocol internalPort externalPort lease
          description).run gateway).1.1 ≠ .ok () := by
  have hoperation : ∀ {operation : Operation} {record results : Record},
      ((connection.call operation record).run gateway).1 = .ok results →
        body ≠ [] ∧ (TellsAction body ∨ IsSilent body) := by
    intro operation record results hresults
    obtain ⟨request, told, hurl, htold⟩ := readOutcome_of_call hresults
    rw [hanswer request hurl] at htold
    exact readOutcome_eq_ok hstatus htold
  refine ⟨fun action text hencode => ⟨⟨fun h => ?_, fun h => ?_⟩, fun hheader hreaches hempty => ?_⟩,
    fun uri name payload answer h => ?_, fun request h => ?_, fun key h => ?_,
    fun mapping machine protocol description internalPort externalPort lease =>
      addMapping_fails mapping connection machine protocol internalPort externalPort lease
        description⟩
  · obtain ⟨text, _, hheader, hreaches, htold⟩ := Client.send_eq_ok h
    rw [hanswer (connection.client.request action text) rfl] at htold
    obtain ⟨hnonempty, _⟩ := readOutcome_eq_ok hstatus htold
    rw [Client.readOutcome_refusing hstatus, if_neg hnonempty] at htold
    exact ⟨hheader, hreaches, hnonempty, (result_decode_eq_none_iff body).1 htold⟩
  · obtain ⟨hheader, hreaches, hnonempty, hsilent⟩ := h
    rw [Client.send_run hencode hheader hreaches, hanswer (connection.client.request action text) rfl]
    simp only [Client.readOutcome_refusing hstatus, if_neg hnonempty]
    exact (result_decode_eq_none_iff body).2 hsilent
  · rw [Client.send_run hencode hheader hreaches, hanswer (connection.client.request action text) rfl]
    simp only [Client.readOutcome_refusing hstatus, if_pos hempty]
  · obtain ⟨told, htold, _⟩ := Client.call_eq_ok h
    obtain ⟨text, _, _, _, hread⟩ := Client.send_eq_ok htold
    rw [hanswer _ rfl] at hread
    exact readOutcome_eq_ok hstatus hread
  · obtain ⟨results, hresults⟩ := add_eq_ok h
    exact hoperation hresults
  · obtain ⟨results, hresults⟩ := delete_eq_ok h
    exact hoperation hresults

/-- A missing page without a body is a failure of the exchange. -/
theorem missing_page_fails :
    let control : Url := ⟨"http", some ⟨"", "", some (.ipv4 (.ofOctets 192 168 1 1)), none⟩,
      .segments ["ctl"], none, none⟩
    let action : Action := ⟨"urn:x", some "GetStatusInfo", .empty⟩
    let gateway : Gateway := ⟨.ipv4 (.ofOctets 192 168 1 1), 80, [.answered 404 none (some [])], []⟩
    404 ≠ 200 ∧ ((Client.send ⟨control⟩ action).run gateway).1 = .error (.status 404) := by
  intro control action gateway
  have hwritten : action.encode = .ok (writtenEnvelope action.bodyText) :=
    Action.encode_eq_ok_iff.2 ⟨by decide, rfl⟩
  have hanswers := @silence_of_refusing_status gateway 404 [] (by decide) ⟨⟨control⟩, "urn:x"⟩
    fun _ _ => Gateway.outcome_of_not_redirected rfl
  exact ⟨by decide, (hanswers.1 action _ hwritten).2 (by decide) (by decide) rfl⟩

/-- An envelope without content is silent. -/
theorem isSilent_emptyEnvelope : IsSilent (utf8Bytes (writtenEnvelope "")) := by
  right
  rw [bodyElements?, ofBytes?_writtenEnvelope (Xml.Content.readsAs_empty bodyBindings)]
  rfl

/-- A server that fails with an empty envelope is not noticed. -/
theorem failing_server_unnoticed :
    let control : Url := ⟨"http", some ⟨"", "", some (.ipv4 (.ofOctets 192 168 1 1)), none⟩,
      .segments ["ctl"], none, none⟩
    let action : Action := ⟨"urn:x", some "AddPortMapping", .empty⟩
    let gateway : Gateway := ⟨.ipv4 (.ofOctets 192 168 1 1), 80,
      [.answered 500 none (some (utf8Bytes (writtenEnvelope "")))], []⟩
    (∃ text, action.encode = .ok text) ∧
      ((Client.send ⟨control⟩ action).run gateway).1 = .ok none := by
  intro control action gateway
  have hwritten : action.encode = .ok (writtenEnvelope action.bodyText) :=
    Action.encode_eq_ok_iff.2 ⟨by decide, rfl⟩
  have houtcome : ∀ request, gateway.outcome request =
      .answered 500 (some (utf8Bytes (writtenEnvelope ""))) :=
    fun _ => Gateway.outcome_of_not_redirected rfl
  have hnonempty : utf8Bytes (writtenEnvelope "") ≠ [] := by
    intro hempty
    have hblank := writtenEnvelope_not_blank ""
    rw [hempty] at hblank
    cases hblank
  refine ⟨⟨_, hwritten⟩, ?_⟩
  rw [Client.send_run hwritten (by decide) (by decide), houtcome]
  simp only [Client.readOutcome_refusing (show 500 ≠ 200 by decide), if_neg hnonempty]
  exact (result_decode_eq_none_iff _).2 isSilent_emptyEnvelope

end NatGateway.Mapping
