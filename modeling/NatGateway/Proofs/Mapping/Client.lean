import NatGateway.Mapping.Facade
import NatGateway.Proofs.Soap.Client

/-!
# Calls for mappings

What the calls of a WAN connection and of a gateway send and when they succeed, by the action that
stands behind each of them. A call succeeds only if its action was answered, and a mapping is tried
until one of its attempts succeeds.
-/

namespace NatGateway.Mapping

open NatGateway.Http
open NatGateway.Soap (Action Answer Client SoapError)
open NatGateway.Wan (Connection Operation)

/-- The action that an operation of a connection posts. -/
def actionOf (connection : Connection) (operation : Operation) (record : Soap.Record) : Action :=
  (⟨connection.serviceType, none, Connection.payload operation record⟩ : Action).withName
    operation.name

/-- An operation succeeds only if its action was answered. -/
theorem call_eq_ok {connection : Connection} {operation : Operation} {record results : Soap.Record}
    {gateway : Gateway} (h : ((connection.call operation record).run gateway).1 = .ok results) :
    ∃ answer, ((connection.client.call connection.serviceType operation.name
      (Connection.payload operation record)).run gateway).1 = .ok answer := by
  change Except.bind ((connection.client.call _ _ _).run gateway).1 _ = _ at h
  obtain ⟨answer, hanswer, _⟩ := bind_eq_ok_iff.1 h
  exact ⟨answer, hanswer⟩

/-- An operation posts its action, or nothing. -/
theorem call_onlySends {connection : Connection} {operation : Operation} {record : Soap.Record}
    {P : Request → Prop}
    (h : ∀ text, (actionOf connection operation record).encode = .ok text →
      P (connection.client.request (actionOf connection operation record) text)) :
    OnlySends P (connection.call operation record) :=
  (Client.call_onlySends h).bind fun _ => OnlySends.pure _

/-- A mapping is added only if the operation succeeds. -/
theorem add_eq_ok {connection : Connection} {request : MappingRequest} {gateway : Gateway}
    (h : (((clientOf connection).add request).run gateway).1 = .ok ()) :
    ∃ results, ((connection.call .addPortMapping request.record).run gateway).1 = .ok results := by
  change Except.map _ ((connection.call .addPortMapping request.record).run gateway).1 = _ at h
  obtain ⟨results, hresults, _⟩ := map_eq_ok_iff.1 h
  exact ⟨results, hresults⟩

/-- A mapping is deleted only if the operation succeeds. -/
theorem delete_eq_ok {connection : Connection} {key : MappingKey} {gateway : Gateway}
    (h : (((clientOf connection).delete key).run gateway).1 = .ok ()) :
    ∃ results, ((connection.call .deletePortMapping key.record).run gateway).1 = .ok results := by
  change Except.map _ ((connection.call .deletePortMapping key.record).run gateway).1 = _ at h
  obtain ⟨results, hresults, _⟩ := map_eq_ok_iff.1 h
  exact ⟨results, hresults⟩

/-- Adding a mapping posts its action, or nothing. -/
theorem add_onlySends {connection : Connection} {request : MappingRequest} {P : Request → Prop}
    (h : ∀ text, (actionOf connection .addPortMapping request.record).encode = .ok text →
      P (connection.client.request (actionOf connection .addPortMapping request.record) text)) :
    OnlySends P ((clientOf connection).add request) :=
  (call_onlySends h).bind fun _ => OnlySends.pure _

/-- Adding a mapping exchanges the post of its action with a gateway that is reached. -/
theorem add_run {connection : Connection} {request : MappingRequest} {text : String}
    (h : (actionOf connection .addPortMapping request.record).encode = .ok text)
    (hheader : Gateway.isHeaderValue
      (actionOf connection .addPortMapping request.record).header = true)
    {gateway : Gateway} (hreaches : gateway.reaches connection.client.control = true) :
    (((clientOf connection).add request).run gateway).2 = gateway.after
      (connection.client.request (actionOf connection .addPortMapping request.record) text) := by
  have hsend := Client.send_run h hheader hreaches
  exact congrArg Prod.snd hsend

namespace MappingGateway

/-- Trying to add a mapping sends what the single attempts send. -/
theorem tryAdd_onlySends (mapping : MappingGateway) {client : MappingClient Gateway}
    {request : MappingRequest} {P : Request → Prop} (h : OnlySends P (client.add request))
    (left : Nat) : OnlySends P (mapping.tryAdd client request left) := by
  induction left with
  | zero => exact h.bind fun _ => OnlySends.pure _
  | succ left ih =>
    refine h.bind fun result => ?_
    cases result with
    | ok _ => exact OnlySends.pure _
    | error error => exact ih.bind fun _ => OnlySends.pure _

/-- The first attempt to add a mapping comes before all others. -/
theorem tryAdd_received (mapping : MappingGateway) {client : MappingClient Gateway}
    {request : MappingRequest} (h : OnlySends (fun _ => True) (client.add request)) (left : Nat)
    (gateway : Gateway) :
    ∃ later, ((mapping.tryAdd client request left).run gateway).2.received =
      later ++ ((client.add request).run gateway).2.received := by
  cases left with
  | zero => exact ⟨[], rfl⟩
  | succ left =>
    rw [tryAdd, StateT.run_bind]
    generalize (client.add request).run gateway = outcome
    obtain ⟨result, after⟩ := outcome
    cases result with
    | ok _ => exact ⟨[], rfl⟩
    | error error =>
      obtain ⟨later, hlater, _⟩ := tryAdd_onlySends mapping h left after
      exact ⟨later, hlater⟩

/-- A mapping that each attempt fails to add is not added. The invariant `Q` of the gateway is one
that makes an attempt fail and that an attempt keeps. -/
theorem tryAdd_fails {σ : Type} (mapping : MappingGateway) {client : MappingClient σ}
    {request : MappingRequest} {Q : σ → Prop}
    (hfails : ∀ state, Q state → ∃ error, ((client.add request).run state).1 = .error error)
    (hkeeps : ∀ state, Q state → Q ((client.add request).run state).2) (left : Nat) {state : σ}
    (h : Q state) :
    ∃ error, ((mapping.tryAdd client request left).run state).1.1 = .error error := by
  -- `Q` carries over from one attempt to the next, so the induction is on the attempts left.
  induction left generalizing state with
  | zero => exact hfails state h
  | succ left ih =>
    obtain ⟨error, herror⟩ := hfails state h
    obtain ⟨last, hlast⟩ := ih (hkeeps state h)
    refine ⟨last, ?_⟩
    rw [tryAdd, StateT.run_bind]
    generalize (client.add request).run state = outcome at herror hlast ⊢
    obtain ⟨result, after⟩ := outcome
    obtain rfl : result = .error error := herror
    exact hlast

/-- The request for a mapping, if the protocol and the addresses are known. -/
def preparedRequest (mapping : MappingGateway) (machine : Machine) (protocol : String)
    (internalPort externalPort : UInt16) (lease : UInt32) (description : String) :
    Except MappingError MappingRequest :=
  (readProtocol protocol).bind fun protocol =>
    (mapping.internalAddress machine).map fun internal =>
      mapping.mappingRequest protocol internal internalPort externalPort lease description

variable {σ : Type} {mapping : MappingGateway} {machine : Machine} {protocol description : String}
  {internalPort externalPort : UInt16} {lease : UInt32}

/-- Nothing is tried if there is no request. -/
theorem addMapping_of_error (client : MappingClient σ) {error : MappingError}
    (h : mapping.preparedRequest machine protocol internalPort externalPort lease description =
      .error error) :
    mapping.addMapping client machine protocol internalPort externalPort lease description =
      pure (.error error, []) := by
  unfold preparedRequest at h
  simp only [addMapping, h]

/-- A request is tried as often as the gateway asks for. -/
theorem addMapping_of_ok (client : MappingClient σ) {request : MappingRequest}
    (h : mapping.preparedRequest machine protocol internalPort externalPort lease description =
      .ok request) :
    mapping.addMapping client machine protocol internalPort externalPort lease description = do
      let (result, warnings) ← mapping.tryAdd client request (mapping.attempts - 1)
      return (sorted result, warnings) := by
  unfold preparedRequest at h
  simp only [addMapping, h]

/-- Adding a mapping sends what its attempts send. -/
theorem addMapping_onlySends {client : MappingClient Gateway} {request : MappingRequest}
    (h : mapping.preparedRequest machine protocol internalPort externalPort lease description =
      .ok request) {P : Request → Prop} (hadd : OnlySends P (client.add request)) :
    OnlySends P
      (mapping.addMapping client machine protocol internalPort externalPort lease description) := by
  rw [addMapping_of_ok client h]
  exact (tryAdd_onlySends mapping hadd _).bind fun _ => OnlySends.pure _

/-- Adding a mapping begins with one attempt. -/
theorem addMapping_received {client : MappingClient Gateway} {request : MappingRequest}
    (h : mapping.preparedRequest machine protocol internalPort externalPort lease description =
      .ok request) (hadd : OnlySends (fun _ => True) (client.add request)) (gateway : Gateway) :
    ∃ later, ((mapping.addMapping client machine protocol internalPort externalPort lease
        description).run gateway).2.received =
      later ++ ((client.add request).run gateway).2.received := by
  rw [addMapping_of_ok client h]
  exact tryAdd_received mapping hadd _ gateway

end MappingGateway

end NatGateway.Mapping
