import NatGateway.Proofs.Mapping.Attempts
import NatGateway.Proofs.Mapping.Request

/-!
# The key of a mapping on the wire

A mapping is added, looked up and deleted by three requests that are put together apart. What their
receiver reads from each of them begins with the same key: no remote host, the external port and the
name of the protocol, in whatever letter case the protocol was spelled. So a mapping is found under the
key that it was added with, and under no other. Only the description can come in the way of that, by
making the request to add a mapping unreadable as a whole. A text that is no protocol is refused before
anything else is done.
-/

namespace NatGateway.Soap

/-- From an answer of which a schema is read, a schema with the first of its fields reads the first of
the values. -/
theorem Schema.read_take {schema : Schema} (front : Schema) {rest : List Field}
    (hfields : schema.fields = front.fields ++ rest) {answer : Answer} {record : Record}
    (h : schema.read answer = .ok record) :
    front.read answer = .ok (record.take front.fields.length) := by
  rw [Schema.read, hfields, mapM_append_eq, bind_eq_ok_iff] at h
  obtain ⟨values, hvalues, hrest⟩ := h
  obtain ⟨others, _, rfl⟩ := map_eq_ok_iff.1 hrest
  have hlength : front.fields.length = values.length := (mapM_eq_ok_iff.1 hvalues).length_eq
  rw [hlength, List.take_left]
  exact hvalues

end NatGateway.Soap

namespace NatGateway.Mapping

open NatGateway.Http
open NatGateway.Net (Ipv4)
open NatGateway.Soap
open NatGateway.Text (sameIgnoringCase utf8Bytes)
open NatGateway.Wan (Connection Operation ServiceKind postOf)
open NatGateway.Xml (isXmlText)

/-! ## Reading a key -/

/-- The key of a mapping as a message of its own. -/
def keySchema : Schema := ⟨"MappingKey", none, Wan.keyFields⟩

/-- The key that the receiver of a request reads. -/
def toldKey (request : Request) : Except SoapError Record :=
  (decodeAnswer (utf8Bytes request.body)).bind keySchema.read

/-- Whether a request is a post whose receiver reads this key from it, or fails to. -/
def TellsKey (told : Except SoapError Record) (request : Request) : Prop :=
  request.method = "POST" ∧ toldKey request = told

section

variable {kind : ServiceKind} {control : Url} {operation : Operation} {rest : List Field}
  {protocol : Protocol} {port : UInt16} {others : Record}

/-- The key of a mapping comes back as it was. -/
theorem isKept_keyOf (protocol : Protocol) (port : UInt16) :
    ∀ value ∈ (MappingGateway.keyOf protocol port).record, value.IsKept := by
  have hname : (Value.text protocol.name).IsKept := by cases protocol <;> decide
  simp only [MappingGateway.keyOf, MappingKey.record, List.forall_mem_cons]
  exact ⟨by decide, trivial, hname, List.forall_mem_nil _⟩

/-- The receiver of a call whose arguments begin with a key reads the key, unless the others cannot
stand in a document. -/
theorem toldKey_postOf (hnamed : operation.IsWellNamed)
    (hfields : operation.argumentSchema.fields = Wan.keyFields ++ rest)
    (hfits : operation.argumentSchema.Fits ((MappingGateway.keyOf protocol port).record ++ others)) :
    toldKey (postOf ⟨⟨control⟩, kind.serviceType⟩ operation
        ((MappingGateway.keyOf protocol port).record ++ others)) =
      if (others.all fun value => isXmlText value.written) = true then
        .ok (MappingGateway.keyOf protocol port).record
      else .error .malformed := by
  have hservice : (⟨⟨control⟩, kind.serviceType⟩ : Connection).serviceType = kind.serviceType := rfl
  have hkept := isKept_keyOf protocol port
  have hname : (actionOf ⟨⟨control⟩, kind.serviceType⟩ operation
      ((MappingGateway.keyOf protocol port).record ++ others)).name ≠ "Fault" := by
    rw [Wan.actionOf_name hnamed]
    exact hnamed.not_fault
  have hread := Wan.read_decodeAnswer_actionOf hservice hnamed hfits
  have hdecode := decodeAnswer_encode (Wan.encode_actionOf hnamed hfits) hname
  rw [Wan.isRepresentable_actionOf hservice hnamed hfits] at hdecode
  -- The key can stand in a document, so the other arguments decide whether the request is read at all.
  rw [List.all_append, all_isXmlText_of_isKept hkept, Bool.true_and] at hread hdecode
  unfold toldKey postOf
  simp only [Client.request]
  rw [hdecode] at hread ⊢
  split
  · next hothers =>
    rw [if_pos hothers, if_pos hothers, List.map_append, map_kept_of_isKept hkept] at hread
    exact Schema.read_take keySchema hfields hread
  · rfl

/-- Every request of such a call tells its key. -/
theorem call_tellsKey (hnamed : operation.IsWellNamed)
    (hfields : operation.argumentSchema.fields = Wan.keyFields ++ rest)
    (hfits : operation.argumentSchema.Fits ((MappingGateway.keyOf protocol port).record ++ others)) :
    OnlySends
      (TellsKey (if (others.all fun value => isXmlText value.written) = true then
          .ok (MappingGateway.keyOf protocol port).record
        else .error .malformed))
      ((⟨⟨control⟩, kind.serviceType⟩ : Connection).call operation
        ((MappingGateway.keyOf protocol port).record ++ others)) := by
  refine call_onlySends fun text htext => ?_
  cases Except.ok.inj (htext.symm.trans (Wan.encode_actionOf hnamed hfits))
  exact ⟨rfl, toldKey_postOf hnamed hfields hfits⟩

end

/-! ## Calls by protocol and port -/

/-- What a gateway can be asked about the mapping of a port: to add it, with the port of this machine
that it leads to, its time and its description, to delete it, or to look it up. -/
inductive PortCall where
  | add (internalPort : UInt16) (lease : UInt32) (description : String)
  | delete
  | find

namespace PortCall

variable {σ : Type}

/-- Ask a client, and tell whether that failed. -/
def ask (call : PortCall) (mapping : MappingGateway) (client : MappingClient σ) (machine : Machine)
    (spelling : String) (port : UInt16) : StateM σ (Except MappingError Unit) :=
  match call with
  | .add internalPort lease description => do
      return (← mapping.addMapping client machine spelling internalPort port lease description).1
  | .delete => MappingGateway.deleteMapping client spelling port
  | .find => do return (← MappingGateway.findMapping client spelling port).map fun _ => ()

/-- Whether a document may hold all texts of a call. A description that is empty gives way to the usual
one. -/
def isReadable (mapping : MappingGateway) : PortCall → Bool
  | .add _ _ description =>
      isXmlText (if description.isEmpty then mapping.defaultDescription else description)
  | .delete => true
  | .find => true

/-- Whether a call is sent as soon as its protocol is known: a mapping can only be added if it is known
where it leads. -/
def IsReady (mapping : MappingGateway) (machine : Machine) : PortCall → Prop
  | .add _ _ _ => ∃ internal, mapping.internalAddress machine = .ok internal
  | .delete => True
  | .find => True

/-- A text that is no protocol is refused, and nothing else is done. -/
theorem ask_of_unsupported (call : PortCall) (mapping : MappingGateway) (client : MappingClient σ)
    (machine : Machine) {spelling : String} (h : Protocol.ofText? spelling = none) (port : UInt16) :
    call.ask mapping client machine spelling port =
      pure (.error (.unsupportedProtocol spelling)) := by
  have hread : MappingGateway.readProtocol spelling = .error (.unsupportedProtocol spelling) := by
    rw [MappingGateway.readProtocol, h]
  cases call with
  | add internalPort lease description =>
    have hprepared : mapping.preparedRequest machine spelling internalPort port lease description =
        .error (.unsupportedProtocol spelling) := by
      rw [MappingGateway.preparedRequest, hread]
      rfl
    rw [ask, MappingGateway.addMapping_of_error client hprepared]
    rfl
  | delete =>
    rw [ask, MappingGateway.deleteMapping, hread]
  | find =>
    rw [ask, MappingGateway.findMapping, hread]
    rfl

end PortCall

/-! ## The key of a call -/

section

variable {kind : ServiceKind} {control : Url} {mapping : MappingGateway} {machine : Machine}
  {spelling : String} {protocol : Protocol}

/-- The record of a key fits each schema that consists of one. -/
theorem fits_key {schema : Schema} (hfields : schema.fields = Wan.keyFields) (key : MappingKey) :
    schema.Fits key.record := by
  refine ⟨by rw [hfields]; rfl, ?_⟩
  simp only [hfields, Wan.keyFields, MappingKey.record, List.zip_cons_cons, List.zip_nil_left,
    List.forall_mem_cons]
  exact ⟨trivial, holds_port _, trivial, List.forall_mem_nil _⟩

/-- A call with nothing but a key tells this key. -/
theorem call_key_tellsKey {operation : Operation} (hnamed : operation.IsWellNamed)
    (hfields : operation.argumentSchema.fields = Wan.keyFields) (port : UInt16) :
    OnlySends (TellsKey (.ok (MappingGateway.keyOf protocol port).record))
      ((⟨⟨control⟩, kind.serviceType⟩ : Connection).call operation
        (MappingGateway.keyOf protocol port).record) :=
  @call_tellsKey kind control operation [] protocol port [] hnamed
    (hfields.trans (List.append_nil _).symm) (fits_key hfields _)

/-- A request to add a mapping tells the key of the mapping if its description can be read. -/
theorem add_tellsKey (internal : Ipv4) (internalPort port : UInt16) (lease : UInt32)
    (description : String) :
    OnlySends
      (TellsKey (if (PortCall.add internalPort lease description).isReadable mapping = true then
          .ok (MappingGateway.keyOf protocol port).record
        else .error .malformed))
      ((clientOf ⟨⟨control⟩, kind.serviceType⟩).add
        (mapping.mappingRequest protocol internal internalPort port lease description)) := by
  have htells := @call_tellsKey kind control .addPortMapping Wan.targetFields protocol port
    [.integer internalPort.toNat, .text internal.text, .flag true,
      .text (if description.isEmpty = true then mapping.defaultDescription else description),
      .integer lease.toNat] isWellNamed_addPortMapping rfl
    (fits_record (mapping.mappingRequest protocol internal internalPort port lease description))
  simp only [List.all_cons, List.all_nil, Value.written, isXmlText_decimal, isXmlText_address,
    Bool.true_and, Bool.and_true] at htells
  exact htells.bind fun _ => OnlySends.pure _

/-- Every request of a call for a protocol and a port tells their key, if it can be read. -/
theorem PortCall.ask_tellsKey (call : PortCall)
    (hprotocol : sameIgnoringCase spelling protocol.name = true) (port : UInt16) :
    OnlySends
      (TellsKey (if call.isReadable mapping = true then .ok (MappingGateway.keyOf protocol port).record
        else .error .malformed))
      (call.ask mapping (clientOf ⟨⟨control⟩, kind.serviceType⟩) machine spelling port) := by
  have hfound := Protocol.ofText?_of_sameIgnoringCase hprotocol
  have hread := readProtocol_eq_ok hprotocol
  cases call with
  | add internalPort lease description =>
    rw [ask]
    refine OnlySends.bind ?_ fun _ => OnlySends.pure _
    -- Where it is not known where the mapping leads, nothing is sent that could tell another key.
    cases hinternal : mapping.internalAddress machine with
    | error error =>
      have hprepared : mapping.preparedRequest machine spelling internalPort port lease description =
          .error error := by
        rw [MappingGateway.preparedRequest, hread, hinternal]
        rfl
      rw [MappingGateway.addMapping_of_error _ hprepared]
      exact OnlySends.pure _
    | ok internal =>
      exact MappingGateway.addMapping_onlySends
        (MappingGateway.preparedRequest_of_found hfound hinternal internalPort port lease description)
        (add_tellsKey internal internalPort port lease description)
  | delete =>
    rw [ask, MappingGateway.deleteMapping, hread]
    have htells := @call_key_tellsKey kind control protocol .deletePortMapping (by decide) rfl port
    exact (htells.bind fun _ => OnlySends.pure _).bind fun _ => OnlySends.pure _
  | find =>
    rw [ask, MappingGateway.findMapping, hread]
    have htells := @call_key_tellsKey kind control protocol .getSpecificPortMappingEntry (by decide) rfl
      port
    exact (htells.bind fun _ => OnlySends.pure _).bind fun _ => OnlySends.pure _

/-- A call of an operation sends its request first to a gateway that is reached. -/
theorem call_received {operation : Operation} {record : Record} (hnamed : operation.IsWellNamed)
    (hfits : operation.argumentSchema.Fits record) {gateway : Gateway}
    (hreaches : gateway.reaches control = true) :
    ∃ later, (((⟨⟨control⟩, kind.serviceType⟩ : Connection).call operation record).run
      gateway).2.received =
        later ++ postOf ⟨⟨control⟩, kind.serviceType⟩ operation record :: gateway.received := by
  have hservice : (⟨⟨control⟩, kind.serviceType⟩ : Connection).serviceType = kind.serviceType := rfl
  obtain ⟨later, hlater⟩ := Gateway.exists_exchanged
    (postOf ⟨⟨control⟩, kind.serviceType⟩ operation record) gateway
  rw [Wan.call_run hservice hnamed hfits, if_pos hreaches]
  exact ⟨later, hlater.received⟩

/-- A call that is ready sends something to a gateway that is reached. -/
theorem PortCall.ask_received (call : PortCall)
    (hprotocol : sameIgnoringCase spelling protocol.name = true) (port : UInt16)
    (hready : call.IsReady mapping machine) {gateway : Gateway}
    (hreaches : gateway.reaches control = true) :
    ∃ later post, ((call.ask mapping (clientOf ⟨⟨control⟩, kind.serviceType⟩) machine spelling
      port).run gateway).2.received = later ++ post :: gateway.received := by
  have hfound := Protocol.ofText?_of_sameIgnoringCase hprotocol
  have hread := readProtocol_eq_ok hprotocol
  cases call with
  | add internalPort lease description =>
    obtain ⟨internal, hinternal⟩ := hready
    have hprepared := MappingGateway.preparedRequest_of_found hfound hinternal internalPort port lease
      description
    obtain ⟨later, hlater⟩ := @addMapping_reaches ⟨⟨control⟩, kind.serviceType⟩ kind rfl _ _ _ _ _ _ _ _
      hprepared gateway hreaches
    exact ⟨later, _, hlater⟩
  | delete =>
    rw [ask, MappingGateway.deleteMapping, hread]
    obtain ⟨later, hlater⟩ := call_received (by decide : Operation.deletePortMapping.IsWellNamed)
      (fits_key rfl (MappingGateway.keyOf protocol port)) hreaches
    exact ⟨later, _, hlater⟩
  | find =>
    rw [ask, MappingGateway.findMapping, hread]
    obtain ⟨later, hlater⟩ :=
      call_received (by decide : Operation.getSpecificPortMappingEntry.IsWellNamed)
        (fits_key rfl (MappingGateway.keyOf protocol port)) hreaches
    exact ⟨later, _, hlater⟩

end

/-- Two keys are sent alike exactly if they are of one port and of one protocol, in any spelling. -/
theorem keyOf_record_inj {spelling other : String} {protocol second : Protocol}
    (hprotocol : sameIgnoringCase spelling protocol.name = true)
    (hsecond : sameIgnoringCase other second.name = true) {port last : UInt16} :
    (MappingGateway.keyOf protocol port).record = (MappingGateway.keyOf second last).record ↔
      sameIgnoringCase spelling other = true ∧ port = last := by
  have hname : protocol.name = second.name ↔ protocol = second := by
    cases protocol <;> cases second <;> decide
  rw [Protocol.sameIgnoringCase_iff_eq hprotocol hsecond, ← UInt16.toNat_inj, ← hname]
  simp [MappingGateway.keyOf, MappingKey.record, and_comm]

/-- Whether a call sends requests to a gateway, at least one if it is ready and the gateway reached, and
all of them posts that tell a key, but for those that carry nothing because a redirect made them. -/
def PortCall.Sends (call : PortCall) (mapping : MappingGateway) (connection : Connection)
    (machine : Machine) (spelling : String) (port : UInt16) (gateway : Gateway)
    (told : Except SoapError Record) : Prop :=
  ∃ sent, ((call.ask mapping (clientOf connection) machine spelling port).run gateway).2.received =
      sent ++ gateway.received ∧
    (call.IsReady mapping machine → gateway.reaches connection.client.control = true → sent ≠ []) ∧
    ∀ request ∈ sent, TellsKey told request ∨
      request.IsBare ∧ ∃ reply ∈ gateway.script, reply.NamesDocument

/-- Every call for a protocol and a port sends their key, if it can be read. -/
theorem PortCall.ask_sends (call : PortCall) (mapping : MappingGateway) (kind : ServiceKind)
    (control : Url) (machine : Machine) {spelling : String} {protocol : Protocol}
    (hprotocol : sameIgnoringCase spelling protocol.name = true) (port : UInt16) (gateway : Gateway) :
    call.Sends mapping ⟨⟨control⟩, kind.serviceType⟩ machine spelling port gateway
      (if call.isReadable mapping = true then .ok (MappingGateway.keyOf protocol port).record
        else .error .malformed) := by
  obtain ⟨sent, hsent, htold⟩ := (call.ask_tellsKey hprotocol port).exists_sent
    (fun _ _ htells => htells) gateway
  refine ⟨sent, hsent, ?_, htold⟩
  rintro hready hreaches rfl
  obtain ⟨later, post, hreceived⟩ := call.ask_received hprotocol port hready hreaches
  have hlength := congrArg List.length (hreceived.symm.trans hsent)
  simp only [List.length_append, List.length_cons, List.length_nil] at hlength
  omega

/-- The key that a gateway is asked for. Whatever is asked about the mapping of a port, all posts tell one
key, that of the protocol and the port, unless a description that cannot stand in a document
keeps the request to add the mapping from being read. Two such keys are the same exactly if the ports
are and the protocols are spelled alike up to letter case. And a text that is no protocol in any letter
case is refused as it stands, without a call to the client. -/
theorem asked_key (mapping : MappingGateway) (kind : ServiceKind) (control : Url) (machine : Machine) :
    (∀ (call : PortCall) (spelling : String) (protocol : Protocol),
      sameIgnoringCase spelling protocol.name = true → ∀ (port : UInt16) (gateway : Gateway),
        call.Sends mapping ⟨⟨control⟩, kind.serviceType⟩ machine spelling port gateway
          (if call.isReadable mapping = true then .ok (MappingGateway.keyOf protocol port).record
            else .error .malformed)) ∧
    (∀ (spelling other : String) (protocol second : Protocol),
      sameIgnoringCase spelling protocol.name = true →
        sameIgnoringCase other second.name = true → ∀ port last : UInt16,
          (MappingGateway.keyOf protocol port).record = (MappingGateway.keyOf second last).record ↔
            sameIgnoringCase spelling other = true ∧ port = last) ∧
    ∀ (call : PortCall) (spelling : String),
      (∀ protocol : Protocol, sameIgnoringCase spelling protocol.name = false) →
        ∀ (σ : Type) (client : MappingClient σ) (port : UInt16) (state : σ),
          (call.ask mapping client machine spelling port).run state =
            (.error (.unsupportedProtocol spelling), state) := by
  refine ⟨fun call spelling protocol hprotocol => call.ask_sends mapping kind control machine hprotocol,
    fun spelling other protocol second hprotocol hsecond port last =>
      keyOf_record_inj hprotocol hsecond, fun call spelling hother σ client port state => ?_⟩
  have hnone : Protocol.ofText? spelling = none := by
    refine Option.eq_none_iff_forall_ne_some.2 fun protocol hfound => ?_
    exact Bool.noConfusion
      ((hother protocol).symm.trans (Protocol.ofText?_eq_some_iff.1 hfound))
  rw [call.ask_of_unsupported mapping client machine hnone port]
  rfl

/-- A mapping is added as `uDp` and looked up as `udp`; nothing is asked for `sctp`. -/
theorem asked_key_udp :
    let control : Url := ⟨"http", some ⟨"", "", some (.ipv4 (.ofOctets 192 168 1 1)), none⟩,
      .segments ["ctl"], none, none⟩
    let mapping : MappingGateway := ⟨.ip1, control, "box", 3, "usual"⟩
    let connection : Connection := ⟨⟨control⟩, ServiceKind.ip1.serviceType⟩
    let machine : Machine := ⟨[⟨.ofOctets 192 168 1 7, .ofOctets 255 255 255 0⟩], []⟩
    let gateway : Gateway := ⟨.ipv4 (.ofOctets 192 168 1 1), 80, [.failed], []⟩
    let key : Record := [.text "", .integer 8080, .text "UDP"]
    let added : PortCall := .add 80 3600 "</a&b>"
    added.IsReady mapping machine ∧ gateway.reaches control = true ∧
      added.Sends mapping connection machine "uDp" 8080 gateway (.ok key) ∧
      PortCall.find.Sends mapping connection machine "udp" 8080 gateway (.ok key) ∧
      (MappingGateway.keyOf .udp 8080).record ≠ (MappingGateway.keyOf .tcp 8080).record ∧
      (PortCall.delete.ask mapping (clientOf connection) machine "sctp" 8080).run gateway =
        (.error (.unsupportedProtocol "sctp"), gateway) := by
  intro control mapping connection machine gateway key added
  obtain ⟨hsends, hsame, hrefused⟩ := asked_key mapping .ip1 control machine
  have hother : ∀ protocol : Protocol, sameIgnoringCase "sctp" protocol.name = false := by
    intro protocol
    cases protocol <;> decide
  have hadded := hsends added "uDp" .udp (by decide) 8080 gateway
  rw [if_pos (by decide)] at hadded
  exact ⟨⟨.ofOctets 192 168 1 7, by decide⟩, by decide, hadded,
    hsends .find "udp" .udp (by decide) 8080 gateway,
    fun h => absurd ((hsame "uDp" "tcp" .udp .tcp (by decide) (by decide) 8080 8080).1 h).1 (by decide),
    hrefused .delete "sctp" hother Gateway (clientOf connection) 8080 gateway⟩

/-- A description with a control character: what is added cannot be read, and what is deleted can. -/
theorem not_asked_key_control :
    let control : Url := ⟨"http", some ⟨"", "", some (.ipv4 (.ofOctets 192 168 1 1)), none⟩,
      .segments ["ctl"], none, none⟩
    let mapping : MappingGateway := ⟨.ip1, control, "box", 1, "usual"⟩
    let client : MappingClient Gateway := clientOf ⟨⟨control⟩, ServiceKind.ip1.serviceType⟩
    let machine : Machine := ⟨[⟨.ofOctets 192 168 1 7, .ofOctets 255 255 255 0⟩], []⟩
    let gateway : Gateway := ⟨.ipv4 (.ofOctets 192 168 1 1), 80, [], []⟩
    ∃ added ∈ (((PortCall.add 80 3600 "\u0001").ask mapping client machine "TCP" 8080).run
        gateway).2.received,
      ∃ deleted ∈ ((PortCall.delete.ask mapping client machine "TCP" 8080).run gateway).2.received,
        toldKey added ≠ toldKey deleted := by
  intro control mapping client machine gateway
  have hreaches : gateway.reaches control = true := by decide
  have hprotocol : sameIgnoringCase "TCP" Protocol.tcp.name = true := by decide
  have hready : (PortCall.add 80 3600 "\u0001").IsReady mapping machine :=
    ⟨.ofOctets 192 168 1 7, by decide⟩
  obtain ⟨adding, hadding, hadds, hadded⟩ := (PortCall.add 80 3600 "\u0001").ask_sends mapping .ip1
    control machine hprotocol 8080 gateway
  obtain ⟨deleting, hdeleting, hdeletes, hdeleted⟩ := PortCall.delete.ask_sends mapping .ip1 control
    machine hprotocol 8080 gateway
  obtain ⟨added, haddedMem⟩ := List.exists_mem_of_ne_nil _ (hadds hready hreaches)
  obtain ⟨deleted, hdeletedMem⟩ := List.exists_mem_of_ne_nil _ (hdeletes trivial hreaches)
  refine ⟨added, hadding ▸ List.mem_append_left _ haddedMem, deleted,
    hdeleting ▸ List.mem_append_left _ hdeletedMem, ?_⟩
  have hscript : ¬ ∃ reply ∈ gateway.script, reply.NamesDocument := fun ⟨_, hreply, _⟩ => nomatch hreply
  obtain ⟨_, htoldAdded⟩ := (hadded added haddedMem).resolve_right fun h => hscript h.2
  obtain ⟨_, htoldDeleted⟩ := (hdeleted deleted hdeletedMem).resolve_right fun h => hscript h.2
  rw [htoldAdded, htoldDeleted, if_neg (by decide), if_pos (by decide)]
  exact nofun

end NatGateway.Mapping
