import NatGateway.Proofs.Mapping.Protocol
import NatGateway.Proofs.Wan.Calls

/-!
# Requests for mappings on the wire

What a gateway reads from the requests that ask it for a mapping. All of them carry the same record,
and it comes back whole. The description is the only part that a user writes freely: it may come back
empty, or make the request unreadable as a whole, but it cannot change what the other parts say.
-/

namespace NatGateway.Mapping

open NatGateway.Http
open NatGateway.Net (Ipv4)
open NatGateway.Soap
open NatGateway.Text (utf8Bytes)
open NatGateway.Wan (Connection Operation ServiceKind)
open NatGateway.Xml (isXmlText)

/-! ## Addresses -/

/-- The text of an address is four numbers with points between them. -/
theorem address_text_eq (address : Ipv4) : ∃ a b c d : Int,
    address.text = Text.decimal a ++ ("." ++ (Text.decimal b ++ ("." ++ (Text.decimal c ++ ("." ++
      Text.decimal d))))) := by
  have htext : address.text = String.intercalate "." (address.octets.map fun octet : Nat =>
      Text.decimal octet) := rfl
  simp only [Ipv4.octets, List.map_cons, List.map_nil, String.intercalate_cons_cons,
    String.intercalate_singleton, String.append_assoc] at htext
  exact ⟨_, _, _, _, htext⟩

/-- A document may hold the text of an address. -/
theorem isXmlText_address (address : Ipv4) : isXmlText address.text = true := by
  obtain ⟨a, b, c, d, htext⟩ := address_text_eq address
  have hdecimal := isXmlText_decimal
  unfold isXmlText at hdecimal ⊢
  simp only [htext, String.toList_append, List.all_append, hdecimal, Bool.true_and, Bool.and_true]
  decide

/-- The text of an address is kept. -/
theorem keptText_address (address : Ipv4) : keptText address.text = address.text := by
  obtain ⟨a, b, c, d, htext⟩ := address_text_eq address
  have hmem : '.' ∈ address.text.toList := by
    rw [htext, String.toList_append, String.toList_append]
    exact List.mem_append_right _ (List.mem_append_left _ (by decide))
  exact keptText_of_mem hmem (by decide)

/-! ## The record of a request -/

/-- A port is in the range of its type. -/
theorem holds_port (port : UInt16) : Text.IntegerType.u16.Holds port.toNat := by
  have htop : Text.IntegerType.u16.top = 65535 := rfl
  have hdepth : Text.IntegerType.u16.depth = 0 := rfl
  have hport := port.toNat_lt
  rw [Text.IntegerType.Holds, htop, hdepth]
  omega

/-- The record of a request has a value of the right type for each argument. -/
theorem fits_record (request : MappingRequest) : Wan.addPortMapping.Fits request.record := by
  have hlease : Text.IntegerType.u32.Holds request.leaseDuration.toNat := by
    have htop : Text.IntegerType.u32.top = 4294967295 := rfl
    have hdepth : Text.IntegerType.u32.depth = 0 := rfl
    have hlease := request.leaseDuration.toNat_lt
    rw [Text.IntegerType.Holds, htop, hdepth]
    omega
  refine ⟨rfl, ?_⟩
  simp only [Wan.addPortMapping, Wan.keyFields, Wan.targetFields, List.cons_append, List.nil_append,
    MappingRequest.record, List.zip_cons_cons, List.zip_nil_left, List.forall_mem_cons]
  exact ⟨trivial, holds_port _, trivial, holds_port _, trivial, trivial, trivial, hlease,
    fun _ h => nomatch h⟩

/-- The request that a gateway is left with. -/
def MappingRequest.kept (request : MappingRequest) : MappingRequest :=
  { request with
    remoteHost := keptText request.remoteHost
    protocol := keptText request.protocol
    internalClient := keptText request.internalClient
    description := keptText request.description }

/-- What comes back of the record of a request. -/
theorem record_kept (request : MappingRequest) :
    request.record.map Value.kept = request.kept.record := rfl

variable {connection : Connection} {kind : ServiceKind}

/-- Adding a mapping is well named. -/
theorem isWellNamed_addPortMapping : Operation.addPortMapping.IsWellNamed := by decide

/-- Every request for a mapping can be written. -/
theorem encode_add (connection : Connection) (request : MappingRequest) :
    (actionOf connection .addPortMapping request.record).encode =
      .ok (writtenEnvelope (actionOf connection .addPortMapping request.record).bodyText) :=
  Wan.encode_actionOf isWellNamed_addPortMapping (fits_record request)

/-- A request for a mapping can stand in a document if its texts can. -/
theorem isRepresentable_add (hservice : connection.serviceType = kind.serviceType)
    (request : MappingRequest) :
    (actionOf connection .addPortMapping request.record).isRepresentable =
      (isXmlText request.remoteHost && isXmlText request.protocol &&
        isXmlText request.internalClient && isXmlText request.description) := by
  have hflag : isXmlText (if request.enabled = true then "1" else "0") = true := by
    cases request.enabled <;> decide
  rw [Wan.isRepresentable_actionOf hservice isWellNamed_addPortMapping (fits_record request)]
  simp only [MappingRequest.record, List.all_cons, List.all_nil, hflag, Value.written,
    isXmlText_decimal, Bool.true_and, Bool.and_true, Bool.and_assoc]

/-- What a gateway reads from a request for a mapping. -/
theorem read_add (hservice : connection.serviceType = kind.serviceType) {request : MappingRequest}
    {text : String}
    (h : (actionOf connection .addPortMapping request.record).encode = .ok text) :
    (decodeAnswer (utf8Bytes text)).bind Wan.addPortMapping.read =
      if (isXmlText request.remoteHost && isXmlText request.protocol &&
          isXmlText request.internalClient && isXmlText request.description) = true then
        .ok request.kept.record
      else .error .malformed := by
  have hname : (actionOf connection .addPortMapping request.record).name ≠ "Fault" :=
    show "AddPortMapping" ≠ "Fault" by decide
  rw [read_decodeAnswer_encode h hname rfl (by decide) (fits_record request), record_kept,
    isRepresentable_add hservice]

/-- What a gateway reads from the request that a user's wish for a mapping is turned into. -/
theorem read_mappingRequest (hservice : connection.serviceType = kind.serviceType)
    (mapping : MappingGateway) (protocol : Protocol) (internal : Ipv4)
    (internalPort externalPort : UInt16) (lease : UInt32) (description : String) {text : String}
    (h : (actionOf connection .addPortMapping
      (mapping.mappingRequest protocol internal internalPort externalPort lease
        description).record).encode = .ok text) :
    (decodeAnswer (utf8Bytes text)).bind Wan.addPortMapping.read =
      if isXmlText (if description.isEmpty = true then mapping.defaultDescription
          else description) = true then
        .ok (MappingRequest.record ⟨"", externalPort, protocol.name, internalPort, internal.text,
          true, keptText (if description.isEmpty = true then mapping.defaultDescription
            else description), lease⟩)
      else .error .malformed := by
  have hprotocol : isXmlText protocol.name = true ∧ keptText protocol.name = protocol.name := by
    cases protocol <;> decide
  have hkept : (mapping.mappingRequest protocol internal internalPort externalPort lease
      description).kept = ⟨"", externalPort, protocol.name, internalPort, internal.text, true,
        keptText (if description.isEmpty = true then mapping.defaultDescription else description),
        lease⟩ := by
    simp only [MappingRequest.kept, MappingGateway.mappingRequest, hprotocol.2, keptText_address]
    rfl
  rw [read_add hservice h, hkept]
  simp only [MappingGateway.mappingRequest, hprotocol.1, isXmlText_address, Bool.and_true,
    show isXmlText "" = true from rfl, Bool.true_and]

/-! ## Adding a mapping -/

/-- A protocol is read in any spelling. -/
theorem readProtocol_eq_ok {spelling : String} {protocol : Protocol}
    (h : Text.sameIgnoringCase spelling protocol.name = true) :
    MappingGateway.readProtocol spelling = .ok protocol := by
  rw [MappingGateway.readProtocol, Protocol.ofText?_of_sameIgnoringCase h]

/-- A wish for a mapping is turned into a request if a local interface contains the gateway. -/
theorem preparedRequest_eq_ok {mapping : MappingGateway} {machine : Machine} {spelling : String}
    {protocol : Protocol} (hprotocol : Text.sameIgnoringCase spelling protocol.name = true)
    {address : Ipv4} (haddress : mapping.deviceAddress machine = .ok address)
    {interface : Net.Interface}
    (hinterface : machine.interfaces.find? (·.contains address) = some interface)
    (internalPort externalPort : UInt16) (lease : UInt32) (description : String) :
    mapping.preparedRequest machine spelling internalPort externalPort lease description =
      .ok (mapping.mappingRequest protocol interface.address internalPort externalPort lease
        description) := by
  have hlocal : Net.localAddressFor machine.interfaces address = some interface.address := by
    rw [Net.localAddressFor, hinterface]
    rfl
  have hinternal : mapping.internalAddress machine = .ok interface.address := by
    simp only [MappingGateway.internalAddress, haddress, Except.bind, MappingGateway.localAddress,
      hlocal]
  rw [MappingGateway.preparedRequest, readProtocol_eq_ok hprotocol, hinternal]
  rfl

/-- A request for a mapping can be named in a header. -/
theorem isHeaderValue_add (hservice : connection.serviceType = kind.serviceType)
    (request : MappingRequest) :
    Gateway.isHeaderValue (actionOf connection .addPortMapping request.record).header = true :=
  Wan.isHeaderValue_actionOf hservice isWellNamed_addPortMapping

/-- A gateway that can be reached is sent at least one request for a mapping. -/
theorem addMapping_reaches (hservice : connection.serviceType = kind.serviceType)
    {mapping : MappingGateway} {machine : Machine} {protocol description : String}
    {internalPort externalPort : UInt16} {lease : UInt32} {request : MappingRequest}
    (hprepared : mapping.preparedRequest machine protocol internalPort externalPort lease
      description = .ok request)
    {gateway : Gateway} (hreaches : gateway.reaches connection.client.control = true) :
    ∃ later, ((mapping.addMapping (clientOf connection) machine protocol internalPort externalPort
        lease description).run gateway).2.received =
      later ++ connection.client.request (actionOf connection .addPortMapping request.record)
        (writtenEnvelope (actionOf connection .addPortMapping request.record).bodyText) ::
          gateway.received := by
  obtain ⟨later, hlater⟩ := MappingGateway.addMapping_received hprepared
    (@add_onlySends connection request (fun _ => True) fun _ _ => trivial) gateway
  obtain ⟨redirected, hredirected⟩ := Gateway.exists_exchanged
    (connection.client.request (actionOf connection .addPortMapping request.record)
      (writtenEnvelope (actionOf connection .addPortMapping request.record).bodyText)) gateway
  refine ⟨later ++ redirected, ?_⟩
  rw [hlater, add_run (encode_add connection request) (isHeaderValue_add hservice request) hreaches,
    hredirected.received, List.append_assoc]

/-- Whether a request is a post whose receiver reads this record from it, or fails to. -/
def TellsMapping (told : Except SoapError Record) (request : Request) : Prop :=
  request.method = "POST" ∧
    (decodeAnswer (utf8Bytes request.body)).bind Wan.addPortMapping.read = told

/-- Every request that is sent for a mapping is a post from which the same mapping is read: the one
that was asked for, from the first local interface that contains the gateway. Its description is the
given one or else the usual one, without which it is read as a whole or not at all. The only other
requests are those that a redirect makes of such a post and that carry nothing. -/
theorem addMapping_posts (hservice : connection.serviceType = kind.serviceType)
    (mapping : MappingGateway) (machine : Machine) {spelling : String} {protocol : Protocol}
    (hprotocol : Text.sameIgnoringCase spelling protocol.name = true)
    {address : Ipv4} (haddress : mapping.deviceAddress machine = .ok address)
    {interface : Net.Interface}
    (hinterface : machine.interfaces.find? (·.contains address) = some interface)
    (internalPort externalPort : UInt16) (lease : UInt32) (description : String)
    (gateway : Gateway) :
    ∃ sent,
      ((mapping.addMapping (clientOf connection) machine spelling internalPort externalPort lease
        description).run gateway).2.received = sent ++ gateway.received ∧
      (gateway.reaches connection.client.control = true → sent ≠ []) ∧
      ∀ request ∈ sent, TellsMapping
        (if isXmlText (if description.isEmpty = true then mapping.defaultDescription
            else description) = true then
          .ok (MappingRequest.record ⟨"", externalPort, protocol.name, internalPort,
            interface.address.text, true,
            keptText (if description.isEmpty = true then mapping.defaultDescription
              else description), lease⟩)
        else .error .malformed) request ∨
          request.IsBare ∧ ∃ reply ∈ gateway.script, reply.NamesDocument := by
  have hprepared := preparedRequest_eq_ok hprotocol haddress hinterface internalPort externalPort
    lease description
  have hsends := MappingGateway.addMapping_onlySends hprepared
    (@add_onlySends connection _ (TellsMapping _) fun text htext =>
      ⟨rfl, read_mappingRequest hservice mapping protocol interface.address internalPort externalPort
        lease description htext⟩)
  obtain ⟨sent, hsent, hposts⟩ := hsends.exists_sent (fun _ _ htells => htells) gateway
  refine ⟨sent, hsent, ?_, hposts⟩
  rintro hreaches rfl
  obtain ⟨later, hlater⟩ := addMapping_reaches hservice hprepared hreaches
  rw [hsent] at hlater
  have hlength := congrArg List.length hlater
  simp at hlength
  omega

/-- A mapping with markup in its description, from the second interface of a machine. -/
theorem addMapping_posts_markup :
    let control : Url := ⟨"http", some ⟨"", "", some (.ipv4 (.ofOctets 192 168 1 1)), none⟩,
      .segments ["ctl"], none, none⟩
    let mapping : MappingGateway := ⟨.ip1, control, "box", 3, "usual"⟩
    let connection : Connection := ⟨⟨control⟩, ServiceKind.ip1.serviceType⟩
    let machine : Machine := ⟨[⟨.ofOctets 10 0 0 2, .ofOctets 255 0 0 0⟩,
      ⟨.ofOctets 192 168 1 7, .ofOctets 255 255 255 0⟩], []⟩
    let gateway : Gateway := ⟨.ipv4 (.ofOctets 192 168 1 1), 80, [.failed], []⟩
    ∃ sent,
      ((mapping.addMapping (clientOf connection) machine "uDp" 80 8080 3600 "</a&b>").run
        gateway).2.received = sent ++ [] ∧
      sent ≠ [] ∧ ∀ post ∈ sent, TellsMapping (.ok [.text "", .integer 8080, .text "UDP",
        .integer 80, .text "192.168.1.7", .flag true, .text "</a&b>", .integer 3600]) post := by
  intro control mapping connection machine gateway
  have hservice : connection.serviceType = ServiceKind.ip1.serviceType := rfl
  have hprotocol : Text.sameIgnoringCase "uDp" Protocol.udp.name = true := by decide
  have haddress : mapping.deviceAddress machine = .ok (.ofOctets 192 168 1 1) := rfl
  have hinterface : machine.interfaces.find? (·.contains (.ofOctets 192 168 1 1)) =
      some ⟨.ofOctets 192 168 1 7, .ofOctets 255 255 255 0⟩ := by decide
  obtain ⟨sent, hsent, hreaches, hposts⟩ := addMapping_posts hservice mapping machine hprotocol
    haddress hinterface 80 8080 3600 "</a&b>" gateway
  refine ⟨sent, hsent, hreaches (by decide), fun post hpost => ?_⟩
  rcases hposts post hpost with htells | ⟨_, reply, hreply, hnames⟩
  · convert htells using 1
    decide +kernel
  · obtain rfl := List.mem_singleton.1 hreply
    exact hnames.elim

/-- A usual description that is white space is lost on the way. -/
theorem blank_usual_description_lost :
    let control : Url := ⟨"http", some ⟨"", "", some (.ipv4 (.ofOctets 192 168 1 1)), none⟩,
      .segments ["ctl"], none, none⟩
    let mapping : MappingGateway := ⟨.ip1, control, "box", 1, " "⟩
    let connection : Connection := ⟨⟨control⟩, ServiceKind.ip1.serviceType⟩
    let machine : Machine := ⟨[⟨.ofOctets 192 168 1 7, .ofOctets 255 255 255 0⟩], []⟩
    let gateway : Gateway := ⟨.ipv4 (.ofOctets 192 168 1 1), 80, [], []⟩
    ∃ post ∈ ((mapping.addMapping (clientOf connection) machine "TCP" 80 8080 3600 "").run
        gateway).2.received,
      (decodeAnswer (utf8Bytes post.body)).bind Wan.addPortMapping.read =
        .ok [.text "", .integer 8080, .text "TCP", .integer 80, .text "192.168.1.7", .flag true,
          .text "", .integer 3600] := by
  intro control mapping connection machine gateway
  have hservice : connection.serviceType = ServiceKind.ip1.serviceType := rfl
  have hprepared : mapping.preparedRequest machine "TCP" 80 8080 3600 "" =
      .ok (mapping.mappingRequest .tcp (.ofOctets 192 168 1 7) 80 8080 3600 "") := by
    decide
  have hwritten := encode_add connection
    (mapping.mappingRequest .tcp (.ofOctets 192 168 1 7) 80 8080 3600 "")
  obtain ⟨later, hlater⟩ := @addMapping_reaches connection .ip1 hservice _ _ _ _ _ _ _ _ hprepared gateway
    (by decide)
  refine ⟨_, hlater ▸ List.mem_append_right _ List.mem_cons_self, ?_⟩
  refine (read_mappingRequest hservice mapping .tcp (.ofOctets 192 168 1 7) 80 8080 3600 ""
    hwritten).trans ?_
  decide +kernel

end NatGateway.Mapping
