import NatGateway.Proofs.Mapping.Client
import NatGateway.Proofs.Soap.Schema

/-!
# Operations on the wire

What the operations of the WAN connection services send and return. Their names and those of their
arguments are plain, so every operation is sent as it was called; only the texts among its arguments
could stand in the way. An answer gives back the record that it was made of, unless it comes with a
fault: then the fault counts, whatever stands beside it.
-/

namespace NatGateway.Wan

open NatGateway.Http
open NatGateway.Mapping (MappingClient MappingKey MappingRequest actionOf clientOf textOf)
open NatGateway.Soap
open NatGateway.Text (utf8Bytes)
open NatGateway.Xml (Content Element isXmlText textElement)

/-! ## Names -/

namespace Operation

/-- The arguments of an operation; without arguments it has an empty list of them. -/
def argumentSchema (operation : Operation) : Schema := operation.arguments.getD ⟨"", none, []⟩

/-- The results of an operation; without results it has an empty list of them. -/
def resultSchema (operation : Operation) : Schema := operation.results.getD ⟨"", none, []⟩

/-- What the names of an operation are like: ASCII names, none of which is that of a fault or occurs
twice in one message. -/
structure IsWellNamed (operation : Operation) : Prop where
  name : Action.isAsciiName operation.name = true
  header : Gateway.isHeaderValue operation.name = true
  not_fault : operation.name ≠ "Fault"
  arguments : ∀ field ∈ operation.argumentSchema.fields, Action.isAsciiName field.element = true
  arguments_nodup : (operation.argumentSchema.fields.map (·.element)).Nodup
  results_nodup : (operation.resultSchema.fields.map (·.element)).Nodup

instance (operation : Operation) : Decidable operation.IsWellNamed :=
  decidable_of_iff
    (Action.isAsciiName operation.name = true ∧ Gateway.isHeaderValue operation.name = true ∧
      operation.name ≠ "Fault" ∧
      (∀ field ∈ operation.argumentSchema.fields, Action.isAsciiName field.element = true) ∧
      (operation.argumentSchema.fields.map (·.element)).Nodup ∧
      (operation.resultSchema.fields.map (·.element)).Nodup)
    ⟨fun ⟨name, header, fault, arguments, once, results⟩ =>
        ⟨name, header, fault, arguments, once, results⟩,
      fun ⟨name, header, fault, arguments, once, results⟩ =>
        ⟨name, header, fault, arguments, once, results⟩⟩

/-- Every operation that a service offers is well named. -/
theorem isWellNamed_of_mem {kind : ServiceKind} :
    ∀ operation ∈ kind.operations, operation.IsWellNamed := by
  cases kind <;> decide

/-- The arguments of a call are the entries of its record. -/
theorem payload_entries (operation : Operation) (record : Record) :
    (Connection.payload operation record).entries = operation.argumentSchema.entries record := by
  unfold Connection.payload argumentSchema
  cases operation.arguments <;> rfl

/-- The answer to a call is read by the list of its results. -/
theorem readResults_eq (operation : Operation) (answer : Answer) :
    Connection.readResults operation answer = operation.resultSchema.read answer := by
  unfold Connection.readResults resultSchema
  cases operation.results <;> rfl

end Operation

/-! ## Requests -/

variable {connection : Connection} {kind : ServiceKind} {operation : Operation} {record : Record}

/-- The action of a call has the name of its operation. -/
theorem actionOf_name (hnamed : operation.IsWellNamed) :
    (actionOf connection operation record).name = operation.name := by
  have hnonempty : operation.name.isEmpty = false := by
    cases hempty : operation.name.isEmpty with
    | false => rfl
    | true =>
      have hname := hnamed.name
      rw [String.isEmpty_iff.1 hempty] at hname
      cases hname
  simp only [Action.name, actionOf, Action.withName, Payload.nonEmpty?, hnonempty]
  rfl

/-- The arguments of the action of a call are the entries of its record. -/
theorem actionOf_entries : (actionOf connection operation record).payload.entries =
    operation.argumentSchema.entries record :=
  operation.payload_entries record

/-- The header of a call names the service and the operation. -/
theorem actionOf_header (hnamed : operation.IsWellNamed) :
    (actionOf connection operation record).header =
      "\"" ++ connection.serviceType ++ "#" ++ operation.name ++ "\"" := by
  rw [Action.header, actionOf_name hnamed]
  rfl

/-- The type of a service can stand in a document and in a header. -/
theorem serviceType_isPlain (kind : ServiceKind) :
    isXmlText kind.serviceType = true ∧ kind.serviceType ≠ "" ∧
      Gateway.isHeaderValue kind.serviceType = true := by
  cases kind <;> decide

/-- Every call can be named in a header. -/
theorem isHeaderValue_actionOf (hservice : connection.serviceType = kind.serviceType)
    (hnamed : operation.IsWellNamed) :
    Gateway.isHeaderValue (actionOf connection operation record).header = true := by
  obtain ⟨_, _, htype⟩ := serviceType_isPlain kind
  have hname := hnamed.header
  unfold Gateway.isHeaderValue at htype hname ⊢
  rw [actionOf_header hnamed, hservice]
  simp only [String.toList_append, List.all_append, htype, hname, Bool.and_true]
  decide

/-- The names in a call can be written. -/
theorem hasElementNames_actionOf (hnamed : operation.IsWellNamed)
    (hfits : operation.argumentSchema.Fits record) :
    (actionOf connection operation record).hasElementNames = true := by
  have hkeys : ∀ entry ∈ operation.argumentSchema.entries record,
      Action.isElementName entry.1 = true := by
    intro entry hentry
    have hkey := List.mem_map_of_mem (f := Prod.fst) hentry
    rw [Schema.entries_keys hfits.1] at hkey
    obtain ⟨field, hfield, helement⟩ := List.mem_map.1 hkey
    rw [← helement]
    exact Action.isElementName_of_isAsciiName (hnamed.arguments field hfield)
  rw [Action.hasElementNames, actionOf_name hnamed, actionOf_entries]
  exact (Bool.and_eq_true _ _).mpr
    ⟨Action.isElementName_of_isAsciiName hnamed.name, List.all_eq_true.2 hkeys⟩

/-- Every call can be written. -/
theorem encode_actionOf (hnamed : operation.IsWellNamed)
    (hfits : operation.argumentSchema.Fits record) :
    (actionOf connection operation record).encode =
      .ok (writtenEnvelope (actionOf connection operation record).bodyText) :=
  Action.encode_eq_ok_iff.2 ⟨hasElementNames_actionOf hnamed hfits, rfl⟩

/-- A call can stand in a document if the texts among its arguments can. -/
theorem isRepresentable_actionOf (hservice : connection.serviceType = kind.serviceType)
    (hnamed : operation.IsWellNamed) (hfits : operation.argumentSchema.Fits record) :
    (actionOf connection operation record).isRepresentable =
      record.all fun value => isXmlText value.written := by
  obtain ⟨huri, hempty, _⟩ := serviceType_isPlain kind
  have hname : operation.name.toList.all Xml.isNameChar = true := by
    obtain ⟨c, rest, hchars, hc, _, hrest, _⟩ :=
      Xml.isXmlName_cases (Action.isXmlName_of_isAsciiName hnamed.name)
    rw [hchars, List.all_cons, Xml.isNameChar_of_isNameStart hc, Bool.true_and]
    exact List.all_eq_true.2 hrest
  have hnonempty : kind.serviceType.isEmpty = false := by simpa using hempty
  have hfields : ∀ field ∈ operation.argumentSchema.fields, Xml.isXmlName field.element = true :=
    fun field hfield => Action.isXmlName_of_isAsciiName (hnamed.arguments field hfield)
  have hservice' : (actionOf connection operation record).uri = kind.serviceType := hservice
  rw [Action.isRepresentable, actionOf_name hnamed, actionOf_entries, hservice', hname, huri,
    hnonempty, Schema.entries_isRepresentable hfields hfits.1]
  rfl

/-- What a gateway reads from a call: its record, unless it could not stand in a document. -/
theorem read_decodeAnswer_actionOf (hservice : connection.serviceType = kind.serviceType)
    (hnamed : operation.IsWellNamed) (hfits : operation.argumentSchema.Fits record) :
    (decodeAnswer (utf8Bytes (writtenEnvelope (actionOf connection operation record).bodyText))).bind
        operation.argumentSchema.read =
      if (record.all fun value => isXmlText value.written) = true then .ok (record.map Value.kept)
      else .error .malformed := by
  have hname : (actionOf connection operation record).name ≠ "Fault" := by
    rw [actionOf_name hnamed]
    exact hnamed.not_fault
  rw [read_decodeAnswer_encode (encode_actionOf hnamed hfits) hname actionOf_entries
    hnamed.arguments_nodup hfits, isRepresentable_actionOf hservice hnamed hfits]

/-- What is known of the request by which an operation of a connection is called with a record: it is
a post to the control URL that names the service and the operation, once in its header and once in
its body, and its receiver reads the record from it. -/
structure IsPostOf (connection : Connection) (operation : Operation) (record : Record)
    (post : Request) : Prop where
  method : post.method = "POST"
  url : post.url = connection.client.control
  soapAction : post.soapAction =
    some ("\"" ++ connection.serviceType ++ "#" ++ operation.name ++ "\"")
  element : ∃ envelope element, Envelope.decode (utf8Bytes post.body) = .ok envelope ∧
    envelope.fault = none ∧ envelope.action = some element ∧ element.name = operation.name ∧
      element.tag.uri = some connection.serviceType
  arguments : (decodeAnswer (utf8Bytes post.body)).bind operation.argumentSchema.read = .ok record

/-- The request of a connection for a call. -/
def postOf (connection : Connection) (operation : Operation) (record : Record) : Request :=
  connection.client.request (actionOf connection operation record)
    (writtenEnvelope (actionOf connection operation record).bodyText)

/-- A record that comes back as it was is sent as it was. -/
theorem isPostOf_postOf (hservice : connection.serviceType = kind.serviceType)
    (hnamed : operation.IsWellNamed) (hfits : operation.argumentSchema.Fits record)
    (hkept : ∀ value ∈ record, value.IsKept) :
    IsPostOf connection operation record (postOf connection operation record) := by
  have htexts := all_isXmlText_of_isKept hkept
  have hname : (actionOf connection operation record).name = operation.name := actionOf_name hnamed
  obtain ⟨hfault, haction⟩ := @Action.holding_readElement (actionOf connection operation record)
    (by rw [hname]; exact hnamed.not_fault)
  have hdecode := Action.decode_encode (@encode_actionOf connection _ _ hnamed hfits)
  rw [isRepresentable_actionOf hservice hnamed hfits, if_pos htexts] at hdecode
  refine ⟨rfl, rfl, congrArg some (actionOf_header hnamed), ?_, ?_⟩
  · exact ⟨_, _, hdecode, hfault, haction, hname, rfl⟩
  · exact (read_decodeAnswer_actionOf hservice hnamed hfits).trans (by
      rw [if_pos htexts, map_kept_of_isKept hkept])

/-! ## Answers -/

/-- An operation that is sent to a gateway is answered by the outcome of the exchange; otherwise nothing
is sent and the exchange fails. -/
theorem call_run (hservice : connection.serviceType = kind.serviceType)
    (hnamed : operation.IsWellNamed) (hfits : operation.argumentSchema.Fits record)
    (gateway : Gateway) :
    (connection.call operation record).run gateway =
      if gateway.reaches connection.client.control = true then
        (((Client.readOutcome (gateway.outcome (postOf connection operation record))).map
            fun answer => answer.getD .empty).bind operation.resultSchema.read,
          gateway.after (postOf connection operation record))
      else (.error .transport, gateway) := by
  have hresults : Connection.readResults operation = operation.resultSchema.read :=
    funext (operation.readResults_eq)
  have hencode := @encode_actionOf connection _ _ hnamed hfits
  have hheader := @isHeaderValue_actionOf _ _ _ record hservice hnamed
  have hcall : (connection.call operation record).run gateway =
      (((((connection.client.send (actionOf connection operation record)).run gateway).1.map
        fun answer => answer.getD .empty).bind (Connection.readResults operation)),
        ((connection.client.send (actionOf connection operation record)).run gateway).2) := rfl
  rw [hcall, hresults]
  cases hreaches : gateway.reaches connection.client.control with
  | true =>
    rw [Client.send_run hencode hheader hreaches]
    rfl
  | false =>
    rw [Client.send_run_of_not_reaches hencode hheader hreaches]
    rfl

/-- Whether the body of an answer holds an action with the entries of these results, and the fault
that stands beside it, if there is one. -/
def Answers (operation : Operation) (results : Record) (fault : Option Fault) (body : Text.Bytes) :
    Prop :=
  ∃ envelope element answer, Envelope.decode body = .ok envelope ∧ envelope.fault = fault ∧
    envelope.action = some element ∧ Answer.ofElement element = .ok answer ∧
      answer.entries = operation.resultSchema.entries results

/-- What a client makes of an answer with an action: the fault, or else the results. -/
theorem readOutcome_of_answers (hnamed : operation.IsWellNamed) {results : Record}
    (hfits : operation.resultSchema.Fits results) {fault : Option Fault} {body : Text.Bytes}
    (hanswers : Answers operation results fault body) :
    (((Client.readOutcome (.answered 200 (some body))).map fun answer => answer.getD .empty).bind
        operation.resultSchema.read) =
      fault.elim (.ok results) fun fault => .error (.fault fault) := by
  obtain ⟨envelope, element, answer, hdecode, rfl, haction, helement, hentries⟩ := hanswers
  have hread : Client.readOutcome (.answered 200 (some body)) = envelope.result := by
    rw [Client.readOutcome, hdecode]
    rfl
  rw [hread, Envelope.result, haction]
  cases envelope.fault with
  | none =>
    simp only [helement]
    exact Schema.read_entries hnamed.results_nodup hfits hentries
  | some fault => rfl

/-- The element of an action that was written as the whole body of an answer. -/
theorem answers_writtenAction (operation : Operation) {results : Record} {action : Action}
    (hnames : action.hasElementNames = true) (hparts : action.isRepresentable = true)
    (hname : action.name ≠ "Fault")
    (hentries : action.received.entries = operation.resultSchema.entries results) :
    Answers operation results none (utf8Bytes (writtenEnvelope action.bodyText)) := by
  have hdecode := Action.decode_encode (Action.encode_eq_ok_iff.2 ⟨hnames, rfl⟩)
  rw [if_pos hparts] at hdecode
  obtain ⟨hfault, haction⟩ := Action.holding_readElement hname
  exact ⟨_, _, _, hdecode, hfault, haction, Action.ofElement_readElement action, hentries⟩

/-- An action that was written into the body of an answer, with an element of a fault behind it. -/
theorem answers_writtenFault (operation : Operation) {results : Record} {action : Action}
    (hnames : action.hasElementNames = true) (hparts : action.isRepresentable = true)
    (hname : action.name ≠ "Fault")
    (hentries : action.received.entries = operation.resultSchema.entries results) :
    Answers operation results (some ⟨"", "", "", ⟨"", ""⟩⟩)
      (utf8Bytes (writtenEnvelope (action.bodyText ++ textElement "Fault" ""))) := by
  have hbound : bodyBindings.lookup "" = some "" := rfl
  have hread := (Action.readsAs_bodyText hnames).append
    (Content.readsAs_textElement hbound (by decide : Xml.isXmlName "Fault" = true) "")
  have hname' : (action.readElement.name == "Fault") = false := by
    simpa [Action.readElement, Element.name, Action.readTag] using hname
  have hdecode := Envelope.decode_writtenEnvelope hread
  rw [hparts, if_pos (by decide)] at hdecode
  have hfault : (Envelope.holding
      [action.readElement, ⟨⟨"Fault", none, none, []⟩, []⟩]).fault =
        some ⟨"", "", "", ⟨"", ""⟩⟩ := by
    simp only [Envelope.holding, List.find?_cons, hname']
    rfl
  have haction : (Envelope.holding
      [action.readElement, ⟨⟨"Fault", none, none, []⟩, []⟩]).action =
        some action.readElement := by
    simp only [Envelope.holding, List.find?_cons, bne, hname']
    rfl
  exact ⟨_, _, _, hdecode, hfault, haction, Action.ofElement_readElement action, hentries⟩

/-- Whether each call of a client for port mappings is a call of an operation of a connection: it
sends what that sends, and returns what that returns, or the one field of it that it is about. -/
structure ForwardsTo (client : MappingClient Gateway) (connection : Connection) : Prop where
  serviceType : client.serviceType = connection.serviceType
  externalAddress : ∀ gateway, client.externalAddress.run gateway =
    ((connection.call .getExternalIpAddress []).run gateway).map (·.map textOf) id
  add : ∀ (request : MappingRequest) gateway, (client.add request).run gateway =
    ((connection.call .addPortMapping request.record).run gateway).map (·.map fun _ => ()) id
  delete : ∀ (key : MappingKey) gateway, (client.delete key).run gateway =
    ((connection.call .deletePortMapping key.record).run gateway).map (·.map fun _ => ()) id
  find : ∀ (key : MappingKey) gateway, (client.find key).run gateway =
    (connection.call .getSpecificPortMappingEntry key.record).run gateway
  status : ∀ gateway, client.status.run gateway =
    (connection.call .getStatusInfo []).run gateway

/-- What is sent for a request to a gateway that is reached: the request itself, and after it only what
the client is redirected to, ten requests at most. Each of these is the same request at another URL, or
one that carries nothing and asks for the document there. -/
structure SendsOnce (post : Request) (before after : Gateway) (later : List Request) : Prop where
  received : after.received = later ++ post :: before.received
  limit : later.length ≤ 10
  alone : post.redirected? before.next = none → later = []
  redirected : ∀ request ∈ later, ComesOf before.script post request
  form : ∀ request ∈ later,
    request = { post with url := request.url } ∨ request.IsBare

/-- An exchange that reaches the gateway sends its request once. -/
theorem exists_sendsOnce (post : Request) (gateway : Gateway) :
    ∃ later, SendsOnce post gateway (gateway.after post) later := by
  obtain ⟨later, hlater⟩ := Gateway.exists_exchanged post gateway
  refine ⟨later, hlater.received, hlater.limit, hlater.alone, hlater.redirected, fun request hmem => ?_⟩
  rcases (hlater.redirected request hmem).same_or_bare with hsame | ⟨hbare, _⟩
  · exact Or.inl hsame
  · rw [hbare]
    exact Or.inr ⟨rfl, rfl, rfl⟩

/-- Every operation that a service offers sends one request, in which it asks for what it was called
for, and beside that only what it is redirected to. It returns the results that it is answered under
status 200, or the fault that comes with them. Clients for port mappings send the same. -/
theorem call_posts_and_returns (hservice : connection.serviceType = kind.serviceType)
    (hoffered : operation ∈ kind.operations) (hfits : operation.argumentSchema.Fits record)
    (hkept : ∀ value ∈ record, value.IsKept) :
    ∃ post, IsPostOf connection operation record post ∧
      (∀ gateway : Gateway, gateway.reaches connection.client.control = false →
        ((connection.call operation record).run gateway).2 = gateway) ∧
      (∀ gateway : Gateway, gateway.reaches connection.client.control = true →
        ∃ later, SendsOnce post gateway ((connection.call operation record).run gateway).2 later) ∧
      (∀ (gateway : Gateway) (body : Text.Bytes) (results : Record) (fault : Option Fault),
        gateway.reaches connection.client.control = true →
          gateway.outcome post = .answered 200 (some body) → operation.resultSchema.Fits results →
            Answers operation results fault body →
              ((connection.call operation record).run gateway).1 =
                fault.elim (.ok results) fun fault => .error (.fault fault)) ∧
      ForwardsTo (clientOf connection) connection := by
  have hnamed := Operation.isWellNamed_of_mem operation hoffered
  refine ⟨postOf connection operation record, isPostOf_postOf hservice hnamed hfits hkept,
    fun gateway hreaches => ?_, fun gateway hreaches => ?_,
    fun gateway body results fault hreaches houtcome hresults hanswers => ?_,
    ⟨rfl, fun _ => rfl, fun _ _ => rfl, fun _ _ => rfl, fun _ _ => rfl, fun _ => rfl⟩⟩
  · rw [call_run hservice hnamed hfits, if_neg (Bool.eq_false_iff.1 hreaches)]
  · rw [call_run hservice hnamed hfits, if_pos hreaches]
    exact exists_sendsOnce _ gateway
  · rw [call_run hservice hnamed hfits, if_pos hreaches, houtcome]
    exact readOutcome_of_answers hnamed hresults hanswers

/-- A mapping for any port: the request tells all of it, and the port that the answer reserves is
returned. -/
theorem call_posts_and_returns_reservedPort :
    let control : Url := ⟨"http", some ⟨"", "", some (.ipv4 (.ofOctets 192 168 1 1)), none⟩,
      .segments ["ctl"], none, none⟩
    let connection : Connection := ⟨⟨control⟩, ServiceKind.ip2.serviceType⟩
    let record : Record := [.text "", .integer 8080, .text "TCP", .integer 80,
      .text "192.168.1.7", .flag true, .text "a & <b>", .integer 3600]
    let answer : Action := ⟨ServiceKind.ip2.serviceType, some "AddAnyPortMappingResponse",
      .listed [("NewReservedPort", "8081")]⟩
    let gateway : Gateway := ⟨.ipv4 (.ofOctets 192 168 1 1), 80,
      [.answered 200 none (some (utf8Bytes (writtenEnvelope answer.bodyText)))], []⟩
    ∃ post, IsPostOf connection .addAnyPortMapping record post ∧
      ((connection.call .addAnyPortMapping record).run gateway).1 = .ok [.integer 8081] ∧
      ((connection.call .addAnyPortMapping record).run gateway).2.received = [post] := by
  intro control connection record answer gateway
  have hfits : Operation.addAnyPortMapping.argumentSchema.Fits record := by
    decide
  have hresults : Operation.addAnyPortMapping.resultSchema.Fits [.integer 8081] := by
    decide
  have hkept : ∀ value ∈ record, value.IsKept := by
    decide
  have hoffered : Operation.addAnyPortMapping ∈ ServiceKind.ip2.operations :=
    List.mem_append_right _ List.mem_cons_self
  have hanswers : Answers .addAnyPortMapping [.integer 8081] none
      (utf8Bytes (writtenEnvelope answer.bodyText)) :=
    answers_writtenAction _ (by decide +kernel) (by decide +kernel) (by decide) (by decide)
  obtain ⟨post, hpost, _, hsent, hreturned, _⟩ :=
    call_posts_and_returns (show connection.serviceType = ServiceKind.ip2.serviceType from rfl)
      hoffered hfits hkept
  have hreaches : gateway.reaches connection.client.control = true := by decide
  obtain ⟨later, hlater⟩ := hsent gateway hreaches
  obtain rfl := hlater.alone rfl
  exact ⟨post, hpost, hreturned gateway _ _ none hreaches (Gateway.outcome_of_not_redirected rfl) hresults
    hanswers, hlater.received⟩

/-- An address is not returned if a fault stands beside it, and an operation that is redirected to another
URL is posted there once more. -/
theorem call_refused_or_repeated :
    let control : Url := ⟨"http", some ⟨"", "", some (.ipv4 (.ofOctets 192 168 1 1)), none⟩,
      .segments ["ctl"], none, none⟩
    let other : Url := ⟨"http", some ⟨"", "", some (.ipv4 (.ofOctets 192 168 1 1)), none⟩,
      .segments ["other"], none, none⟩
    let connection : Connection := ⟨⟨control⟩, ServiceKind.ip1.serviceType⟩
    let answer : Action := ⟨ServiceKind.ip1.serviceType, some "GetExternalIPAddressResponse",
      .listed [("NewExternalIPAddress", "203.0.113.7")]⟩
    let body := utf8Bytes (writtenEnvelope (answer.bodyText ++ textElement "Fault" ""))
    let refusing : Gateway :=
      ⟨.ipv4 (.ofOctets 192 168 1 1), 80, [.answered 200 none (some body)], []⟩
    let redirecting : Gateway :=
      ⟨.ipv4 (.ofOctets 192 168 1 1), 80, [.answered 307 (some "/other") (some [])], []⟩
    (∃ fault, Answers .getExternalIpAddress [.text "203.0.113.7"] fault body) ∧
      ((connection.call .getExternalIpAddress []).run refusing).1 ≠ .ok [.text "203.0.113.7"] ∧
      (((connection.call .getExternalIpAddress []).run redirecting).2.received.map
        fun request => (request.method, request.url)) = [("POST", other), ("POST", control)] := by
  intro control other connection answer body refusing redirecting
  have hnamed : Operation.getExternalIpAddress.IsWellNamed := by decide
  have hfits : Operation.getExternalIpAddress.argumentSchema.Fits [] := by decide
  have hresults : Operation.getExternalIpAddress.resultSchema.Fits [.text "203.0.113.7"] := by
    decide
  have hanswers : Answers .getExternalIpAddress [.text "203.0.113.7"]
      (some ⟨"", "", "", ⟨"", ""⟩⟩) body :=
    answers_writtenFault _ (by decide +kernel) (by decide +kernel) (by decide) (by decide)
  have hreaches : refusing.reaches connection.client.control = true := by decide
  have houtcome : refusing.outcome (postOf connection .getExternalIpAddress []) =
      .answered 200 (some body) := Gateway.outcome_of_not_redirected rfl
  refine ⟨⟨_, hanswers⟩, ?_, by decide +kernel⟩
  have hservice : connection.serviceType = ServiceKind.ip1.serviceType := rfl
  rw [call_run hservice hnamed hfits, if_pos hreaches, houtcome,
    readOutcome_of_answers hnamed hresults hanswers]
  intro hreturned
  cases hreturned

end NatGateway.Wan
