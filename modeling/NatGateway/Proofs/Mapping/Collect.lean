import Mathlib.Data.List.Forall2
import NatGateway.Mapping.Collect
import NatGateway.Proofs.Description.Device
import NatGateway.Proofs.Wan.Calls

/-!
# Collected gateways

Which services of a description give a gateway, and what each gateway is driven by. A walk looks at
one service after the other, so it is settled by what one visit adds: a gateway that belongs to the
service, if the service can be used, and nothing otherwise. Services after the token was cancelled
are not looked at.
-/

namespace NatGateway.Mapping

open NatGateway.Description (Details Device Root Service)
open NatGateway.Http (OnlySends Request)
open NatGateway.Soap (Record)
open NatGateway.Wan (Connection Operation ServiceKind)

/-! ## Services that can be used -/

/-- Whether a service of a device can be used: it is a connection service with a control URL, and not
one of the second version where the device or the root is of the first. -/
structure IsUsable (root : Root) (details : Details) (service : Service) : Prop where
  type : service.type ∈ [ServiceKind.ip1, .ppp1, .ip2].map ServiceKind.serviceType
  control : service.control.url.isSome = true
  version : service.type = ServiceKind.ip2.serviceType →
    root.device.details.deviceType ≠ wanConnectionDevice1 ∧
      details.deviceType ≠ wanConnectionDevice1

instance (root : Root) (details : Details) (service : Service) :
    Decidable (IsUsable root details service) :=
  decidable_of_iff
    (service.type ∈ [ServiceKind.ip1, .ppp1, .ip2].map ServiceKind.serviceType ∧
      service.control.url.isSome = true ∧
      (service.type = ServiceKind.ip2.serviceType →
        root.device.details.deviceType ≠ wanConnectionDevice1 ∧
          details.deviceType ≠ wanConnectionDevice1))
    ⟨fun ⟨type, control, version⟩ => ⟨type, control, version⟩,
      fun ⟨type, control, version⟩ => ⟨type, control, version⟩⟩

/-- Whether a gateway that was collected is the one of a service: it is of the kind that the type of
the service names, its operations are posted to the control URL of the service under that type, and
it is placed and named by the root. -/
structure IsGatewayOf (root : Root) (service : Service) (collected : Collected) : Prop where
  kind : collected.gateway.kind.serviceType = service.type
  serviceType : collected.connection.serviceType = service.type
  control : service.control.url = some collected.connection.client.control
  posts : ∀ operation ∈ collected.gateway.kind.operations, ∀ record : Record,
    OnlySends (fun post => post.method = "POST" ∧ service.control.url = some post.url ∧
        post.soapAction = some ("\"" ++ service.type ++ "#" ++ operation.name ++ "\""))
      (collected.connection.call operation record)
  location : collected.gateway.location = root.base
  deviceName : collected.gateway.deviceName = root.device.details.friendlyName

variable {root : Root} {settings : Settings} {details : Details} {service : Service}

/-- A type names the kind that it is the type of. -/
theorem ofServiceType?_eq_some_iff {type : String} {kind : ServiceKind} :
    ServiceKind.ofServiceType? type = some kind ↔ kind.serviceType = type := by
  constructor
  · intro h
    have hfound := List.find?_some h
    exact beq_iff_eq.1 hfound
  · rintro rfl
    cases kind <;> decide

/-- The kind of gateway that a service gives: the one that its type names, unless that is the second
version where the device or the root is of the first. -/
theorem kindOf?_eq_some_iff {kind : ServiceKind} :
    kindOf? root details service = some kind ↔
      kind.serviceType = service.type ∧
        (kind = .ip2 → root.device.details.deviceType ≠ wanConnectionDevice1 ∧
          details.deviceType ≠ wanConnectionDevice1) := by
  rw [← ofServiceType?_eq_some_iff, kindOf?]
  cases ServiceKind.ofServiceType? service.type with
  | none => simp
  | some named =>
    cases named with
    | ip1 => simp +contextual [eq_comm]
    | ppp1 => simp +contextual [eq_comm]
    | ip2 =>
      simp only [Bool.or_eq_true, decide_eq_true_eq]
      split
      · next hfirst =>
        refine ⟨fun h => (nomatch h), fun ⟨hkind, hversion⟩ => ?_⟩
        obtain ⟨hroot, hdevice⟩ := hversion (Option.some.inj hkind).symm
        exact absurd hfirst (not_or.2 ⟨hroot, hdevice⟩)
      · next hfirst => exact ⟨fun hkind => ⟨hkind, fun _ => not_or.1 hfirst⟩, And.left⟩

/-- A service can be used if it gives a kind of gateway and has a control URL. -/
theorem isUsable_iff : IsUsable root details service ↔
    (∃ kind, kindOf? root details service = some kind) ∧ ∃ url, service.control.url = some url := by
  simp only [kindOf?_eq_some_iff]
  constructor
  · rintro ⟨htype, hcontrol, hversion⟩
    obtain ⟨kind, _, hkind⟩ := List.mem_map.1 htype
    refine ⟨⟨kind, hkind, ?_⟩, Option.isSome_iff_exists.1 hcontrol⟩
    rintro rfl
    exact hversion hkind.symm
  · rintro ⟨⟨kind, hkind, hversion⟩, hcontrol⟩
    refine ⟨List.mem_map.2 ⟨kind, by cases kind <;> decide, hkind⟩,
      Option.isSome_iff_exists.2 hcontrol, fun htype => hversion ?_⟩
    have hsame := ofServiceType?_eq_some_iff.2 (hkind.trans htype)
    rw [show ServiceKind.ofServiceType? ServiceKind.ip2.serviceType = some .ip2 by decide] at hsame
    exact (Option.some.inj hsame).symm

/-- A service that can be used gives a gateway of its own. -/
theorem exists_gatewayOf? (settings : Settings) (h : IsUsable root details service) :
    ∃ collected, gatewayOf? root settings details service = some (.ok collected) ∧
      IsGatewayOf root service collected := by
  obtain ⟨⟨kind, hkind⟩, url, hurl⟩ := isUsable_iff.1 h
  obtain ⟨htype, _⟩ := kindOf?_eq_some_iff.1 hkind
  refine ⟨⟨.ofRoot kind root settings, ⟨⟨url⟩, kind.serviceType⟩⟩, ?_, htype, htype, hurl, ?_, rfl, rfl⟩
  · simp only [gatewayOf?, hkind, Connection.ofService, Description.Reference.resolved, hurl]
    rfl
  · intro operation hoperation record
    refine call_onlySends fun text _ => ⟨rfl, hurl, ?_⟩
    have hnamed := Operation.isWellNamed_of_mem operation hoperation
    rw [← htype]
    exact congrArg some (Wan.actionOf_header hnamed)

/-- A service that cannot be used gives no gateway. -/
theorem gatewayOf?_ne_ok (h : ¬ IsUsable root details service) (collected : Collected) :
    gatewayOf? root settings details service ≠ some (.ok collected) := by
  intro hgives
  obtain ⟨kind, hkind, hconnection⟩ := Option.map_eq_some_iff.1 hgives
  cases hurl : service.control.url with
  | none =>
    simp only [Connection.ofService, Description.Reference.resolved, hurl] at hconnection
    cases hconnection
  | some url => exact h (isUsable_iff.2 ⟨⟨kind, hkind⟩, url, hurl⟩)

/-! ## The walk -/

namespace Collection

/-- The services that a walk looks at: those before the token was cancelled. -/
def seen (looks : Option Nat) (services : List (Details × Service)) : List (Details × Service) :=
  looks.elim services services.take

/-- Whether gateways are those of the services that can be used, one for each and in their order. -/
def AreGatewaysOf (root : Root) (services : List (Details × Service)) (gateways : List Collected) :
    Prop :=
  List.Forall₂ (fun declared collected => IsGatewayOf root declared.2 collected)
    (services.filter fun declared => IsUsable root declared.1 declared.2) gateways

/-- A visit adds the gateway of the service if it can be used, and none otherwise. -/
theorem visit_gateways (root : Root) (settings : Settings) (found : Collection)
    (declared : Details × Service) :
    ∃ gateways, AreGatewaysOf root [declared] gateways ∧
      (found.visit root settings declared.1 declared.2).gateways = found.gateways ++ gateways := by
  obtain ⟨details, service⟩ := declared
  by_cases husable : IsUsable root details service
  · obtain ⟨collected, hgives, hgateway⟩ := exists_gatewayOf? settings husable
    refine ⟨[collected], ?_, ?_⟩
    · rw [AreGatewaysOf, List.filter_cons_of_pos (by simpa using husable)]
      exact .cons hgateway .nil
    · rw [visit, hgives]
  · refine ⟨[], ?_, ?_⟩
    · rw [AreGatewaysOf, List.filter_cons_of_neg (by simpa using husable)]
      exact .nil
    · rw [visit]
      cases hgives : gatewayOf? root settings details service with
      | none => rw [List.append_nil]
      | some result =>
        cases result with
        | ok collected => exact absurd hgives (gatewayOf?_ne_ok husable collected)
        | error warning => rw [List.append_nil]

/-- The gateways of services come before those of services that are looked at later. -/
theorem AreGatewaysOf.cons {declared : Details × Service} {rest : List (Details × Service)}
    {first later : List Collected} (hfirst : AreGatewaysOf root [declared] first)
    (hlater : AreGatewaysOf root rest later) :
    AreGatewaysOf root (declared :: rest) (first ++ later) := by
  rw [AreGatewaysOf, ← List.singleton_append, List.filter_append]
  exact List.rel_append hfirst hlater

/-- A walk adds the gateways of the services that it looks at. -/
theorem visitAll_gateways (root : Root) (settings : Settings) (looks : Option Nat)
    (services : List (Details × Service)) (found : Collection) :
    ∃ gateways, AreGatewaysOf root (seen looks services) gateways ∧
      (visitAll root settings looks services found).gateways = found.gateways ++ gateways := by
  -- Every visit uses up a look and adds to what was found, so both vary with the services.
  induction services generalizing looks found with
  | nil =>
    have hseen : seen looks [] = [] := by
      cases looks with
      | none => rfl
      | some looks => exact List.take_nil
    refine ⟨[], by rw [hseen]; exact .nil, ?_⟩
    rw [visitAll, List.append_nil]
  | cons declared rest ih =>
    obtain ⟨first, hfirst, hvisit⟩ := visit_gateways root settings found declared
    match looks with
    | some 0 =>
      obtain ⟨later, hlater, hrest⟩ := ih (some 0) found
      exact ⟨later, hlater, hrest⟩
    | some (looks + 1) =>
      obtain ⟨later, hlater, hrest⟩ :=
        ih (some looks) (found.visit root settings declared.1 declared.2)
      refine ⟨first ++ later, hfirst.cons hlater, ?_⟩
      rw [visitAll, hrest, hvisit, List.append_assoc]
    | none =>
      obtain ⟨later, hlater, hrest⟩ := ih none (found.visit root settings declared.1 declared.2)
      refine ⟨first ++ later, hfirst.cons hlater, ?_⟩
      rw [visitAll, hrest, hvisit, List.append_assoc]

end Collection

/-- Services are declared device by device, those of a device before those of the devices inside it,
and of the services that are looked at before the token is cancelled each one that can be used adds
its gateway behind those that were collected earlier, in this order. -/
theorem collect_gateways (root : Root) (settings : Settings) (looks : Option Nat)
    (earlier : List Collected) :
    (∀ details devices, (Device.node details devices).declaredServices =
      details.services.map (details, ·) ++ devices.flatMap Device.declaredServices) ∧
    ∃ gateways, (collect root settings looks earlier).gateways = earlier ++ gateways ∧
      List.Forall₂ (fun declared collected => IsGatewayOf root declared.2 collected)
        ((looks.elim root.device.declaredServices root.device.declaredServices.take).filter
          fun declared => IsUsable root declared.1 declared.2) gateways := by
  obtain ⟨gateways, hgateways, hcollected⟩ := Collection.visitAll_gateways root settings looks
    root.device.declaredServices (.start earlier)
  exact ⟨Device.declaredServices_node, gateways, hcollected, hgateways⟩

end NatGateway.Mapping
