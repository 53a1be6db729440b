import NatGateway.Proofs.Description.Acceptance

/-!
# Walks through a description

What the walks through a root meet, in terms of the document that it was read from: the devices are the
device elements in the order of the document, and the services are those that these declare, device by
device. Every walk is the one over the devices with more or less of it kept, so nothing is lost, met
twice or given to another device in any of them.
-/

namespace NatGateway.Description

open NatGateway.Text (Bytes utf8Bytes)
open NatGateway.Xml (Element Tree)

/-! ## Services -/

/-- Where a service is declared: the place of the device element, and that of the service element in
it. -/
structure ServicePlace where
  device : List Nat
  service : List Nat

/-- Services are declared device by device. -/
instance : LT ServicePlace where
  lt a b := a.device < b.device ∨ a.device = b.device ∧ a.service < b.service

/-- Whether a device element at a place of a description declares a service element at a place in it: an
item of its first list of services. -/
structure ServiceAt (root : Element) (place : ServicePlace) (declared : Element × Element) : Prop where
  device : DeviceAt root place.device declared.1
  service : ∃ i j, place.service = [i, j] ∧ ItemAt declared.1 "serviceList" "service" i j declared.2

/-- The service elements that a device element declares, with the device element. -/
def servicesOf (device : Element) : List (Element × Element) :=
  (itemsOf device "serviceList" "service").map (device, ·)

/-- The service elements of a description are listed device by device. -/
theorem lists_services {root outer : Element} (h : root.child? "device" = some outer) :
    Lists (ServiceAt root) ((deviceElements outer).flatMap servicesOf) := by
  have hlists := (lists_devices h).flatMap ServicePlace.mk
    (fun device _ => (lists_itemsOf device "serviceList" "service").map (device, ·))
    (fun _ _ hlt _ _ => .inl hlt) (fun place {_ _} hlt => .inr ⟨rfl, hlt⟩)
  refine hlists.congr fun place declared => ?_
  constructor
  · rintro ⟨devicePlace, device, servicePlace, rfl, hdevice, service, hservice, rfl⟩
    exact ⟨hdevice, hservice⟩
  · rintro ⟨hdevice, hservice⟩
    exact ⟨place.device, declared.1, place.service, rfl, hdevice, declared.2, hservice, rfl⟩

/-! ## Walks -/

/-- Whether a device is what a device element says of itself, with its references resolved against a
base. -/
def IsReadFrom (base : Url) (found : Element) (details : Details) : Prop :=
  (Details.ofElement found).map (Details.rebase base) = .ok details

variable {base : Url} {found : Element} {details : Details}

/-- The services of a device are those of its element, in the same order. -/
theorem IsReadFrom.services (h : IsReadFrom base found details) :
    details.services =
      (itemsOf found "serviceList" "service").map fun service => (Service.ofElement service).rebase base := by
  obtain ⟨said, hsaid, rfl⟩ := map_eq_ok_iff.1 h
  obtain ⟨icons, _, rfl⟩ := map_eq_ok_iff.1 hsaid
  exact List.map_map

/-- A walk through a device with its references resolved meets the device elements that it was read
from. -/
theorem visited_rebase {outer : Element} {device : Device} (h : Device.ofElement outer = .ok device)
    (base : Url) :
    List.Forall₂ (IsReadFrom base) (deviceElements outer) (device.rebase base).visited := by
  rw [Device.rebase_eq_mapReferences, Device.visited_mapReferences, List.forall₂_map_right_iff]
  exact (visited_of_ofElement h).imp fun found details hread => map_eq_ok_iff.2 ⟨details, hread, rfl⟩

/-- A walk over services meets those of the device elements, each with its device. -/
theorem declaredServices_of_visited {elements : List Element} {device : Device}
    (h : List.Forall₂ (IsReadFrom base) elements device.visited) :
    List.Forall₂ (fun declared met => IsReadFrom base declared.1 met.1 ∧
        met.2 = (Service.ofElement declared.2).rebase base)
      (elements.flatMap servicesOf) device.declaredServices := by
  refine List.rel_flatMap h fun found details hread => ?_
  rw [servicesOf, hread.services, List.map_map, List.forall₂_map_left_iff, List.forall₂_map_right_iff,
    List.forall₂_same]
  exact fun service _ => ⟨hread, rfl⟩

/-- Whether the walks through a root meet what a document declares. The devices are the device elements in
the order of the document, and the services with their devices are the service elements device by device.
The services by themselves are these without their devices, and those of a type are those among them that
have the type. -/
structure MeetsDeclared (document : Element) (root : Root) : Prop where
  devices : ∃ devices, Lists (DeviceAt document) devices ∧
    List.Forall₂ (IsReadFrom root.base) devices root.device.visited
  declared : ∃ services, Lists (ServiceAt document) services ∧
    List.Forall₂ (fun declared met => IsReadFrom root.base declared.1 met.1 ∧
      met.2 = (Service.ofElement declared.2).rebase root.base) services root.device.declaredServices
  services : root.device.services = root.device.declaredServices.map (·.2)
  ofType : ∀ type, root.device.findServices type = root.device.services.filter (·.type = type)

/-- The walks through a root that was read meet what its document declares. -/
theorem walks_ofBytes {bytes : Bytes} {location : Url} {root : Root}
    (h : Root.ofBytes bytes location = .ok root) :
    ∃ document, Element.ofBytes? bytes = some document ∧ MeetsDeclared document root := by
  obtain ⟨version, device, base, ⟨document, outer, hread, _, houter, hdevice, _⟩, rfl⟩ :=
    Root.ofBytes_eq_ok_iff.1 h
  have hvisited := visited_rebase hdevice base
  exact ⟨document, (rootOf_eq_ok_iff.1 hread).1, ⟨_, lists_devices houter, hvisited⟩,
    ⟨_, lists_services houter, declaredServices_of_visited hvisited⟩, rfl,
    fun type => List.filter_congr fun service _ => beq_eq_decide _ _⟩

/-- A device whose list of services stands behind its devices: the walks go by the devices, in the order
of their start tags, and not by the services. -/
theorem walks_ofBytes_nested :
    let service (id : String) : Tree := .branch "serviceList" [.branch "service" [.leaf "serviceId" id]]
    let device (udn : String) (inside : List Tree) : Tree :=
      .branch "device" (.branch "deviceList" inside :: [.leaf "UDN" udn, service udn])
    let trees : List Tree := [device "outer" [device "first" [device "inner" []], device "second" []]]
    let bytes := utf8Bytes (Xml.writtenDeclaration ++ (Tree.branch "root" trees).written)
    let server : Url :=
      ⟨"http", some ⟨"", "", some (.ipv4 (.ofOctets 10 1 1 1)), none⟩, .segments ["d"], none, none⟩
    ∃ root, Root.ofBytes bytes server = .ok root ∧
      root.device.visited.map (·.udn) = ["outer", "first", "inner", "second"] ∧
      root.device.services.map (·.id) = ["outer", "first", "inner", "second"] ∧
      ∃ document, Element.ofBytes? bytes = some document ∧ MeetsDeclared document root := by
  intro service device trees bytes server
  have hread : Element.ofBytes? bytes = some ⟨⟨"root", none, none, []⟩, Tree.nodes trees⟩ :=
    Tree.ofBytes?_written (by decide +kernel)
  have hmet : ((Root.ofBytes bytes server).map fun root =>
      (root.device.visited.map (·.udn), root.device.services.map (·.id))).toOption =
        some (["outer", "first", "inner", "second"], ["outer", "first", "inner", "second"]) := by
    rw [Root.ofBytes, rootOf, hread]
    decide +kernel
  obtain ⟨root, hroot, hmet⟩ := map_eq_ok_iff.1 (toOption_eq_some_iff.1 hmet)
  exact ⟨root, hroot, congrArg Prod.fst hmet, congrArg Prod.snd hmet, walks_ofBytes hroot⟩

end NatGateway.Description
