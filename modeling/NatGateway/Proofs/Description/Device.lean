import NatGateway.Description.Device

/-!
# Walks and references of a device tree

A walk through a tree of devices visits each device before those inside it, so the services come in
the order in which the devices and then their services are declared. A change of references goes
through the whole tree and leaves its shape and all that is no reference as they are. Resolving
references anew is such a change, so what holds of it at every depth follows from what it does to
one reference.
-/

namespace NatGateway.Description

/-! ## Walks -/

namespace Device

/-- A list of devices is visited device by device. -/
theorem visitedAll_eq_flatMap (devices : List Device) :
    visitedAll devices = devices.flatMap visited := by
  induction devices with
  | nil => rfl
  | cons device rest ih => rw [visitedAll, ih, List.flatMap_cons]

/-- The services of a device come before those of the devices inside it. -/
theorem declaredServices_node (details : Details) (devices : List Device) :
    (node details devices).declaredServices =
      details.services.map (details, ·) ++ devices.flatMap declaredServices := by
  rw [declaredServices, visited, visitedAll_eq_flatMap, List.flatMap_cons, List.flatMap_assoc]
  rfl

end Device

/-! ## References -/

namespace Reference

/-- Resolving a reference anew keeps its text and forgets its URL. -/
theorem rebase_eq (base : Url) (reference : Reference) :
    reference.rebase base = ⟨reference.raw, resolve? base reference.raw⟩ := by
  rw [rebase]

/-- The text of a reference that was resolved anew. -/
theorem rebase_raw (base : Url) (reference : Reference) :
    (reference.rebase base).raw = reference.raw := by
  rw [rebase_eq]

/-- The URL of a reference that was resolved anew. -/
theorem rebase_url (base : Url) (reference : Reference) :
    (reference.rebase base).url = resolve? base reference.raw := by
  rw [rebase_eq]

/-- Only the last base matters. -/
theorem rebase_rebase (first second : Url) (reference : Reference) :
    (reference.rebase first).rebase second = reference.rebase second := by
  rw [rebase_eq, rebase_eq, rebase_eq]

end Reference

/-- Change the reference of an icon. -/
def Icon.mapReferences (change : Reference → Reference) (icon : Icon) : Icon :=
  { icon with url := change icon.url }

/-- Change the references of a service. -/
def Service.mapReferences (change : Reference → Reference) (service : Service) : Service :=
  { service with
    scpd := change service.scpd
    control := change service.control
    event := change service.event }

/-- The references of a service. -/
def Service.references (service : Service) : List Reference :=
  [service.scpd, service.control, service.event]

/-- Change the references of a device, those of the devices inside it apart. -/
def Details.mapReferences (change : Reference → Reference) (details : Details) : Details :=
  { details with
    manufacturerUrl := change details.manufacturerUrl
    modelUrl := change details.modelUrl
    presentationUrl := change details.presentationUrl
    icons := details.icons.map (·.mapReferences change)
    services := details.services.map (·.mapReferences change) }

/-- The references of a device, those of the devices inside it apart. -/
def Details.references (details : Details) : List Reference :=
  [details.manufacturerUrl, details.modelUrl, details.presentationUrl] ++
    details.icons.map (·.url) ++ details.services.flatMap (·.references)

/-- Changing references twice is changing them once by both changes. -/
theorem Details.mapReferences_mapReferences (first second : Reference → Reference)
    (details : Details) :
    (details.mapReferences first).mapReferences second = details.mapReferences (second ∘ first) := by
  simp only [Details.mapReferences, List.map_map]
  rfl

/-- The references of a changed device are its changed references. -/
theorem Details.references_mapReferences (change : Reference → Reference) (details : Details) :
    (details.mapReferences change).references = details.references.map change := by
  have hservices : ∀ services : List Service,
      (services.map (·.mapReferences change)).flatMap (·.references) =
        (services.flatMap (·.references)).map change := by
    intro services
    rw [List.flatMap_map, List.map_flatMap]
    rfl
  have hicons : ∀ icons : List Icon,
      (icons.map (·.mapReferences change)).map (·.url) = (icons.map (·.url)).map change := by
    intro icons
    rw [List.map_map, List.map_map]
    rfl
  simp only [Details.references, Details.mapReferences, hservices, hicons, List.map_append,
    List.map_cons, List.map_nil]

/-- Resolving the references of a device anew changes each of them. -/
theorem Details.rebase_eq_mapReferences (base : Url) (details : Details) :
    details.rebase base = details.mapReferences (·.rebase base) := rfl

namespace Device

mutual

/-- Change all references of a device. -/
def mapReferences (change : Reference → Reference) : Device → Device
  | .node details devices =>
      .node (details.mapReferences change) (mapReferencesAll change devices)

/-- Change all references of a list of devices. -/
def mapReferencesAll (change : Reference → Reference) : List Device → List Device
  | [] => []
  | device :: rest => mapReferences change device :: mapReferencesAll change rest

end

/-- All references of a device, at any depth. -/
def references (device : Device) : List Reference := device.visited.flatMap (·.references)

/-- A device without the URLs that its references were resolved to. -/
def unresolved (device : Device) : Device := device.mapReferences fun reference => .ofText reference.raw

mutual

/-- Changing all references twice is changing them once by both changes. -/
theorem mapReferences_mapReferences (first second : Reference → Reference) :
    ∀ device : Device,
      (device.mapReferences first).mapReferences second = device.mapReferences (second ∘ first)
  | .node details devices => by
      rw [mapReferences, mapReferences, mapReferences, Details.mapReferences_mapReferences,
        mapReferencesAll_mapReferencesAll first second devices]

/-- The same of a list of devices. -/
theorem mapReferencesAll_mapReferencesAll (first second : Reference → Reference) :
    ∀ devices : List Device,
      mapReferencesAll second (mapReferencesAll first devices) =
        mapReferencesAll (second ∘ first) devices
  | [] => rfl
  | device :: rest => by
      rw [mapReferencesAll, mapReferencesAll, mapReferencesAll,
        mapReferences_mapReferences first second device,
        mapReferencesAll_mapReferencesAll first second rest]

end

mutual

/-- A changed tree is visited in the same order. -/
theorem visited_mapReferences (change : Reference → Reference) :
    ∀ device : Device,
      (device.mapReferences change).visited = device.visited.map (·.mapReferences change)
  | .node details devices => by
      rw [mapReferences, visited, visited, visitedAll_mapReferencesAll change devices, List.map_cons]

/-- The same of a list of devices. -/
theorem visitedAll_mapReferencesAll (change : Reference → Reference) :
    ∀ devices : List Device,
      visitedAll (mapReferencesAll change devices) =
        (visitedAll devices).map (·.mapReferences change)
  | [] => rfl
  | device :: rest => by
      rw [mapReferencesAll, visitedAll, visitedAll, visited_mapReferences change device,
        visitedAll_mapReferencesAll change rest, List.map_append]

end

/-- The references of a changed tree are its changed references. -/
theorem references_mapReferences (change : Reference → Reference) (device : Device) :
    (device.mapReferences change).references = device.references.map change := by
  have hdetails : (fun details : Details => (details.mapReferences change).references) =
      fun details => details.references.map change :=
    funext (Details.references_mapReferences change)
  rw [references, visited_mapReferences, List.flatMap_map, hdetails, references, List.map_flatMap]

mutual

/-- Resolving all references of a device anew changes each of them. -/
theorem rebase_eq_mapReferences (base : Url) :
    ∀ device : Device, device.rebase base = device.mapReferences (·.rebase base)
  | .node details devices => by
      rw [rebase, mapReferences, Details.rebase_eq_mapReferences,
        rebaseAll_eq_mapReferencesAll base devices]

/-- The same of a list of devices. -/
theorem rebaseAll_eq_mapReferencesAll (base : Url) :
    ∀ devices : List Device, rebaseAll base devices = mapReferencesAll (·.rebase base) devices
  | [] => rfl
  | device :: rest => by
      rw [rebaseAll, mapReferencesAll, rebase_eq_mapReferences base device,
        rebaseAll_eq_mapReferencesAll base rest]

end

/-- Only the last base matters. -/
theorem rebase_rebase (first second : Url) (device : Device) :
    (device.rebase first).rebase second = device.rebase second := by
  rw [rebase_eq_mapReferences, rebase_eq_mapReferences, mapReferences_mapReferences,
    rebase_eq_mapReferences]
  exact congrArg (mapReferences · device)
    (funext fun reference => reference.rebase_rebase first second)

/-- Resolving references changes nothing but their URLs. -/
theorem unresolved_rebase (base : Url) (device : Device) :
    (device.rebase base).unresolved = device.unresolved := by
  rw [unresolved, rebase_eq_mapReferences, mapReferences_mapReferences]
  exact congrArg (mapReferences · device)
    (funext fun reference => congrArg Reference.ofText (reference.rebase_raw base))

/-- After a change of the base every reference is resolved against it. -/
theorem url_of_mem_references_rebase {base : Url} {device : Device} {reference : Reference}
    (h : reference ∈ (device.rebase base).references) :
    reference.url = Reference.resolve? base reference.raw := by
  rw [rebase_eq_mapReferences, references_mapReferences] at h
  obtain ⟨before, _, rfl⟩ := List.mem_map.1 h
  rw [Reference.rebase_url, Reference.rebase_raw]

end Device

end NatGateway.Description
