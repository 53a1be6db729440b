import NatGateway.Proofs.Description.Device
import NatGateway.Proofs.Result
import NatGateway.Proofs.Xml.Children

/-!
# Device elements

Which elements of a document are read as devices. A device element holds a list of devices, the first
one if there are several, and the device elements of that list are inside it, at any depth. The place
of an element says which way leads to it, child by child, so elements come in the order of their places
exactly as their start tags do in the document: an element before what is inside it, and that before
what follows.

Reading a device reads its device elements one after the other in this order, so it succeeds if each of
them can be read, and a walk through the device that was read meets them in this order.
-/

namespace NatGateway.Description

open NatGateway.Xml (Element Node)

/-! ## Items -/

/-- Whether an element is an item of a list: a child of its name in the first child that has the name
of the list. The places are those of the list and of the item in it. -/
def ItemAt (element : Element) (listName itemName : String) (i j : Nat) (item : Element) : Prop :=
  ∃ list, element.IsFirstNamed listName i list ∧ list.elements[j]? = some item ∧ item.name = itemName

variable {element outer inner found item : Element} {listName itemName : String}

/-- The items of a list are those of its first child of that name. -/
theorem itemsOf_eq_flatMap (element : Element) (listName itemName : String) :
    itemsOf element listName itemName =
      (element.child? listName).toList.flatMap (·.named itemName) := by
  rw [itemsOf]
  cases element.child? listName with
  | none => rfl
  | some list => exact (List.append_nil _).symm

/-- The items of a list in their order. -/
theorem lists_itemsOf (element : Element) (listName itemName : String) :
    Lists (fun place item => ∃ i j, place = [i, j] ∧ ItemAt element listName itemName i j item)
      (itemsOf element listName itemName) := by
  have hlists := (element.lists_child? listName).flatMap (fun i j => [i, j])
    (fun list _ => list.lists_named itemName)
    (fun _ _ hlt j j' => List.cons_lt_cons_iff.2 (.inl hlt))
    (fun i {j j'} hlt => List.cons_lt_cons_iff.2 (.inr ⟨rfl, List.cons_lt_cons_iff.2 (.inl hlt)⟩))
  rw [itemsOf_eq_flatMap]
  refine hlists.congr fun place item => ?_
  constructor
  · rintro ⟨i, list, j, hplace, hlist, hitem⟩
    exact ⟨i, j, hplace, list, hlist, hitem⟩
  · rintro ⟨i, j, hplace, list, hlist, hitem⟩
    exact ⟨i, list, j, hplace, hlist, hitem⟩

/-- An element is among the items exactly if it is an item at some place. -/
theorem mem_itemsOf_iff :
    item ∈ itemsOf element listName itemName ↔ ∃ i j, ItemAt element listName itemName i j item := by
  rw [(lists_itemsOf element listName itemName).mem_iff]
  constructor
  · rintro ⟨_, i, j, rfl, h⟩
    exact ⟨i, j, h⟩
  · rintro ⟨i, j, h⟩
    exact ⟨[i, j], i, j, rfl, h⟩

/-! ## Device elements -/

/-- Whether a device element is inside another one or that one itself, and where: the way to it is that
to a device of the first list of devices, and from there on. -/
inductive Inside : Element → List Nat → Element → Prop
  | self (device : Element) : Inside device [] device
  | step {device inner found : Element} {i j : Nat} {place : List Nat}
      (hitem : ItemAt device "deviceList" "device" i j inner) (h : Inside inner place found) :
      Inside device (i :: j :: place) found

/-- Whether a device element is at a place of a description: the first device of the root is one, and so
are those inside it. -/
def DeviceAt (root : Element) (place : List Nat) (found : Element) : Prop :=
  ∃ i outer rest, place = i :: rest ∧ root.IsFirstNamed "device" i outer ∧ Inside outer rest found

/-- A child is smaller than what it stands in. -/
theorem sizeOf_lt_of_mem_elements {child : Element} (h : child ∈ element.elements) :
    sizeOf child.children < sizeOf element.children := by
  obtain ⟨node, hnode, hchild⟩ := List.mem_filterMap.1 h
  have hlt := List.sizeOf_lt_of_mem hnode
  cases node with
  | element tag children =>
    cases hchild
    simp only [Node.element.sizeOf_spec] at hlt
    change sizeOf children < _
    omega
  | _ => cases hchild

/-- An item is smaller than what it is found in. -/
theorem sizeOf_lt_of_mem_itemsOf (h : item ∈ itemsOf element listName itemName) :
    sizeOf item.children < sizeOf element.children := by
  obtain ⟨i, j, list, hlist, hitem, _⟩ := mem_itemsOf_iff.1 h
  exact Nat.lt_trans (sizeOf_lt_of_mem_elements (List.mem_of_getElem? hitem))
    (sizeOf_lt_of_mem_elements (List.mem_of_getElem? hlist.stands))

/-- What holds of an element if it holds of the devices of its list holds of all elements. -/
theorem induction_inside {motive : Element → Prop}
    (step : ∀ element, (∀ inner ∈ itemsOf element "deviceList" "device", motive inner) →
      motive element) (element : Element) : motive element :=
  step element fun inner _ => induction_inside step inner
termination_by sizeOf element.children
decreasing_by exact sizeOf_lt_of_mem_itemsOf ‹_›

/-- A device element and those inside it, each before what is inside it. -/
def deviceElements (element : Element) : List Element :=
  element :: (itemsOf element "deviceList" "device").attach.flatMap fun inner =>
    deviceElements inner.1
termination_by sizeOf element.children
decreasing_by exact sizeOf_lt_of_mem_itemsOf inner.2

/-- Behind a device element come those of its devices, one after the other. -/
theorem deviceElements_eq (element : Element) :
    deviceElements element =
      element :: (itemsOf element "deviceList" "device").flatMap deviceElements := by
  rw [deviceElements]
  simp

/-- The places of devices in a list are told apart by their first two steps. -/
theorem append_lt_append_of_item {place place' : List Nat} {i j i' j' : Nat} (h : place = [i, j])
    (h' : place' = [i', j']) (hlt : place < place') (rest rest' : List Nat) :
    place ++ rest < place' ++ rest' := by
  subst h h'
  simp only [List.cons_lt_cons_iff, List.not_lt_nil, and_false, or_false] at hlt
  simp only [List.cons_append, List.nil_append, List.cons_lt_cons_iff]
  tauto

/-- The device elements are listed in the order of the document. -/
theorem lists_deviceElements (element : Element) :
    Lists (Inside element) (deviceElements element) := by
  induction element using induction_inside with
  | step element ih =>
    have hbelow := (lists_itemsOf element "deviceList" "device").flatMap (· ++ ·) ih
      (fun ⟨_, _, hplace, _⟩ ⟨_, _, hplace', _⟩ => append_lt_append_of_item hplace hplace')
      (fun place {_ _} hlt => List.append_left_lt hlt)
    rw [deviceElements_eq]
    refine (hbelow.cons [] element ?_).congr fun place found => ?_
    · rintro _ found ⟨_, inner, rest, rfl, ⟨i, j, rfl, _⟩, _⟩
      exact List.nil_lt_cons _ _
    · constructor
      · rintro (⟨rfl, rfl⟩ | ⟨_, inner, rest, rfl, ⟨i, j, rfl, hitem⟩, h⟩)
        · exact .self _
        · exact .step hitem h
      · intro h
        cases h with
        | self => exact .inl ⟨rfl, rfl⟩
        | step hitem h => exact .inr ⟨_, _, _, rfl, ⟨_, _, rfl, hitem⟩, h⟩

/-- The device elements of a description are listed in the order of the document. -/
theorem lists_devices {root : Element} (h : root.child? "device" = some outer) :
    Lists (DeviceAt root) (deviceElements outer) := by
  have hlists := (root.lists_child? "device").flatMap List.cons
    (fun device _ => lists_deviceElements device)
    (fun _ _ hlt rest rest' => List.cons_lt_cons_iff.2 (.inl hlt))
    (fun i {_ _} hlt => List.cons_lt_cons_iff.2 (.inr ⟨rfl, hlt⟩))
  rw [h, Option.toList_some, List.flatMap_singleton] at hlists
  exact hlists

/-! ## Reading -/

/-- The devices among the children of a list are read one after the other. -/
theorem devicesListed_eq (nodes : List Node) :
    devicesListed nodes =
      ((nodes.filterMap Node.element?).filter (·.name == "device")).mapM Device.ofElement := by
  -- The reader goes on to the next node after each, whether it is a device or not.
  induction nodes with
  | nil =>
    rw [devicesListed]
    rfl
  | cons node rest ih =>
    cases node with
    | element tag children =>
      have helement : (Node.element tag children).element? = some ⟨tag, children⟩ := rfl
      have hname : (Element.mk tag children).name = tag.name := rfl
      rw [List.filterMap_cons_some helement, devicesListed, ih]
      by_cases htag : tag.name = "device"
      · rw [if_pos htag, List.filter_cons_of_pos (by simp [hname, htag]), mapM_cons_eq,
          Device.ofElement]
        cases Details.ofElement ⟨tag, children⟩ with
        | error error => rfl
        | ok details => cases devicesInside children <;> rfl
      · rw [if_neg htag, List.filter_cons_of_neg (by simp [hname, htag])]
    | _ =>
      rw [devicesListed]
      · exact ih
      · rintro tag children ⟨⟩

/-- Of several lists of devices the first one is read. -/
theorem devicesInside_eq (nodes : List Node) :
    devicesInside nodes =
      match (nodes.filterMap Node.element?).find? (·.name == "deviceList") with
      | some list => devicesListed list.children
      | none => .ok [] := by
  induction nodes with
  | nil =>
    rw [devicesInside]
    rfl
  | cons node rest ih =>
    cases node with
    | element tag children =>
      have helement : (Node.element tag children).element? = some ⟨tag, children⟩ := rfl
      have hname : (Element.mk tag children).name = tag.name := rfl
      rw [List.filterMap_cons_some helement, devicesInside]
      by_cases htag : tag.name = "deviceList"
      · rw [if_pos htag, List.find?_cons_of_pos (by simp [hname, htag])]
      · rw [if_neg htag, List.find?_cons_of_neg (by simp [hname, htag]), ih]
    | _ =>
      rw [devicesInside]
      · exact ih
      · rintro tag children ⟨⟩

/-- The devices inside a device are read one after the other, as the device itself is. -/
theorem devicesInside_children (element : Element) :
    devicesInside element.children =
      (itemsOf element "deviceList" "device").mapM Device.ofElement := by
  have hlist : element.child? "deviceList" =
      (element.children.filterMap Node.element?).find? (·.name == "deviceList") := List.head?_filter
  rw [devicesInside_eq, ← hlist, itemsOf]
  cases element.child? "deviceList" with
  | none => rfl
  | some list => exact devicesListed_eq list.children

/-- Reading a device reads its device elements one after the other, and a walk through the device gives
what they say of themselves. -/
theorem map_visited_ofElement (element : Element) :
    (Device.ofElement element).map Device.visited =
      (deviceElements element).mapM Details.ofElement := by
  induction element using induction_inside with
  | step element ih =>
    have hvisited : Device.visitedAll = (·.flatMap Device.visited) :=
      funext Device.visitedAll_eq_flatMap
    rw [deviceElements_eq, mapM_cons_eq, ← mapM_flatMap_eq ih, ← devicesInside_children, ← hvisited,
      Device.ofElement]
    cases Details.ofElement element with
    | error error => rfl
    | ok details => cases devicesInside element.children <;> rfl

/-- A device can be read if each of its device elements can. -/
theorem exists_ofElement_eq_ok_iff :
    (∃ device, Device.ofElement element = .ok device) ↔
      ∀ found ∈ deviceElements element, ∃ details, Details.ofElement found = .ok details := by
  rw [← exists_mapM_eq_ok_iff, ← map_visited_ofElement, exists_map_eq_ok_iff]

/-- A walk through a device that was read meets its device elements in their order. -/
theorem visited_of_ofElement {device : Device} (h : Device.ofElement element = .ok device) :
    List.Forall₂ (fun found details => Details.ofElement found = .ok details)
      (deviceElements element) device.visited := by
  rw [← mapM_eq_ok_iff, ← map_visited_ofElement, h]
  rfl

end NatGateway.Description
