import NatGateway.Description.Root
import NatGateway.Description.Scpd
import NatGateway.Proofs.Description.Elements
import NatGateway.Proofs.Soap.Comments
import NatGateway.Proofs.Soap.Faults

/-!
# Comments in a description

Descriptions and answers are read from the tree of a document, and comments in the tree never matter:
leaving out any of them changes neither what is read nor why nothing is. Every field goes by the
look-ups of its element, which do not see comments, and lists are read item by item, so the same holds
of what is made of them, at any depth.
-/

namespace NatGateway.Description

open NatGateway.Soap (Envelope)
open NatGateway.Text (Bytes)
open NatGateway.Xml (Element Node bareNodes)

/-! ## From the tree of a document -/

/-- Pass on the root of a document if it has a name. -/
def rootNamed (name : String) (root : Element) : Except DescriptionError Element :=
  if root.name = name then .ok root else .error (.unexpectedRoot name root.name)

/-- Read the root of a document as a description that was found at an address. -/
def Root.ofElement (root : Element) (location : Url) : Except DescriptionError Root :=
  (rootNamed "root" root).bind fun root =>
    (SpecVersion.ofElement root).bind fun version =>
      match root.child? "device" with
      | none => .error (.missingElement "device")
      | some inner =>
          (Device.ofElement inner).bind fun device =>
            let named := root.textOf "URLBase"
            (Root.baseOf named location).map fun base =>
              Root.rebase ⟨version, base, named, device⟩ base

/-- Read the root of a document as the description of a service. -/
def Scpd.ofElement (root : Element) : Except DescriptionError Scpd :=
  (rootNamed "scpd" root).bind fun root =>
    (SpecVersion.ofElement root).bind fun version =>
      ((itemsOf root "actionList" "action").mapM ScpdAction.ofElement).map fun actions =>
        ⟨version, actions,
          (itemsOf root "serviceStateTable" "stateVariable").map StateVariable.ofElement⟩

variable {bytes : Bytes} {element kept : Element}

/-- Of a document that is well formed the root is passed on if it has the name. -/
theorem rootOf_of_ofBytes? (name : String) (h : Element.ofBytes? bytes = some element) :
    rootOf name bytes = rootNamed name element := by
  rw [rootOf, h]
  rfl

/-- A description is read from the tree of its document. -/
theorem Root.ofBytes_eq_ofElement (h : Element.ofBytes? bytes = some element) (location : Url) :
    Root.ofBytes bytes location = Root.ofElement element location := by
  rw [Root.ofBytes, Root.ofElement]
  exact congrArg (Except.bind · _) (rootOf_of_ofBytes? "root" h)

/-- The description of a service is read from the tree of its document. -/
theorem Scpd.ofBytes_eq_ofElement (h : Element.ofBytes? bytes = some element) :
    Scpd.ofBytes bytes = Scpd.ofElement element := by
  rw [Scpd.ofBytes, Scpd.ofElement, rootOf_of_ofBytes? "scpd" h]

/-- An envelope is decoded from the tree of its document. -/
theorem decode_eq_ofElement (h : Element.ofBytes? bytes = some element) :
    Envelope.decode bytes = Envelope.ofElement element := by
  have hblank : ¬ bytes.all Envelope.isBlankByte = true := fun hblank => by
    rw [Soap.ofBytes?_of_blank hblank] at h
    cases h
  rw [Envelope.decode, if_neg hblank, h]

/-! ## Fields and lists -/

variable (element)

/-- The root of a document has its name without comments too. -/
theorem rootNamed_bare (name : String) :
    rootNamed name element.bare = (rootNamed name element).map Element.bare := by
  rw [rootNamed, rootNamed, Element.bare_name]
  split <;> rfl

/-- The items of a list are found without comments. -/
@[simp] theorem itemsOf_bare (list item : String) :
    itemsOf element.bare list item = (itemsOf element list item).map Element.bare := by
  rw [itemsOf, itemsOf, Element.bare_child?]
  cases element.child? list with
  | none => rfl
  | some found => exact found.bare_named item

/-- A number is the same without comments. -/
@[simp] theorem numberOf_bare (name : String) : numberOf element.bare name = numberOf element name := by
  rw [numberOf, numberOf, Element.bare_textOf]

/-- A reference is the same without comments. -/
@[simp] theorem referenceOf_bare (name : String) :
    referenceOf element.bare name = referenceOf element name := by
  rw [referenceOf, referenceOf, Element.bare_textOf]

/-- A version is the same without comments. -/
@[simp] theorem SpecVersion.ofElement_bare :
    SpecVersion.ofElement element.bare = SpecVersion.ofElement element := by
  rw [SpecVersion.ofElement, SpecVersion.ofElement, Element.bare_child?]
  cases element.child? "specVersion" with
  | none => rfl
  | some version => simp only [Option.map_some, numberOf_bare]

/-- What is read item by item is the same without comments if each item is. -/
theorem mapM_map_bare {α : Type} {read : Element → Except DescriptionError α}
    {elements : List Element} (h : ∀ element ∈ elements, read element.bare = read element) :
    (elements.map Element.bare).mapM read = elements.mapM read := by
  induction elements with
  | nil => rfl
  | cons first rest ih =>
    obtain ⟨hfirst, hrest⟩ := List.forall_mem_cons.1 h
    rw [List.map_cons, mapM_cons_eq, mapM_cons_eq, hfirst, ih hrest]

/-- What is made of each item of a list is the same without comments if it is for each item. -/
theorem map_map_bare {α : Type} {make : Element → α} (h : ∀ element, make element.bare = make element)
    (elements : List Element) : (elements.map Element.bare).map make = elements.map make := by
  rw [List.map_map]
  exact List.map_congr_left fun element _ => h element

/-! ## Devices -/

/-- An icon is the same without comments. -/
theorem Icon.ofElement_bare : Icon.ofElement element.bare = Icon.ofElement element := by
  simp only [Icon.ofElement, numberOf_bare, Element.bare_textOf, referenceOf_bare]

/-- A service is the same without comments. -/
theorem Service.ofElement_bare : Service.ofElement element.bare = Service.ofElement element := by
  simp only [Service.ofElement, Element.bare_textOf, referenceOf_bare]

/-- What a device says of itself is the same without comments. -/
theorem Details.ofElement_bare : Details.ofElement element.bare = Details.ofElement element := by
  have hicons : ((itemsOf element "iconList" "icon").map Element.bare).mapM Icon.ofElement =
      (itemsOf element "iconList" "icon").mapM Icon.ofElement :=
    mapM_map_bare fun icon _ => Icon.ofElement_bare icon
  simp only [Details.ofElement, itemsOf_bare, hicons, map_map_bare Service.ofElement_bare,
    Element.bare_textOf, referenceOf_bare]

/-- A device is the same without comments, with all devices inside it. -/
theorem Device.ofElement_bare : Device.ofElement element.bare = Device.ofElement element := by
  -- The devices of the list are smaller, so each of them is the same already.
  induction element using induction_inside with
  | step element ih =>
    have hinside : devicesInside element.bare.children = devicesInside element.children := by
      rw [devicesInside_children, devicesInside_children, itemsOf_bare, mapM_map_bare ih]
    rw [Device.ofElement, Device.ofElement, Details.ofElement_bare, hinside]

/-- A description is the same without comments. -/
theorem Root.ofElement_bare (location : Url) :
    Root.ofElement element.bare location = Root.ofElement element location := by
  rw [Root.ofElement, Root.ofElement, rootNamed_bare]
  cases rootNamed "root" element with
  | error error => rfl
  | ok root =>
    simp only [Except.map, Except.bind, SpecVersion.ofElement_bare, Element.bare_child?, Element.bare_textOf]
    cases root.child? "device" with
    | none => rfl
    | some inner => simp only [Option.map_some, Device.ofElement_bare]

/-! ## Services -/

/-- An argument of an action is the same without comments. -/
theorem Argument.ofElement_bare : Argument.ofElement element.bare = Argument.ofElement element := by
  simp only [Argument.ofElement, Element.bare_textOf]

/-- An action is the same without comments. -/
theorem ScpdAction.ofElement_bare :
    ScpdAction.ofElement element.bare = ScpdAction.ofElement element := by
  have harguments : ((itemsOf element "argumentList" "argument").map Element.bare).mapM
      Argument.ofElement = (itemsOf element "argumentList" "argument").mapM Argument.ofElement :=
    mapM_map_bare fun argument _ => Argument.ofElement_bare argument
  simp only [ScpdAction.ofElement, itemsOf_bare, harguments, Element.bare_textOf]

/-- A state variable is the same without comments. -/
theorem StateVariable.ofElement_bare :
    StateVariable.ofElement element.bare = StateVariable.ofElement element := by
  have hdefault : ((element.child? "defaultValue").map Element.bare).map
      (fun _ => element.textOf "defaultValue") =
        (element.child? "defaultValue").map fun _ => element.textOf "defaultValue" :=
    Option.map_map _ _ _
  have hallowed : ((itemsOf element "allowedValueList" "allowedValue").map Element.bare).filterMap
      (·.text?) = (itemsOf element "allowedValueList" "allowedValue").filterMap (·.text?) := by
    rw [List.filterMap_map]
    exact List.filterMap_congr fun value _ => value.bare_text?
  simp only [StateVariable.ofElement, Element.bare_textOf, Element.bare_attribute?,
    Element.bare_child?, itemsOf_bare, hdefault, hallowed]

/-- The description of a service is the same without comments. -/
theorem Scpd.ofElement_bare : Scpd.ofElement element.bare = Scpd.ofElement element := by
  rw [Scpd.ofElement, Scpd.ofElement, rootNamed_bare]
  cases rootNamed "scpd" element with
  | error error => rfl
  | ok root =>
    have hactions : ((itemsOf root "actionList" "action").map Element.bare).mapM ScpdAction.ofElement =
        (itemsOf root "actionList" "action").mapM ScpdAction.ofElement :=
      mapM_map_bare fun action _ => ScpdAction.ofElement_bare action
    simp only [Except.map, Except.bind, SpecVersion.ofElement_bare, itemsOf_bare, hactions,
      map_map_bare StateVariable.ofElement_bare]

/-! ## All readings -/

/-- Comments never matter. If any comments are left out of a tree, at any depth, what an envelope
answers, what a description says and what the description of a service says stay the same, and so does
the failure where there is one. So nothing changes against the document that the tree was read from. -/
theorem readings_of_uncommented {element kept : Element} (h : element.Uncommented kept)
    (location : Url) :
    (Envelope.ofElement kept).bind Envelope.result =
        (Envelope.ofElement element).bind Envelope.result ∧
      Root.ofElement kept location = Root.ofElement element location ∧
      Scpd.ofElement kept = Scpd.ofElement element ∧
      ∀ bytes, Element.ofBytes? bytes = some element →
        (Envelope.ofElement kept).bind Envelope.result =
            (Envelope.decode bytes).bind Envelope.result ∧
          Root.ofElement kept location = Root.ofBytes bytes location ∧
          Scpd.ofElement kept = Scpd.ofBytes bytes := by
  have hanswer : (Envelope.ofElement kept).bind Envelope.result =
      (Envelope.ofElement element).bind Envelope.result :=
    h.congr (fun root => (Envelope.ofElement root).bind Envelope.result)
      Soap.Envelope.result_ofElement_bare
  have hroot : Root.ofElement kept location = Root.ofElement element location :=
    h.congr (Root.ofElement · location) fun root => Root.ofElement_bare root location
  have hscpd : Scpd.ofElement kept = Scpd.ofElement element :=
    h.congr Scpd.ofElement Scpd.ofElement_bare
  refine ⟨hanswer, hroot, hscpd, fun bytes hbytes => ⟨?_, ?_, ?_⟩⟩
  · rw [hanswer, decode_eq_ofElement hbytes]
  · rw [hroot, Root.ofBytes_eq_ofElement hbytes]
  · rw [hscpd, Scpd.ofBytes_eq_ofElement hbytes]

/-- Comments that stand between elements and in the middle of a port, of a number, of an address and of
a direction. -/
theorem readings_of_uncommented_parted :
    let parted (between : List Node) (name first second : String) : Node :=
      .element ⟨name, none, none, []⟩ (.text first :: between ++ [.text second])
    let branch (name : String) (children : List Node) : Node :=
      .element ⟨name, none, none, []⟩ children
    let children (between : List Node) : List Node := between ++
      [branch "Body" [branch "Act" [parted between "NewPort" "80" "80"]],
        branch "specVersion" [parted between "major" "1" "0"],
        branch "device" [branch "serviceList" [branch "service" [parted between "controlURL" "/c" "tl"]]],
        branch "actionList" [branch "action"
          [branch "argumentList" [branch "argument" [parted between "direction" "i" "n"]]]]]
    let document (name : String) (between : List Node) : Element :=
      ⟨⟨name, none, none, []⟩, children between⟩
    let server : Url :=
      ⟨"http", some ⟨"", "", some (.ipv4 (.ofOctets 10 1 1 1)), none⟩, .segments ["d"], none, none⟩
    (∀ name, (document name [.comment "-"]).Uncommented (document name [])) ∧
      (Envelope.ofElement (document "Envelope" [.comment "-"])).bind Envelope.result =
        .ok (some ⟨"Act", none, [("NewPort", "8080")]⟩) ∧
      ((Root.ofElement (document "root" [.comment "-"]) server).map fun root =>
        (root.version, root.device.services.map (·.control.url))) =
          .ok (⟨10, 0⟩, [some { server with path := .segments ["ctl"] }]) ∧
      Scpd.ofElement (document "scpd" [.comment "-"]) =
        .ok ⟨⟨10, 0⟩, [⟨"", [⟨"", .input, ""⟩]⟩], []⟩ := by
  intro parted branch children document server
  have hparted : ∀ name first second,
      Xml.Uncommented [parted [.comment "-"] name first second] [parted [] name first second] :=
    fun name first second => .inside _ (.keep _ (.drop "-" (.keep _ .nil))) .nil
  have huncommented : ∀ name, (document name [.comment "-"]).Uncommented (document name []) := by
    intro name
    refine ⟨rfl, .drop "-" (.inside _ (.inside _ (hparted _ _ _) .nil) ?_)⟩
    refine .inside _ (hparted _ _ _) (.inside _ (.inside _ (.inside _ (hparted _ _ _) .nil) .nil) ?_)
    exact .inside _ (.inside _ (.inside _ (.inside _ (hparted _ _ _) .nil) .nil) .nil) .nil
  refine ⟨huncommented, ?_, ?_, ?_⟩
  · rw [← (readings_of_uncommented (huncommented "Envelope") server).1]
    rfl
  · rw [← (readings_of_uncommented (huncommented "root") server).2.1]
    decide +kernel
  · rw [← (readings_of_uncommented (huncommented "scpd") server).2.2.1]
    decide +kernel

end NatGateway.Description
