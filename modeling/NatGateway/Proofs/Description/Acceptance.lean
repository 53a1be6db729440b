import NatGateway.Proofs.Description.Elements
import NatGateway.Proofs.Description.Root
import NatGateway.Proofs.Text.Integer

/-!
# Descriptions that are accepted

What a document must be to be read as a description. Only a few texts in it can be wrong: the numbers of
the version and of the icons, and the base if it names one. As in all look-ups the first child of a name
counts, and a number may be absent or blank. The conditions reach every device at any depth, and a
document that breaks one of them gives no root at all; whether it is accepted does not depend on the
address that it was found at.
-/

namespace NatGateway.Description

open NatGateway.Text (Bytes)
open NatGateway.Xml (Element)

/-- The plain text of an element: its texts and CDATA sections, joined. -/
def plainText (element : Element) : String := element.text?.getD ""

/-- Whether a text can be the value of a number: it is blank, or without the blank characters at its ends
it stands for a number of 32 bits, perhaps with a sign. -/
def IsNumberText (text : String) : Prop :=
  Text.isBlankText text = true ∨
    ∃ value, Text.StandsFor true (Text.trim text).toList value ∧ Text.IntegerType.i32.Holds value

/-- Whether a number can be read from a field: the field is absent, or its text can be a number. -/
def HasNumber (element : Element) (name : String) : Prop :=
  ∀ i field, element.IsFirstNamed name i field → IsNumberText (plainText field)

/-- Whether an icon can be read: its width, its height and its depth can be. -/
structure IsIcon (icon : Element) : Prop where
  width : HasNumber icon "width"
  height : HasNumber icon "height"
  depth : HasNumber icon "depth"

/-- Whether the root of a document is a description: it has the name of one and a device, and the version,
the icons of all devices inside it and the base can be read. -/
structure IsDescription (root : Element) : Prop where
  name : root.name = "root"
  device : ∃ i device, root.IsFirstNamed "device" i device
  version : ∀ i version, root.IsFirstNamed "specVersion" i version →
    HasNumber version "major" ∧ HasNumber version "minor"
  icons : ∀ place device, DeviceAt root place device →
    ∀ i j icon, ItemAt device "iconList" "icon" i j icon → IsIcon icon
  base : ∀ i named, root.IsFirstNamed "URLBase" i named →
    Text.isBlankText (plainText named) = true ∨ ∃ base, Url.ofText (Text.trim (plainText named)) = .ok base

variable {element root : Element} {name : String}

/-! ## Fields -/

/-- The text of a field is that of the first child of its name, without the blank characters at its
ends. -/
theorem textOf_eq (element : Element) (name : String) :
    element.textOf name = ((element.child? name).map fun field => Text.trim (plainText field)).getD "" := by
  rw [Element.textOf]
  cases element.child? name with
  | none => rfl
  | some field =>
    rw [Option.bind_some, Option.map_some, Option.getD_some, plainText]
    cases field.text? <;> rfl

/-- What holds of the text of a field, if it holds of the empty text, holds of the first child of its name,
if there is one. -/
theorem textOf_iff {holds : String → Prop} (h : holds "") :
    holds (element.textOf name) ↔
      ∀ i field, element.IsFirstNamed name i field → holds (Text.trim (plainText field)) := by
  rw [Element.forall_isFirstNamed_iff, textOf_eq]
  cases element.child? name <;> simp [h]

/-- A text without blank characters at its ends is read as a number if it is empty or stands for one. -/
theorem exists_number_iff {text : String} :
    (∃ value, (if text.isEmpty = true then .ok 0
      else match Text.IntegerType.i32.read text.toList with
        | .ok value => .ok value
        | .error _ => .error (DescriptionError.invalidValue name text)) = Except.ok value) ↔
      text = "" ∨ ∃ value, Text.StandsFor true text.toList value ∧ Text.IntegerType.i32.Holds value := by
  have hread : ∀ value, Text.StandsFor true text.toList value ∧ Text.IntegerType.i32.Holds value ↔
      Text.IntegerType.i32.read text.toList = .ok value := fun value =>
    (@Text.IntegerType.read_eq_ok_iff text.toList .i32 value).symm
  simp only [hread]
  split
  · next hempty => exact iff_of_true ⟨0, rfl⟩ (.inl (String.isEmpty_iff.1 hempty))
  · next hnot =>
    rw [or_iff_right (mt String.isEmpty_iff.2 hnot)]
    cases Text.IntegerType.i32.read text.toList <;> simp

/-- A number is read from a field exactly if the field is absent or its text can be a number. -/
theorem exists_numberOf_eq_ok_iff :
    (∃ value, numberOf element name = .ok value) ↔ HasNumber element name := by
  have hfield := @textOf_iff element name (fun text => text = "" ∨ ∃ value,
    Text.StandsFor true text.toList value ∧ Text.IntegerType.i32.Holds value) (.inl rfl)
  simp only [Text.trim_eq_empty_iff] at hfield
  exact exists_number_iff.trans hfield

/-- An icon is read exactly if its three numbers can be. -/
theorem exists_icon_eq_ok_iff :
    (∃ icon, Icon.ofElement element = .ok icon) ↔ IsIcon element := by
  rw [Icon.ofElement, exists_bind_eq_ok_iff fun width =>
    exists_bind_eq_ok_iff fun height => exists_map_eq_ok_iff]
  simp only [exists_numberOf_eq_ok_iff]
  exact ⟨fun ⟨width, height, depth⟩ => ⟨width, height, depth⟩,
    fun h => ⟨h.width, h.height, h.depth⟩⟩

/-- What a device says of itself is read exactly if each of its icons can be. -/
theorem exists_details_eq_ok_iff :
    (∃ details, Details.ofElement element = .ok details) ↔
      ∀ i j icon, ItemAt element "iconList" "icon" i j icon → IsIcon icon := by
  rw [Details.ofElement, exists_map_eq_ok_iff, exists_mapM_eq_ok_iff]
  simp only [exists_icon_eq_ok_iff, mem_itemsOf_iff, forall_exists_index]
  exact ⟨fun h i j icon => h icon i j, fun h icon i j => h i j icon⟩

/-- A version is read exactly if its two numbers can be, where there is one. -/
theorem exists_version_eq_ok_iff :
    (∃ version, SpecVersion.ofElement root = .ok version) ↔
      ∀ i version, root.IsFirstNamed "specVersion" i version →
        HasNumber version "major" ∧ HasNumber version "minor" := by
  rw [Element.forall_isFirstNamed_iff, SpecVersion.ofElement]
  cases root.child? "specVersion" with
  | none => simp
  | some version =>
    simp only [Option.mem_some_iff, forall_eq']
    rw [exists_bind_eq_ok_iff fun major => exists_map_eq_ok_iff, exists_numberOf_eq_ok_iff,
      exists_numberOf_eq_ok_iff]

/-- There is a base exactly if none is named or what is named is a URL. -/
theorem exists_base_iff {location : Url} :
    (∃ base, if root.textOf "URLBase" = "" then base = location
      else Url.ofText (root.textOf "URLBase") = .ok base) ↔
      ∀ i named, root.IsFirstNamed "URLBase" i named → Text.isBlankText (plainText named) = true ∨
        ∃ base, Url.ofText (Text.trim (plainText named)) = .ok base := by
  have hfield := @textOf_iff root "URLBase" (fun text => text = "" ∨ ∃ base, Url.ofText text = .ok base)
    (.inl rfl)
  simp only [Text.trim_eq_empty_iff] at hfield
  rw [← hfield]
  split
  · next hempty => exact iff_of_true ⟨location, rfl⟩ (.inl hempty)
  · next hnamed => exact (or_iff_right hnamed).symm

/-- The device of a root is read exactly if the icons of all device elements can be. -/
theorem exists_device_iff {outer : Element} (h : root.child? "device" = some outer) :
    (∃ device, Device.ofElement outer = .ok device) ↔
      ∀ place device, DeviceAt root place device →
        ∀ i j icon, ItemAt device "iconList" "icon" i j icon → IsIcon icon := by
  rw [exists_ofElement_eq_ok_iff]
  simp only [(lists_devices h).mem_iff, exists_details_eq_ok_iff, forall_exists_index]
  exact forall_comm

/-- A document has a root of a name exactly if it is well formed and its root has that name. -/
theorem rootOf_eq_ok_iff {bytes : Bytes} :
    rootOf name bytes = .ok root ↔ Element.ofBytes? bytes = some root ∧ root.name = name := by
  rw [rootOf]
  cases Element.ofBytes? bytes with
  | none => simp
  | some found =>
    simp only [Option.some.injEq]
    split
    · next hname => exact ⟨fun h => Except.ok.inj h ▸ ⟨rfl, hname⟩, fun h => congrArg Except.ok h.1⟩
    · next hname =>
      constructor
      · intro h
        cases h
      · rintro ⟨rfl, hroot⟩
        exact absurd hroot hname

/-- A document is accepted as a description, wherever it was found, exactly if it is well formed and its
root is a description. -/
theorem accepts_iff_isDescription (bytes : Bytes) (location : Url) :
    (∃ description, Root.ofBytes bytes location = .ok description) ↔
      ∃ root, Element.ofBytes? bytes = some root ∧ IsDescription root := by
  constructor
  · rintro ⟨_, h⟩
    obtain ⟨version, device, base, ⟨root, outer, hread, hversion, houter, hdevice, hbase⟩, rfl⟩ :=
      Root.ofBytes_eq_ok_iff.1 h
    obtain ⟨hwellFormed, hname⟩ := rootOf_eq_ok_iff.1 hread
    obtain ⟨i, hfirst⟩ := Element.child?_eq_some_iff.1 houter
    exact ⟨root, hwellFormed,
      { name := hname
        device := ⟨i, outer, hfirst⟩
        version := exists_version_eq_ok_iff.1 ⟨version, hversion⟩
        icons := (exists_device_iff houter).1 ⟨device, hdevice⟩
        base := exists_base_iff.1 ⟨base, hbase⟩ }⟩
  · rintro ⟨root, hwellFormed, h⟩
    obtain ⟨i, outer, hfirst⟩ := h.device
    have houter : root.child? "device" = some outer := Element.child?_eq_some_iff.2 ⟨i, hfirst⟩
    obtain ⟨version, hversion⟩ := exists_version_eq_ok_iff.2 h.version
    obtain ⟨device, hdevice⟩ := (exists_device_iff houter).2 h.icons
    obtain ⟨base, hbase⟩ := (@exists_base_iff _ location).2 h.base
    exact ⟨_, Root.ofBytes_eq_ok_iff.2 ⟨version, device, base,
      ⟨root, outer, rootOf_eq_ok_iff.2 ⟨hwellFormed, h.name⟩, hversion, houter, hdevice, hbase⟩, rfl⟩⟩

end NatGateway.Description
