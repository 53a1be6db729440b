import NatGateway.Description.Root
import NatGateway.Proofs.Description.Elements

/-!
# Failures of reading

What can go wrong while a description is read is in the document: it is not well formed, its root is
another one, or an element is missing or has a value that cannot be read. Reading is never cancelled and
reports no failure of an exchange.
-/

namespace NatGateway.Description

open NatGateway.Xml (Element)

/-- The failures of reading a document. -/
inductive IsReadFailure : DescriptionError → Prop
  | malformed : IsReadFailure .malformed
  | unexpectedRoot (expected found : String) : IsReadFailure (.unexpectedRoot expected found)
  | missingElement (name : String) : IsReadFailure (.missingElement name)
  | invalidUrl (text : String) (cause : Url.UrlError) : IsReadFailure (.invalidUrl text cause)
  | invalidValue (element value : String) : IsReadFailure (.invalidValue element value)

/-- Whether a result is no failure but one of reading. -/
def IsReading {α : Type} (result : Except DescriptionError α) : Prop :=
  ∀ error, result = .error error → IsReadFailure error

/-! ## Steps -/

section

variable {α β : Type}

/-- A value is no failure. -/
theorem isReading_ok (value : α) : IsReading (.ok value) := nofun

/-- A failure of reading is one. -/
theorem isReading_error {error : DescriptionError} (h : IsReadFailure error) :
    IsReading (.error error : Except DescriptionError α) := by
  rintro _ ⟨⟩
  exact h

/-- Two steps of reading are one. -/
theorem IsReading.bind {first : Except DescriptionError α} {next : α → Except DescriptionError β}
    (hfirst : IsReading first) (hnext : ∀ value, IsReading (next value)) :
    IsReading (first.bind next) := by
  cases first with
  | error error => exact isReading_error (hfirst error rfl)
  | ok value => exact hnext value

/-- What is read may be changed. -/
theorem IsReading.map {first : Except DescriptionError α} (hfirst : IsReading first)
    (change : α → β) : IsReading (first.map change) := by
  cases first with
  | error error => exact isReading_error (hfirst error rfl)
  | ok value => exact isReading_ok (change value)

/-- Steps of reading along a list are one. -/
theorem isReading_mapM {step : α → Except DescriptionError β} {list : List α}
    (h : ∀ item ∈ list, IsReading (step item)) : IsReading (list.mapM step) := by
  induction list with
  | nil => exact isReading_ok []
  | cons item rest ih =>
    obtain ⟨hitem, hrest⟩ := List.forall_mem_cons.1 h
    rw [mapM_cons_eq]
    exact hitem.bind fun _ => (ih hrest).map _

end

/-! ## Descriptions -/

/-- A number may have a value that cannot be read. -/
theorem isReading_numberOf (element : Element) (name : String) :
    IsReading (numberOf element name) := by
  rw [numberOf]
  split
  · exact isReading_ok 0
  · split
    · exact isReading_ok _
    · exact isReading_error (.invalidValue _ _)

/-- The version of the specification is made of numbers. -/
theorem SpecVersion.isReading_ofElement (root : Element) :
    IsReading (SpecVersion.ofElement root) := by
  rw [SpecVersion.ofElement]
  split
  · exact isReading_ok _
  · exact (isReading_numberOf _ _).bind fun _ => (isReading_numberOf _ _).map _

/-- The icons of a device are made of numbers. -/
theorem Details.isReading_ofElement (element : Element) : IsReading (Details.ofElement element) := by
  refine (isReading_mapM fun icon _ => ?_).map _
  exact (isReading_numberOf icon "width").bind fun _ =>
    (isReading_numberOf icon "height").bind fun _ => (isReading_numberOf icon "depth").map _

/-- A device is read with the devices inside it. -/
theorem Device.isReading_ofElement (element : Element) : IsReading (Device.ofElement element) := by
  -- The induction is on the elements of devices, which stand in those of other devices.
  induction element using induction_inside with
  | step element ih =>
    rw [Device.ofElement, devicesInside_children]
    exact (Details.isReading_ofElement element).bind fun _ => (isReading_mapM ih).map _

/-- A document may be malformed, or have another root. -/
theorem isReading_rootOf (name : String) (bytes : Text.Bytes) : IsReading (rootOf name bytes) := by
  rw [rootOf]
  split
  · exact isReading_error .malformed
  · split
    · exact isReading_ok _
    · exact isReading_error (.unexpectedRoot _ _)

/-- The base may be no URL. -/
theorem Root.isReading_baseOf (named : String) (location : Url) :
    IsReading (Root.baseOf named location) := by
  rw [Root.baseOf]
  split
  · exact isReading_ok location
  · split
    · exact isReading_ok _
    · exact isReading_error (.invalidUrl _ _)

/-- Whatever the bytes of a description are, only reading can fail. -/
theorem Root.isReading_ofBytes (bytes : Text.Bytes) (location : Url) :
    IsReading (Root.ofBytes bytes location) := by
  refine (isReading_rootOf "root" bytes).bind fun element =>
    (SpecVersion.isReading_ofElement element).bind fun version => ?_
  split
  · exact isReading_error (.missingElement _)
  · exact (Device.isReading_ofElement _).bind fun device => (Root.isReading_baseOf _ _).map _

end NatGateway.Description
