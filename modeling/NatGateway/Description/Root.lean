import NatGateway.Description.Device

/-!
# Root devices

A whole description: the version of its specification, the base of its references and its device.
The base is the one it names, or the address it was found at.
-/

namespace NatGateway.Description

/-- A description of a root device. -/
structure Root where
  version : SpecVersion
  base : Url
  baseText : String
  device : Device

namespace Root

/-- Resolve all references against a new base. -/
def rebase (root : Root) (base : Url) : Root :=
  { root with base := base, baseText := base.text, device := root.device.rebase base }

/-- The base of a description: the one it names, or else its address. -/
def baseOf (named : String) (location : Url) : Except DescriptionError Url :=
  if named.isEmpty then .ok location
  else
    match Url.ofText named with
    | .ok base => .ok base
    | .error cause => .error (.invalidUrl named cause)

/-- Read a description that was found at an address. -/
def ofBytes (bytes : Text.Bytes) (location : Url) : Except DescriptionError Root :=
  (rootOf "root" bytes).bind fun element =>
    (SpecVersion.ofElement element).bind fun version =>
      match element.child? "device" with
      | none => .error (.missingElement "device")
      | some inner =>
          (Device.ofElement inner).bind fun device =>
            let named := element.textOf "URLBase"
            (baseOf named location).map fun base =>
              rebase ⟨version, base, named, device⟩ base

end Root

end NatGateway.Description
