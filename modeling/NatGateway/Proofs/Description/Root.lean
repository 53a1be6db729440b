import NatGateway.Description.Root
import NatGateway.Proofs.Description.Device
import NatGateway.Proofs.Result
import NatGateway.Proofs.Text.Blank
import NatGateway.Proofs.Xml.Trees

/-!
# Roots and their bases

What a root is after its base was changed any number of times. A change of the base resolves every
reference anew from its text, so nothing of an earlier base is left: each change settles the whole
tree against its own base, whatever it was settled against before. The texts of the references and
all that is no reference stay those of the description.
-/

namespace NatGateway.Description

open NatGateway.Text (Bytes utf8Bytes)
open NatGateway.Xml (Element Node Tree)

/-! ## References -/

namespace Reference

/-- What a reference is taken for: a text that names a scheme or starts with a slash is taken as it
is, and any other from the root of the server. -/
def target (raw : String) : String :=
  if Text.occursIn "://" (Text.trim raw) = true ∨ Text.beginsWith (Text.trim raw) "/" = true then
    Text.trim raw
  else "/" ++ Text.trim raw

/-- Whether a reference is resolved against a base: it has no URL if its text is blank, and otherwise
the one that its text denotes, if it denotes any. -/
structure IsResolved (base : Url) (reference : Reference) : Prop where
  blank : Text.isBlankText reference.raw = true → reference.url = none
  target : Text.isBlankText reference.raw = false → ∀ url,
    reference.url = some url ↔ base.join (target reference.raw) = .ok url

/-- A text that is not blank is resolved as what it is taken for. -/
theorem resolve?_eq (base : Url) (raw : String) :
    resolve? base raw =
      if Text.isBlankText raw = true then none else (base.join (target raw)).toOption := by
  rw [resolve?, Text.trim_isEmpty, target]
  cases Text.occursIn "://" (Text.trim raw) <;>
    cases Text.beginsWith (Text.trim raw) "/" <;> rfl

/-- Whether a reference is resolved depends on what its text is resolved to. -/
theorem isResolved_iff {base : Url} {reference : Reference} :
    reference.IsResolved base ↔ reference.url = resolve? base reference.raw := by
  rw [resolve?_eq]
  cases hblank : Text.isBlankText reference.raw with
  | true =>
    rw [if_pos rfl]
    exact ⟨fun h => h.blank hblank, fun h => ⟨fun _ => h, fun hnot => by rw [hblank] at hnot; cases hnot⟩⟩
  | false =>
    rw [if_neg Bool.false_ne_true]
    refine ⟨fun h => Option.ext fun url => ?_, fun h => ⟨fun hblank' => ?_, fun _ url => ?_⟩⟩
    · rw [h.target hblank, toOption_eq_some_iff]
    · rw [hblank] at hblank'
      cases hblank'
    · rw [h, toOption_eq_some_iff]

end Reference

/-! ## Roots -/

namespace Root

/-- What a description that was found at an address says before its references are resolved: the
version, the device, and the base that it names or else the address. -/
def Says (bytes : Bytes) (location : Url) (version : SpecVersion) (device : Device)
    (base : Url) : Prop :=
  ∃ element inner, rootOf "root" bytes = .ok element ∧ SpecVersion.ofElement element = .ok version ∧
    element.child? "device" = some inner ∧ Device.ofElement inner = .ok device ∧
    if element.textOf "URLBase" = "" then base = location
    else Url.ofText (element.textOf "URLBase") = .ok base

/-- Whether a root is that of a description with all references resolved against a base: the base and
its text are the root's own, every reference at any depth is resolved against it, and all the rest is
as the description says it. -/
structure IsSettled (saidVersion : SpecVersion) (saidDevice : Device) (base : Url) (root : Root) :
    Prop where
  version : root.version = saidVersion
  base : root.base = base
  baseText : root.baseText = root.base.text
  device : root.device.unresolved = saidDevice.unresolved
  references : ∀ reference ∈ root.device.references, reference.IsResolved root.base

variable {version : SpecVersion} {device : Device} {root : Root}

/-- A change of the base settles a root against the new base, whatever was known of the old one. -/
theorem isSettled_rebase (hversion : root.version = version)
    (hdevice : root.device.unresolved = device.unresolved) (base : Url) :
    IsSettled version device base (root.rebase base) := by
  refine ⟨hversion, rfl, rfl, (Device.unresolved_rebase base root.device).trans hdevice, ?_⟩
  intro reference hreference
  exact Reference.isResolved_iff.2 (Device.url_of_mem_references_rebase hreference)

/-- A settled root stays settled, against the last of the bases that it is given. -/
theorem IsSettled.foldl_rebase (bases : List Url) {base : Url} {root : Root}
    (h : IsSettled version device base root) :
    IsSettled version device (bases.getLast?.getD base) (bases.foldl rebase root) := by
  -- Every change replaces the base that the root is settled against.
  induction bases generalizing base root with
  | nil => exact h
  | cons next rest ih =>
    rw [List.foldl_cons, List.getLast?_cons, Option.getD_some]
    exact ih (isSettled_rebase h.version h.device next)

/-- Only the last base matters. -/
theorem rebase_rebase (root : Root) (first second : Url) :
    (root.rebase first).rebase second = root.rebase second := by
  simp only [rebase, Device.rebase_rebase]

/-- Changing the base several times is changing it once, to the last one. -/
theorem foldl_rebase (bases : List Url) (root : Root) :
    bases.foldl rebase root = bases.getLast?.elim root root.rebase := by
  induction bases generalizing root with
  | nil => rfl
  | cons next rest ih =>
    rw [List.foldl_cons, ih, List.getLast?_cons]
    cases rest.getLast? with
    | none => rfl
    | some last => exact rebase_rebase root next last

/-- The base of a description is the one it names, or its address if it names none. -/
theorem baseOf_eq_ok_iff {named : String} {location base : Url} :
    baseOf named location = .ok base ↔
      if named = "" then base = location else Url.ofText named = .ok base := by
  rw [baseOf]
  split
  · next hempty => rw [if_pos (String.isEmpty_iff.1 hempty), Except.ok.injEq, eq_comm]
  · next hnamed =>
    rw [if_neg (mt String.isEmpty_iff.2 hnamed)]
    cases Url.ofText named <;> simp

/-- A root is read as what its description says, with all references resolved against the base. -/
theorem ofBytes_eq_ok_iff {bytes : Bytes} {location : Url} :
    ofBytes bytes location = .ok root ↔ ∃ version device base,
      Says bytes location version device base ∧
        root = ⟨version, base, base.text, device.rebase base⟩ := by
  constructor
  · intro h
    obtain ⟨element, helement, h⟩ := bind_eq_ok_iff.1 h
    obtain ⟨version, hversion, h⟩ := bind_eq_ok_iff.1 h
    cases hinner : element.child? "device" with
    | none =>
      rw [hinner] at h
      cases h
    | some inner =>
      rw [hinner] at h
      obtain ⟨device, hdevice, h⟩ := bind_eq_ok_iff.1 h
      obtain ⟨base, hbase, rfl⟩ := map_eq_ok_iff.1 h
      exact ⟨version, device, base,
        ⟨element, inner, helement, hversion, hinner, hdevice, baseOf_eq_ok_iff.1 hbase⟩, rfl⟩
  · rintro ⟨version, device, base, ⟨element, inner, helement, hversion, hinner, hdevice, hbase⟩, rfl⟩
    refine bind_eq_ok_iff.2 ⟨element, helement, bind_eq_ok_iff.2 ⟨version, hversion, ?_⟩⟩
    rw [hinner]
    exact bind_eq_ok_iff.2 ⟨device, hdevice, map_eq_ok_iff.2 ⟨base, baseOf_eq_ok_iff.2 hbase, rfl⟩⟩

/-- A root that is read is settled against the base that it begins with. -/
theorem isSettled_ofBytes {bytes : Bytes} {location : Url} (h : ofBytes bytes location = .ok root) :
    ∃ version device base, Says bytes location version device base ∧
      IsSettled version device base root := by
  obtain ⟨version, device, base, hsays, rfl⟩ := ofBytes_eq_ok_iff.1 h
  exact ⟨version, device, base, hsays,
    @isSettled_rebase _ _ ⟨version, base, base.text, device⟩ rfl rfl base⟩

/-- A root whose base was changed any number of times after it was read is settled against the last
base, or against the one that it began with if there was no change; and only the last change
matters. -/
theorem rebased_ofBytes {bytes : Bytes} {location : Url} (h : ofBytes bytes location = .ok root)
    (bases : List Url) :
    (∃ version device base, Says bytes location version device base ∧
      IsSettled version device (bases.getLast?.getD base) (bases.foldl rebase root)) ∧
    bases.foldl rebase root = bases.getLast?.elim root root.rebase := by
  obtain ⟨version, device, base, hsays, hsettled⟩ := isSettled_ofBytes h
  exact ⟨⟨version, device, base, hsays, hsettled.foldl_rebase bases⟩, foldl_rebase bases root⟩

/-- A description that names a base and has a service is left resolved against the second of two new
bases. -/
theorem rebased_ofBytes_service :
    let device : List Tree := [.leaf "friendlyName" "box",
      .branch "serviceList" [.branch "service" [.leaf "controlURL" " ctl "]]]
    let trees : List Tree := [.leaf "URLBase" "http://10.1.1.1/base/", .branch "device" device]
    let bytes := utf8Bytes (Xml.writtenDeclaration ++ (Tree.branch "root" trees).written)
    let server (last : Nat) : Url :=
      ⟨"http", some ⟨"", "", some (.ipv4 (.ofOctets 10 1 1 last)), none⟩, .segments ["d"], none, none⟩
    ∃ root, ofBytes bytes (server 1) = .ok root ∧
      (∃ version device base, Says bytes (server 1) version device base ∧
        IsSettled version device (server 3) ([server 2, server 3].foldl rebase root)) ∧
      [server 2, server 3].foldl rebase root = root.rebase (server 3) := by
  intro device trees bytes server
  have helement : rootOf "root" bytes = .ok ⟨⟨"root", none, none, []⟩, Tree.nodes trees⟩ := by
    have hread : Element.ofBytes? bytes = some ⟨⟨"root", none, none, []⟩, Tree.nodes trees⟩ :=
      Tree.ofBytes?_written (by decide +kernel)
    rw [rootOf, hread]
    rfl
  have hdetails : ∃ details,
      Details.ofElement ⟨⟨"device", none, none, []⟩, Tree.nodes device⟩ = .ok details := ⟨_, rfl⟩
  have hinside : devicesInside (Tree.nodes device) = .ok [] := by
    simp [device, Tree.nodes, Xml.Tree.node, devicesInside, Xml.Content.textElementNode]
  have hdevice : ∃ read, Device.ofElement ⟨⟨"device", none, none, []⟩, Tree.nodes device⟩ = .ok read := by
    obtain ⟨details, hdetails⟩ := hdetails
    exact ⟨_, bind_eq_ok_iff.2 ⟨details, hdetails, map_eq_ok_iff.2 ⟨[], hinside, rfl⟩⟩⟩
  have hbase : ∃ base, baseOf "http://10.1.1.1/base/" (server 1) = .ok base := by
    have hread : Url.ofText "http://10.1.1.1/base/" = .ok ⟨"http",
        some ⟨"", "", some (.ipv4 (.ofOctets 10 1 1 1)), none⟩, .segments ["base", ""], none, none⟩ := by
      decide +kernel
    rw [baseOf, hread]
    exact ⟨_, rfl⟩
  have hroot : ∃ root, ofBytes bytes (server 1) = .ok root := by
    obtain ⟨read, hdevice⟩ := hdevice
    obtain ⟨base, hbase⟩ := hbase
    exact ⟨_, bind_eq_ok_iff.2 ⟨_, helement, bind_eq_ok_iff.2 ⟨⟨0, 0⟩, rfl,
      bind_eq_ok_iff.2 ⟨read, hdevice, map_eq_ok_iff.2 ⟨base, hbase, rfl⟩⟩⟩⟩⟩
  obtain ⟨root, hroot⟩ := hroot
  exact ⟨root, hroot, rebased_ofBytes hroot [server 2, server 3]⟩

end Root

end NatGateway.Description
