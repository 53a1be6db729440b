import NatGateway.Mapping.Protocol
import NatGateway.Proofs.Text.LetterCase

/-!
# Spellings of protocols

Which texts are read as a protocol.
-/

namespace NatGateway.Mapping

/-- A protocol is read in any letter case. -/
theorem Protocol.ofText?_of_sameIgnoringCase {text : String} {protocol : Protocol}
    (h : Text.sameIgnoringCase text protocol.name = true) :
    Protocol.ofText? text = some protocol := by
  rw [Protocol.ofText?, Text.sameIgnoringCase_iff.1 h]
  cases protocol <;> rfl

/-- What is read as a protocol is its name in some letter case. -/
theorem Protocol.ofText?_eq_some_iff {text : String} {protocol : Protocol} :
    Protocol.ofText? text = some protocol ↔ Text.sameIgnoringCase text protocol.name = true := by
  refine ⟨fun h => ?_, ofText?_of_sameIgnoringCase⟩
  rw [Protocol.ofText?] at h
  rw [Text.sameIgnoringCase_iff]
  split at h
  · next hname =>
    cases h
    exact hname
  · split at h
    · next hname =>
      cases h
      exact hname
    · cases h

/-- Two spellings of protocols are equal up to letter case exactly if the protocols are the same. -/
theorem Protocol.sameIgnoringCase_iff_eq {text other : String} {protocol second : Protocol}
    (h : Text.sameIgnoringCase text protocol.name = true)
    (hother : Text.sameIgnoringCase other second.name = true) :
    Text.sameIgnoringCase text other = true ↔ protocol = second := by
  have hnames : Text.upperAscii protocol.name = Text.upperAscii second.name ↔ protocol = second := by
    cases protocol <;> cases second <;> decide
  rw [Text.sameIgnoringCase_iff, Text.sameIgnoringCase_iff.1 h, Text.sameIgnoringCase_iff.1 hother,
    hnames]

end NatGateway.Mapping
