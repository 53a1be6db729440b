import Mathlib
import NatGateway.Text.Ascii

/-!
# Letter case

When texts are equal up to the case of ASCII letters.
-/

namespace NatGateway.Text

/-- Texts are equal up to the case of ASCII letters exactly if they are in upper case. -/
theorem sameIgnoringCase_iff {a b : String} :
    sameIgnoringCase a b = true ↔ upperAscii a = upperAscii b := by
  have hupper : Char.toUpper ∘ Char.toLower = Char.toUpper := funext Char.toUpper_toLower_eq_toUpper
  have hlower : Char.toLower ∘ Char.toUpper = Char.toLower := funext Char.toLower_toUpper_eq_toLower
  rw [sameIgnoringCase, beq_iff_eq, upperAscii, upperAscii, String.ofList_inj]
  constructor
  · intro h
    have hboth := congrArg (List.map Char.toUpper) h
    rwa [List.map_map, List.map_map, hupper] at hboth
  · intro h
    have hboth := congrArg (List.map Char.toLower) h
    rwa [List.map_map, List.map_map, hlower] at hboth

end NatGateway.Text
