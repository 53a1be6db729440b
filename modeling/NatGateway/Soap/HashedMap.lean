import Mathlib.Logic.Basic
import NatGateway.Soap.Answer

/-!
# Arguments in a map without an order

Arguments may be collected into a map that is not sorted by key. Like a sorted one it is filled pair by
pair, so a later value of a key takes the place of an earlier one.
-/

namespace NatGateway.Soap.Answer

/-- The pairs as a map without an order, in which the last value of a key counts. -/
def hashedMap {α : Type} (pairs : List (String × α)) : Std.HashMap String α :=
  pairs.foldl (fun map pair => map.insert pair.1 pair.2) ∅

end NatGateway.Soap.Answer
