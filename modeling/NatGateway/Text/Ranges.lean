/-!
# Sets of characters as ranges

A property of Unicode is a sorted array of closed ranges of code points. Membership asks whether
some range holds the code point.
-/

namespace NatGateway.Text

/-- Closed ranges of code points, in ascending order. -/
abbrev Ranges := Array (Nat × Nat)

/-- Whether the code point of a character lies in one of the ranges. -/
def Ranges.contains (ranges : Ranges) (c : Char) : Bool :=
  ranges.any fun range => range.1 ≤ c.toNat && c.toNat ≤ range.2

end NatGateway.Text
