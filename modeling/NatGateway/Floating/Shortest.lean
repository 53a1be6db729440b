import NatGateway.Floating.Binary64

/-!
# Shortest decimals

The decimal with the fewest digits that is read as a given floating-point number. The decimals with
few digits are the points of a coarse grid; the grids are tried from the coarsest on, and on each
only the two neighbours of the number can be the nearest hit.
-/

namespace NatGateway.Floating

/-- A decimal number `digits * 10 ^ exponent`. -/
structure Decimal where
  digits : Nat
  exponent : Int
deriving DecidableEq

/-- The numbers that are read as one floating-point number: those between two bounds, which belong
to them if `closed`. All three are multiples of `2 ^ exponent`. -/
structure RoundingInterval where
  lower : Nat
  value : Nat
  upper : Nat
  exponent : Int
  closed : Bool

/-- The rounding interval of a number. A power of two is nearer to the number below. -/
def RoundingInterval.around (mantissa : Nat) (exponent : Int) : RoundingInterval where
  lower :=
    if mantissa = Nat.pow 2 52 && Binary64.leastExponent < exponent then 4 * mantissa - 1
    else 4 * mantissa - 2
  value := 4 * mantissa
  upper := 4 * mantissa + 2
  exponent := exponent - 2
  closed := mantissa % 2 = 0

/-- The multiples of `10 ^ grid` next to a number, and what is needed to compare with them: the
interval is scaled by the denominator and the unit of the grid by the numerator. -/
structure Neighbours where
  below : Nat
  unit : Nat
  lower : Nat
  value : Nat
  upper : Nat

/-- The neighbours of a number on the grid of `10 ^ grid`. -/
def RoundingInterval.neighbours (interval : RoundingInterval) (grid : Int) : Neighbours :=
  let unit := Nat.pow 10 grid.toNat * Nat.pow 2 (-interval.exponent).toNat
  let scale := Nat.pow 10 (-grid).toNat * Nat.pow 2 interval.exponent.toNat
  ⟨interval.value * scale / unit, unit, interval.lower * scale, interval.value * scale,
    interval.upper * scale⟩

/-- The point of a grid that is read as the number and is nearest to it, if there is any. Of two
equally near ones the even one is taken. -/
def RoundingInterval.hit? (interval : RoundingInterval) (grid : Int) : Option Nat :=
  let n := interval.neighbours grid
  let inside (digits : Nat) : Bool :=
    let point := digits * n.unit
    digits != 0 &&
      (if interval.closed then n.lower ≤ point && point ≤ n.upper
        else n.lower < point && point < n.upper)
  let above := n.below + 1
  match inside n.below, inside above with
  | false, false => none
  | true, false => some n.below
  | false, true => some above
  | true, true =>
      let toBelow := n.value - n.below * n.unit
      let toAbove := above * n.unit - n.value
      if toBelow < toAbove then some n.below
      else if toAbove < toBelow then some above
      else some (if n.below % 2 = 0 then n.below else above)

/-- The first hit on the grids from `10 ^ grid` downwards. -/
def RoundingInterval.firstHit (interval : RoundingInterval) : Nat → Int → Decimal
  | 0, grid => ⟨(interval.hit? grid).getD 0, grid⟩
  | fuel + 1, grid =>
      match interval.hit? grid with
      | some digits => ⟨digits, grid⟩
      | none => interval.firstHit fuel (grid - 1)

/-- A power of ten that is above a number `mantissa * 2 ^ exponent`, and not far above it. -/
def powerAbove (mantissa : Nat) (exponent : Int) : Int :=
  ((mantissa.log2 : Int) + exponent + 1) * 30103 / 100000 + 1

/-- The shortest decimal that is read as `mantissa * 2 ^ exponent`. Seventeen digits are always
enough. -/
def shortest (mantissa : Nat) (exponent : Int) : Decimal :=
  if mantissa = 0 then ⟨0, 0⟩
  else (RoundingInterval.around mantissa exponent).firstHit 20 (powerAbove mantissa exponent)

end NatGateway.Floating
