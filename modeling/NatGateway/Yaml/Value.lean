import NatGateway.Floating.Shortest
import NatGateway.Text.Integer

/-!
# Values of a document

The data that a document holds: scalars, sequences, and mappings whose entries keep their order.
Keys are values themselves, so that equality of values decides which entries have the same key.
-/

namespace NatGateway.Yaml

open NatGateway.Floating (Binary64)

/-- A number, which is an integer or a floating-point number even if both have the same value. -/
inductive Number where
  | integer (value : Int)
  | float (value : Binary64)
deriving DecidableEq

namespace Number

/-- Equality of numbers. -/
def same : Number → Number → Bool
  | .integer a, .integer b => a == b
  | .float a, .float b => a.same b
  | _, _ => false

/-- The value of a number that is an unsigned integer of 64 bits. -/
def unsigned? : Number → Option Nat
  | .integer value => if Text.IntegerType.u64.Holds value then some value.toNat else none
  | .float _ => none

/-- So many zeros. -/
def zeros (count : Nat) : List Char := List.replicate count '0'

/-- The text of a decimal: positional from `1e-5` up to `1e16`, with a point in every case, and
otherwise one digit before the point and an exponent. -/
def decimalText (decimal : Floating.Decimal) : List Char :=
  let digits := Nat.toDigits 10 decimal.digits
  let point : Int := digits.length + decimal.exponent
  if 0 ≤ decimal.exponent && point ≤ 16 then
    digits ++ zeros decimal.exponent.toNat ++ ['.', '0']
  else if 0 < point && point ≤ 16 then
    digits.take point.toNat ++ '.' :: digits.drop point.toNat
  else if -5 < point && point ≤ 0 then
    '0' :: '.' :: zeros (-point).toNat ++ digits
  else
    let fraction := digits.drop 1
    digits.take 1 ++ (if fraction.isEmpty then [] else '.' :: fraction) ++
      'e' :: (Text.decimal (point - 1)).toList

/-- The text of a floating-point number. -/
def floatText : Binary64 → String
  | .nan => ".nan"
  | .infinite true => "-.inf"
  | .infinite false => ".inf"
  | .finite negative mantissa exponent =>
      (if negative then "-" else "") ++
        String.ofList (decimalText (NatGateway.Floating.shortest mantissa exponent))

/-- The text of a number. -/
def text : Number → String
  | .integer value => Text.decimal value
  | .float value => floatText value

end Number

/-- A value of a document. -/
inductive Value where
  | null
  | bool (value : Bool)
  | number (value : Number)
  | string (value : String)
  | sequence (items : List Value)
  | mapping (entries : List (Value × Value))
  | tagged (tag : String) (value : Value)

instance : Inhabited Value := ⟨.null⟩

namespace Value

mutual

/-- Equality of values, for which the order of entries does not matter. -/
def same : Value → Value → Bool
  | .null, .null => true
  | .bool a, .bool b => a == b
  | .number a, .number b => a.same b
  | .string a, .string b => a == b
  | .sequence a, .sequence b => sameItems a b
  | .mapping a, .mapping b => a.length == b.length && entriesIn a b
  | .tagged s a, .tagged t b => s == t && same a b
  | _, _ => false

/-- Equality of lists of values. -/
def sameItems : List Value → List Value → Bool
  | [], [] => true
  | a :: as, b :: bs => same a b && sameItems as bs
  | _, _ => false

/-- Whether the entries of one list are all in another. -/
def entriesIn : List (Value × Value) → List (Value × Value) → Bool
  | [], _ => true
  | (key, value) :: rest, others =>
      others.any (fun other => same key other.1 && same value other.2) && entriesIn rest others

end

/-- The value of the first entry with a key. -/
def lookup? (key : Value) : List (Value × Value) → Option Value
  | [] => none
  | (k, v) :: rest => if k.same key then some v else lookup? key rest

/-- Put a value under a key: in the place of the first entry with that key, or at the end. -/
def insert (key value : Value) : List (Value × Value) → List (Value × Value)
  | [] => [(key, value)]
  | (k, v) :: rest =>
      if k.same key then (k, value) :: rest else (k, v) :: insert key value rest

end Value

end NatGateway.Yaml
