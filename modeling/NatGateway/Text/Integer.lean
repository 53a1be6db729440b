/-!
# Decimal integers of a bounded type

Reading a decimal integer that must fit a type of so many bits: an optional sign (a minus only for
signed types), then one or more ASCII digits. Digits are taken from the left, so that of an
overflow and a foreign character the one met first is reported.
-/

namespace NatGateway.Text

/-- An integer type: with or without a sign, and of how many bits. -/
structure IntegerType where
  signed : Bool
  bits : Nat
deriving DecidableEq

namespace IntegerType

/-- Eight bits without a sign. -/
def u8 : IntegerType := ⟨false, 8⟩

/-- Sixteen bits without a sign. -/
def u16 : IntegerType := ⟨false, 16⟩

/-- Thirty-two bits without a sign. -/
def u32 : IntegerType := ⟨false, 32⟩

/-- Sixty-four bits without a sign. -/
def u64 : IntegerType := ⟨false, 64⟩

/-- Thirty-two bits with a sign. -/
def i32 : IntegerType := ⟨true, 32⟩

/-- Sixty-four bits with a sign. -/
def i64 : IntegerType := ⟨true, 64⟩

/-- The largest value of the type. -/
def top (type : IntegerType) : Nat :=
  if type.signed then Nat.pow 2 (type.bits - 1) - 1 else Nat.pow 2 type.bits - 1

/-- How far the type reaches below zero. -/
def depth (type : IntegerType) : Nat := if type.signed then Nat.pow 2 (type.bits - 1) else 0

/-- Whether a value lies in the range of the type. -/
def Holds (type : IntegerType) (value : Int) : Prop :=
  -(type.depth : Int) ≤ value ∧ value ≤ type.top

instance (type : IntegerType) (value : Int) : Decidable (type.Holds value) :=
  inferInstanceAs (Decidable (_ ∧ _))

end IntegerType

/-- Why a text is not an integer of a type. -/
inductive IntegerError where
  | empty
  | invalidDigit
  | tooLarge
  | tooSmall
deriving DecidableEq

/-- The wording of an integer error. -/
def IntegerError.message : IntegerError → String
  | .empty => "cannot parse integer from empty string"
  | .invalidDigit => "invalid digit found in string"
  | .tooLarge => "number too large to fit in target type"
  | .tooSmall => "number too small to fit in target type"

/-- The value of an ASCII digit. -/
def digitValue (c : Char) : Nat := c.toNat - '0'.toNat

/-- Append decimal digits to a value that must not pass a limit. -/
def readMagnitude (limit : Nat) (overflow : IntegerError) : Nat → List Char →
    Except IntegerError Nat
  | value, [] => .ok value
  | value, c :: rest =>
      if c.isDigit then
        let next := 10 * value + digitValue c
        if next ≤ limit then readMagnitude limit overflow next rest else .error overflow
      else .error .invalidDigit

/-- A magnitude must have at least one digit. -/
def readDigits (limit : Nat) (overflow : IntegerError) : List Char → Except IntegerError Nat
  | [] => .error .invalidDigit
  | cs => readMagnitude limit overflow 0 cs

/-- Read a decimal integer of a type. -/
def IntegerType.read (type : IntegerType) : List Char → Except IntegerError Int
  | [] => .error .empty
  | '+' :: digits => (readDigits type.top .tooLarge digits).map fun n => (n : Int)
  | '-' :: digits =>
      if type.signed then (readDigits type.depth .tooSmall digits).map fun n => -(n : Int)
      else .error .invalidDigit
  | digits => (readDigits type.top .tooLarge digits).map fun n => (n : Int)

/-- The decimal text of an integer. -/
def decimal (value : Int) : String :=
  if value < 0 then "-" ++ String.ofList (Nat.toDigits 10 value.natAbs)
  else String.ofList (Nat.toDigits 10 value.natAbs)

end NatGateway.Text
