import NatGateway.Yaml.Value

/-!
# What plain scalars stand for

A scalar without quotes is null, a boolean, an integer or a floating-point number if it is written
like one, and a string otherwise. Digits that follow a leading zero make a string.
-/

namespace NatGateway.Yaml

open NatGateway.Floating (Binary64)

/-- The spellings of null. -/
def isNullText (text : String) : Bool := ["null", "Null", "NULL", "~"].contains text

/-- The boolean that a text spells. -/
def boolText? (text : String) : Option Bool :=
  if ["true", "True", "TRUE"].contains text then some true
  else if ["false", "False", "FALSE"].contains text then some false
  else none

/-- The text without a sign in front, which may be a plus or a minus. -/
def unsigned : List Char → List Char
  | '+' :: rest => rest
  | '-' :: rest => rest
  | cs => cs

/-- Whether a text is a zero and more digits, up to a sign. Such a text is no number. -/
def hasLeadingZero (cs : List Char) : Bool :=
  match unsigned cs with
  | '0' :: c :: rest => (c :: rest).all Char.isDigit
  | _ => false

/-- The value of a digit of some base. -/
def digitOf? (base : Nat) (c : Char) : Option Nat :=
  let value :=
    if c.isDigit then c.toNat - '0'.toNat
    else if 'a' ≤ c && c ≤ 'f' then c.toNat - 'a'.toNat + 10
    else if 'A' ≤ c && c ≤ 'F' then c.toNat - 'A'.toNat + 10
    else base
  if value < base then some value else none

/-- The value of digits of some base, which come after those of a value. -/
def readBase (base : Nat) : Nat → List Char → Option Nat
  | value, [] => some value
  | value, c :: rest =>
      (digitOf? base c).bind fun digit => readBase base (base * value + digit) rest

/-- The value of one or more digits of some base. -/
def ofBase? (base : Nat) (cs : List Char) : Option Nat :=
  if cs.isEmpty then none else readBase base 0 cs

/-- The value of an integer without a sign: in base 16, 8 or 2 after `0x`, `0o` or `0b`, and in base
ten otherwise. -/
def magnitude? (cs : List Char) : Option Nat :=
  match cs with
  | '0' :: 'x' :: digits => ofBase? 16 digits
  | '0' :: 'o' :: digits => ofBase? 8 digits
  | '0' :: 'b' :: digits => ofBase? 2 digits
  | cs => if hasLeadingZero cs then none else ofBase? 10 cs

/-- The integer that a text spells, of any size. -/
def integer? (cs : List Char) : Option Int :=
  match cs with
  | '+' :: rest => (magnitude? rest).map fun n => (n : Int)
  | '-' :: rest => (magnitude? rest).map fun n => -(n : Int)
  | cs => (magnitude? cs).map fun n => (n : Int)

/-- The digits at the start of a text, and what follows them. -/
def digitsOf (cs : List Char) : List Char × List Char := cs.span Char.isDigit

/-- The exponent that a text spells, which starts with `e` or is absent. -/
def exponent? : List Char → Option Int
  | [] => some 0
  | c :: rest =>
      if c != 'e' && c != 'E' then none
      else
        (ofBase? 10 (unsigned rest)).map fun n =>
          if rest.head? = some '-' then -(n : Int) else n

/-- The number that a decimal spells, without a sign: digits with a point among them or next to
them, and an exponent. -/
def decimal? (negative : Bool) (cs : List Char) : Option Binary64 :=
  let (whole, rest) := digitsOf cs
  let (fraction, rest) :=
    match rest with
    | '.' :: rest => digitsOf rest
    | rest => ([], rest)
  let digits := whole ++ fraction
  if digits.isEmpty then none
  else
    (exponent? rest).bind fun exponent =>
      (readBase 10 0 digits).map fun n =>
        .ofDecimal negative n (exponent - fraction.length)

/-- A number that is not infinite. -/
def finite? : Binary64 → Option Binary64
  | .finite negative mantissa exponent => some (.finite negative mantissa exponent)
  | _ => none

/-- The floating-point number that a text spells. One that is out of range is none. -/
def float? (text : String) : Option Binary64 :=
  if [".inf", ".Inf", ".INF", "+.inf", "+.Inf", "+.INF"].contains text then some (.infinite false)
  else if ["-.inf", "-.Inf", "-.INF"].contains text then some (.infinite true)
  else if [".nan", ".NaN", ".NAN"].contains text then some .nan
  else
    match text.toList with
    | '+' :: rest => (decimal? false rest).bind finite?
    | '-' :: rest => (decimal? true rest).bind finite?
    | cs => (decimal? false cs).bind finite?

/-- The integers that a document can hold, and those that it refuses. -/
inductive IntegerSize where
  | fits
  | refused
  | passedOver

/-- What becomes of an integer: it is taken if it has 64 bits, refused up to 128 bits, and not even
seen as an integer beyond them. -/
def sizeOf (value : Int) : IntegerSize :=
  if -(Nat.pow 2 63 : Int) ≤ value && value < Nat.pow 2 64 then .fits
  else if -(Nat.pow 2 127 : Int) ≤ value && value < Nat.pow 2 128 then .refused
  else .passedOver

/-- The integer that a text spells, if it is seen as one. It is missing if it is refused. -/
def integerText? (text : String) : Option (Option Value) :=
  match integer? text.toList with
  | none => none
  | some value =>
      match sizeOf value with
      | .fits => some (some (.number (.integer value)))
      | .refused => some none
      | .passedOver => none

/-- What a plain scalar stands for; nothing if it is an integer that is refused. -/
def resolve? (text : String) : Option Value :=
  if text.isEmpty || isNullText text then some .null
  else
    match boolText? text, integerText? text with
    | some value, _ => some (.bool value)
    | none, some value => value
    | none, none =>
        if hasLeadingZero text.toList then some (.string text)
        else
          match float? text with
          | some value => some (.number (.float value))
          | none => some (.string text)

end NatGateway.Yaml
