import NatGateway.Text.Blank
import NatGateway.Text.Integer
import NatGateway.Text.Quoted

/-!
# Argument values

The types an argument can have, and how values are written and read. Reading ignores white space
around a flag or an integer and takes the empty text for the zero value; texts are kept as they
are.
-/

namespace NatGateway.Soap

open NatGateway.Text

/-- The type of an argument. -/
inductive ValueType where
  | text
  | flag
  | integer (type : IntegerType)
deriving DecidableEq

/-- The type that a short name means. -/
def ValueType.ofName? : String → Option ValueType
  | "string" => some .text
  | "bool" => some .flag
  | "u8" => some (.integer .u8)
  | "u16" => some (.integer .u16)
  | "u32" => some (.integer .u32)
  | "u64" => some (.integer .u64)
  | "i32" => some (.integer .i32)
  | "i64" => some (.integer .i64)
  | _ => none

/-- The value of an argument. -/
inductive Value where
  | text (value : String)
  | flag (value : Bool)
  | integer (value : Int)
deriving DecidableEq

/-- The zero value of a type. -/
def ValueType.zero : ValueType → Value
  | .text => .text ""
  | .flag => .flag false
  | .integer _ => .integer 0

/-- Whether a value is one of a type. -/
def Value.HasType : Value → ValueType → Prop
  | .text _, .text => True
  | .flag _, .flag => True
  | .integer value, .integer type => type.Holds value
  | _, _ => False

instance (value : Value) (type : ValueType) : Decidable (value.HasType type) := by
  cases value <;> cases type <;> simp only [Value.HasType] <;> infer_instance

/-- How a value is written: a flag as one digit, an integer in decimal. -/
def Value.written : Value → String
  | .text value => value
  | .flag value => if value then "1" else "0"
  | .integer value => decimal value

/-- Why a text is not a value of a type. -/
inductive ValueError where
  | flag (text : String)
  | integer (text : String) (cause : IntegerError)

/-- The wording of a value error. -/
def ValueError.message : ValueError → String
  | .flag text => "invalid boolean " ++ quoted text
  | .integer text cause => quoted text ++ ": " ++ cause.message

/-- The spellings of a set flag. -/
def setSpellings : List String := ["1", "t", "T", "true", "TRUE", "True", "yes"]

/-- The spellings of a flag that is not set. -/
def clearSpellings : List String := ["", "0", "f", "F", "false", "FALSE", "False", "no"]

/-- Read a text as a value of a type. -/
def ValueType.read (type : ValueType) (text : String) : Except ValueError Value :=
  match type with
  | .text => .ok (.text text)
  | .flag =>
      let text := trim text
      if setSpellings.contains text then .ok (.flag true)
      else if clearSpellings.contains text then .ok (.flag false)
      else .error (.flag text)
  | .integer type =>
      let digits := trimmed text.toList
      if digits.isEmpty then .ok (.integer 0)
      else
        match type.read digits with
        | .ok value => .ok (.integer value)
        | .error cause => .error (.integer (String.ofList digits) cause)

end NatGateway.Soap
