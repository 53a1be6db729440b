import NatGateway.Net.Ipv6
import NatGateway.Text.Utf8

/-!
# Percent encoding

Characters that a component of a URL cannot hold are written by their UTF-8 bytes, each as a
percent sign and two hexadecimal digits. Which characters these are depends on the component.
-/

namespace NatGateway.Url

open NatGateway.Text (Bytes)

/-- What every component encodes: controls and everything outside ASCII. -/
def isControl (c : Char) : Bool := c.toNat < 0x20 || 0x7E < c.toNat

/-- What a fragment encodes. -/
def encodedInFragment (c : Char) : Bool :=
  isControl c || c == ' ' || c == '"' || c == '<' || c == '>' || c == '\x60'

/-- What a path encodes. -/
def encodedInPath (c : Char) : Bool :=
  encodedInFragment c || c == '#' || c == '?' || c == '\x7b' || c == '\x7d'

/-- What the name and password of a user encode. -/
def encodedInUser (c : Char) : Bool :=
  encodedInPath c || c == '/' || c == ':' || c == ';' || c == '=' || c == '@' || c == '[' ||
    c == '\\' || c == ']' || c == '^' || c == '|'

/-- What a query encodes; special schemes encode the single quote too. -/
def encodedInQuery (isSpecial : Bool) (c : Char) : Bool :=
  isControl c || c == ' ' || c == '"' || c == '#' || c == '<' || c == '>' ||
    (isSpecial && c == '\x27')

/-- An upper-case hexadecimal digit. -/
def hexDigit (n : Nat) : Char :=
  if n < 10 then Char.ofNat ('0'.toNat + n) else Char.ofNat ('A'.toNat + (n - 10))

/-- A byte as a percent sign and two digits. -/
def encodeByte (b : UInt8) : List Char := ['%', hexDigit (b.toNat / 16), hexDigit (b.toNat % 16)]

/-- Encode the characters of a class. -/
def percentEncode (isEncoded : Char → Bool) (cs : List Char) : String :=
  String.ofList (cs.flatMap fun c =>
    if isEncoded c then (Text.charBytes c).flatMap encodeByte else [c])

/-- The bytes that a text denotes once its percent signs are decoded. A percent sign without two
digits after it stands for itself. -/
def percentDecode : List Char → Bytes
  | [] => []
  | '%' :: a :: b :: rest =>
      match Net.Ipv6.hexDigit? a, Net.Ipv6.hexDigit? b with
      | some high, some low => UInt8.ofNat (high * 16 + low) :: percentDecode rest
      | _, _ => 0x25 :: percentDecode (a :: b :: rest)
  | c :: rest => Text.charBytes c ++ percentDecode rest

end NatGateway.Url
