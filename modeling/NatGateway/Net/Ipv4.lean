import NatGateway.Text.Ascii
import NatGateway.Text.Integer

/-!
# IPv4 addresses

Addresses as words of thirty-two bits, their dotted text, and the interfaces of the local machine.
An interface reaches the addresses that agree with its own under its mask.
-/

namespace NatGateway.Net

/-- An IPv4 address. -/
structure Ipv4 where
  bits : UInt32
deriving DecidableEq

namespace Ipv4

/-- The address of four octets, the first one leading. -/
def ofOctets (a b c d : Nat) : Ipv4 :=
  ⟨UInt32.ofNat (a * 0x1000000 + b * 0x10000 + c * 0x100 + d)⟩

/-- The octets of an address, the leading one first. -/
def octets (address : Ipv4) : List Nat :=
  let n := address.bits.toNat
  [n / 0x1000000, n / 0x10000 % 0x100, n / 0x100 % 0x100, n % 0x100]

/-- The dotted text of an address. -/
def text (address : Ipv4) : String :=
  String.intercalate "." (address.octets.map fun octet : Nat => Text.decimal octet)

/-- Read an octet: up to three digits, without a leading zero. -/
def octet? (digits : List Char) : Option Nat :=
  if digits.isEmpty || 3 < digits.length || !digits.all Char.isDigit then none
  else if digits.head? = some '0' && 1 < digits.length then none
  else
    let value := digits.foldl (fun value c => 10 * value + Text.digitValue c) 0
    if value < 0x100 then some value else none

/-- Read four octets between points. -/
def ofChars? (cs : List Char) : Option Ipv4 :=
  match (Text.splitChars '.' cs).mapM octet? with
  | some [a, b, c, d] => some (ofOctets a b c d)
  | _ => none

/-- Read the dotted text of an address. -/
def ofText? (text : String) : Option Ipv4 := ofChars? text.toList

/-- Whether an address is one of the machine itself. -/
def isLoopback (address : Ipv4) : Bool := address.octets.head? = some 127

/-- Whether an address is one of a group. -/
def isMulticast (address : Ipv4) : Bool :=
  address.octets.head?.any fun octet => 224 ≤ octet && octet < 240

end Ipv4

/-- An address of the local machine and the mask of its subnet. -/
structure Interface where
  address : Ipv4
  mask : Ipv4
deriving DecidableEq

/-- Whether an address lies in the subnet of an interface. -/
def Interface.contains (interface : Interface) (address : Ipv4) : Bool :=
  interface.address.bits &&& interface.mask.bits == address.bits &&& interface.mask.bits

/-- The local address that reaches a gateway: that of the first interface whose subnet contains
it. -/
def localAddressFor (interfaces : List Interface) (gateway : Ipv4) : Option Ipv4 :=
  (interfaces.find? (·.contains gateway)).map (·.address)

end NatGateway.Net
