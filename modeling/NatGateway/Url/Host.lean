import NatGateway.Url.Basic
import NatGateway.Url.Domain
import NatGateway.Url.PercentEncoding

/-!
# Hosts

Reading the host of a URL: an IPv6 address in brackets, an IPv4 address with one to four parts in
three bases, or a domain name. A name whose last label is a number has to be an address.
-/

namespace NatGateway.Url

open NatGateway.Net (Ipv4 Ipv6)

/-- Whether all characters are octal digits. -/
def isOctal (cs : List Char) : Bool := cs.all fun c => '0'.toNat ≤ c.toNat && c.toNat ≤ '7'.toNat

/-- The number that digits of a base denote. -/
def numberOf (base : Nat) (digits : List Char) : Nat :=
  digits.foldl (fun value c => value * base + (Ipv6.hexDigit? c).getD 0) 0

/-- A part of an IPv4 address: hexadecimal after `0x`, octal after another zero, else decimal. -/
def ipv4Part? : List Char → Option Nat
  | [] => none
  | '0' :: 'x' :: digits => if digits.all Ipv6.isHexDigit then some (numberOf 16 digits) else none
  | '0' :: 'X' :: digits => if digits.all Ipv6.isHexDigit then some (numberOf 16 digits) else none
  | '0' :: c :: digits => if isOctal (c :: digits) then some (numberOf 8 (c :: digits)) else none
  | digits => if digits.all Char.isDigit then some (numberOf 10 digits) else none

/-- The labels of a name, without the empty one after a final point. -/
def labelsOf (name : List Char) : List (List Char) :=
  let labels := Text.splitChars '.' name
  if labels.getLast? = some [] then labels.dropLast else labels

/-- Whether the last label of a name is a number. -/
def endsInNumber (name : List Char) : Bool :=
  match (labelsOf name).getLast? with
  | some label => !label.isEmpty && (label.all Char.isDigit || (ipv4Part? label).isSome)
  | none => false

/-- Add parts as octets from the leading one on. -/
def addOctets : Nat → List Nat → Nat → Nat
  | _, [], value => value
  | weight, part :: rest, value => addOctets (weight / 0x100) rest (value + part * weight)

/-- Read the labels of an IPv4 address. The last part fills all octets that are left. -/
def readIpv4 (name : List Char) : Except UrlError Ipv4 :=
  let labels := labelsOf name
  if 4 < labels.length then .error .ipv4
  else
    match labels.mapM ipv4Part? with
    | none => .error .ipv4
    | some parts =>
        match parts.getLast? with
        | none => .error .ipv4
        | some last =>
            let leading := parts.dropLast
            if leading.all (· < 0x100) && last < Nat.pow 0x100 (4 - leading.length) then
              .ok ⟨UInt32.ofNat (addOctets 0x1000000 leading last)⟩
            else .error .ipv4

/-- Read an IPv6 word of a URL: up to four digits. -/
def takeWord (cs : List Char) : Nat × Nat × List Char :=
  let digits := (cs.take 4).takeWhile Ipv6.isHexDigit
  (Ipv6.hexValue digits, digits.length, cs.drop digits.length)

/-- A word takes nothing from behind. -/
theorem takeWord_length (cs : List Char) : (takeWord cs).2.2.length ≤ cs.length := by
  simp [takeWord]

/-- Read the words of an IPv6 address up to its end. The result says where two colons stood, which
stand for one word at least. -/
def readPieces (cs : List Char) (pieces : List Nat) (gap : Option Nat) :
    Option (List Nat × Option Nat) :=
  match cs with
  | [] => some (pieces, gap)
  | ':' :: rest =>
      if gap.isSome || 8 ≤ pieces.length then none
      else readPieces rest pieces (some pieces.length)
  | c :: rest =>
      let used := if gap.isSome then pieces.length + 1 else pieces.length
      if 8 ≤ used then none
      else
        match _h : takeWord (c :: rest) with
        | (_, length, '.' :: _) =>
            if length = 0 || 6 < used then none
            else
              match Ipv4.ofChars? (c :: rest) with
              | some address =>
                  match address.octets with
                  | [a, b, c, d] => some (pieces ++ [a * 0x100 + b, c * 0x100 + d], gap)
                  | _ => none
              | none => none
        | (value, length, ':' :: after) =>
            if after.isEmpty || length = 0 then none
            else readPieces after (pieces ++ [value]) gap
        | (value, _, []) => some (pieces ++ [value], gap)
        | _ => none
termination_by cs.length
decreasing_by
  · simp
  · have := takeWord_length (c :: rest)
    rw [_h] at this
    simp only [List.length_cons] at this ⊢
    omega

/-- Fill the gap of two colons with zero words. -/
def fillGap (pieces : List Nat) : Option Nat → Option Ipv6
  | none => if pieces.length = 8 then some ⟨pieces⟩ else none
  | some gap =>
      some ⟨pieces.take gap ++ List.replicate (8 - pieces.length) 0 ++ pieces.drop gap⟩

/-- Read an IPv6 address between the brackets of a host. -/
def readIpv6 (cs : List Char) : Option Ipv6 :=
  match cs with
  | ':' :: ':' :: rest => (readPieces rest [] (some 0)).bind fun (pieces, gap) => fillGap pieces gap
  | ':' :: _ => none
  | _ => (readPieces cs [] none).bind fun (pieces, gap) => fillGap pieces gap

/-- Read an address in brackets, if the host starts with one. -/
def readBracketed (cs : List Char) : Option (Except UrlError Host) :=
  match cs with
  | '[' :: rest =>
      some (if rest.getLast? = some ']' then
        match readIpv6 rest.dropLast with
        | some address => .ok (.ipv6 address)
        | none => .error .ipv6
      else .error .ipv6)
  | _ => none

/-- Read the host of a special scheme. -/
def readHost (cs : List Char) : Except UrlError Host :=
  match readBracketed cs with
  | some result => result
  | none =>
      match domainToAscii? (percentDecode cs) with
      | none => .error .domainName
      | some name =>
          if name.isEmpty then .error .emptyHost
          else if endsInNumber name.toList then (readIpv4 name.toList).map .ipv4
          else .ok (.domain name)

/-- The characters that no host of another scheme holds. -/
def isForbiddenInHost (c : Char) : Bool :=
  c == '\x00' || c == '\t' || c == '\n' || c == '\r' || c == ' ' || c == '#' || c == '/' ||
    c == ':' || c == '<' || c == '>' || c == '?' || c == '@' || c == '[' || c == '\\' ||
    c == ']' || c == '^' || c == '|'

/-- Read the host of a scheme that is not special; it may be empty. -/
def readOpaqueHost (cs : List Char) : Except UrlError (Option Host) :=
  match readBracketed cs with
  | some result => result.map some
  | none =>
      if cs.any isForbiddenInHost then .error .domainCharacter
      else if cs.isEmpty then .ok none
      else .ok (some (.domain (percentEncode isControl cs)))

end NatGateway.Url
