import NatGateway.Net.Ipv4

/-!
# IPv6 addresses

Addresses as eight words of sixteen bits, and their text: words in hexadecimal between colons, where
two colons stand for zero words and the last two words may be written as an IPv4 address.
-/

namespace NatGateway.Net

/-- An IPv6 address, by its words. -/
structure Ipv6 where
  words : List Nat
deriving DecidableEq

namespace Ipv6

/-- The value of a hexadecimal digit. -/
def hexDigit? (c : Char) : Option Nat :=
  if c.isDigit then some (c.toNat - '0'.toNat)
  else if 'a'.toNat ≤ c.toNat && c.toNat ≤ 'f'.toNat then some (c.toNat - 'a'.toNat + 10)
  else if 'A'.toNat ≤ c.toNat && c.toNat ≤ 'F'.toNat then some (c.toNat - 'A'.toNat + 10)
  else none

/-- Whether a character is a hexadecimal digit. -/
def isHexDigit (c : Char) : Bool := (hexDigit? c).isSome

/-- The number that hexadecimal digits denote. -/
def hexValue (digits : List Char) : Nat :=
  digits.foldl (fun value c => value * 16 + (hexDigit? c).getD 0) 0

/-- Read a word of one to four digits. -/
def readWord (cs : List Char) : Option (Nat × List Char) :=
  let digits := cs.takeWhile isHexDigit
  if digits.isEmpty || 4 < digits.length then none
  else some (hexValue digits, cs.dropWhile isHexDigit)

/-- Read an IPv4 address as two words: digits and points as far as they go. -/
def readDotted (cs : List Char) : Option (List Nat × List Char) :=
  let isDotted (c : Char) : Bool := c.isDigit || c == '.'
  match Ipv4.ofChars? (cs.takeWhile isDotted) with
  | some address =>
      match address.octets with
      | [a, b, c, d] => some ([a * 0x100 + b, c * 0x100 + d], cs.dropWhile isDotted)
      | _ => none
  | none => none

/-- Read up to `limit` words between colons, the last two perhaps as an IPv4 address, which ends
them. The flag says that it did. -/
def readWords : Nat → Bool → List Char → List Nat × Bool × List Char
  | 0, _, cs => ([], false, cs)
  | limit + 1, isFirst, cs =>
      let start? :=
        if isFirst then some cs
        else
          match cs with
          | ':' :: rest => some rest
          | _ => none
      match start? with
      | none => ([], false, cs)
      | some start =>
          match if limit = 0 then none else readDotted start with
          | some (words, rest) => (words, true, rest)
          | none =>
              match readWord start with
              | none => ([], false, cs)
              | some (word, rest) =>
                  let (words, dotted, rest) := readWords limit false rest
                  (word :: words, dotted, rest)

/-- Read the text of an address. Two colons stand for one zero word at least. -/
def ofChars? (cs : List Char) : Option Ipv6 :=
  let (head, dotted, rest) := readWords 8 true cs
  if head.length = 8 then if rest.isEmpty then some ⟨head⟩ else none
  else if dotted then none
  else
    match rest with
    | ':' :: ':' :: rest =>
        let (tail, _, rest) := readWords (7 - head.length) true rest
        if rest.isEmpty then
          some ⟨head ++ List.replicate (8 - head.length - tail.length) 0 ++ tail⟩
        else none
    | _ => none

/-- The first longest run of zero words from a position on: where it starts and how long it is. -/
def longestZeros : Nat → List Nat → Nat × Nat
  | _, [] => (0, 0)
  | position, word :: rest =>
      let later := longestZeros (position + 1) rest
      let run := ((word :: rest).takeWhile (· == 0)).length
      if 0 < run && later.2 ≤ run then (position, run) else later

/-- Words in hexadecimal between colons. -/
def joined (words : List Nat) : String :=
  String.intercalate ":" (words.map fun word => String.ofList (Nat.toDigits 16 word))

/-- The text of an address in words: the first longest run of two zero words or more becomes two
colons. -/
def plainText (address : Ipv6) : String :=
  let (start, length) := longestZeros 0 address.words
  if 1 < length then
    joined (address.words.take start) ++ "::" ++ joined (address.words.drop (start + length))
  else joined address.words

/-- The text of an address, where an IPv4 address inside it is written with points. -/
def text (address : Ipv6) : String :=
  match address.words with
  | [0, 0, 0, 0, 0, 0xffff, a, b] =>
      "::ffff:" ++ (Ipv4.ofOctets (a / 0x100) (a % 0x100) (b / 0x100) (b % 0x100)).text
  | _ => address.plainText

end Ipv6

/-- The normal text of an address of either kind, if a text denotes one. -/
def normalAddress? (text : String) : Option String :=
  match Ipv4.ofText? text with
  | some address => some address.text
  | none => (Ipv6.ofChars? text.toList).map (·.text)

end NatGateway.Net
