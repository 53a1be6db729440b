import NatGateway.Text.Utf8

/-!
# Character encodings of documents

A document is bytes. A byte order mark or the label of its declaration says how they are read;
without either they are UTF-8.
-/

namespace NatGateway.Xml

open NatGateway.Text (Bytes)

/-- How bytes stand for characters. -/
inductive Encoding where
  | utf8
  | utf16BigEndian
  | utf16LittleEndian
  | latin1
  | ascii
deriving DecidableEq

/-- The encodings that a declaration can name. -/
inductive EncodingLabel where
  | utf8
  | latin1
  | utf16
  | ascii
deriving DecidableEq

/-- Whether two texts agree as far as the shorter one goes, in either case of ASCII letters. -/
def agrees (label name : String) : Bool :=
  (label.toList.zip name.toList).all fun (a, b) => a == b.toLower

/-- The encoding that a declared name stands for. Names are told apart only as far as both go. -/
def EncodingLabel.ofName? (name : String) : Option EncodingLabel :=
  if agrees "utf-8" name || agrees "utf8" name then some .utf8
  else if agrees "iso-8859-1" name || agrees "latin1" name then some .latin1
  else if agrees "utf-16" name || agrees "utf16" name then some .utf16
  else if agrees "ascii" name || agrees "us-ascii" name then some .ascii
  else none

/-- The encoding that a byte order mark announces, and the bytes after the mark. -/
def markedEncoding : Bytes → Option (Encoding × Bytes)
  | 0xEF :: 0xBB :: 0xBF :: rest => some (.utf8, rest)
  | 0xFE :: 0xFF :: rest => some (.utf16BigEndian, rest)
  | 0xFF :: 0xFE :: rest => some (.utf16LittleEndian, rest)
  | _ => none

/-- Pair the bytes into units of sixteen bits; an odd byte at the end is refused. -/
def units16 (join : UInt8 → UInt8 → Nat) : Bytes → Option (List Nat)
  | [] => some []
  | a :: b :: rest => (units16 join rest).map (join a b :: ·)
  | [_] => none

/-- Read units of sixteen bits as characters; a surrogate without its partner is refused. -/
def charsOfUnits16 : List Nat → Option (List Char)
  | [] => some []
  | unit :: rest =>
      if 0xD800 ≤ unit && unit ≤ 0xDBFF then
        match rest with
        | low :: rest =>
            if 0xDC00 ≤ low && low ≤ 0xDFFF then
              (charsOfUnits16 rest).map
                (Char.ofNat (0x10000 + (unit - 0xD800) * 0x400 + (low - 0xDC00)) :: ·)
            else none
        | [] => none
      else if 0xDC00 ≤ unit && unit ≤ 0xDFFF then none
      else (charsOfUnits16 rest).map (Char.ofNat unit :: ·)

/-- Read bytes as characters, refusing what the encoding does not allow. -/
def Encoding.chars? (encoding : Encoding) (bytes : Bytes) : Option (List Char) :=
  match encoding with
  | .utf8 => Text.utf8Chars? bytes
  | .utf16BigEndian =>
      (units16 (fun a b => a.toNat * 0x100 + b.toNat) bytes).bind charsOfUnits16
  | .utf16LittleEndian =>
      (units16 (fun a b => b.toNat * 0x100 + a.toNat) bytes).bind charsOfUnits16
  | .latin1 => some (bytes.map fun b => Char.ofNat b.toNat)
  | .ascii => if bytes.all (· < 0x80) then some (bytes.map fun b => Char.ofNat b.toNat) else none

end NatGateway.Xml
