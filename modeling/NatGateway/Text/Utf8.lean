/-!
# UTF-8

Reading bytes as characters, either strictly or with U+FFFD in place of what is no UTF-8, and
writing characters as bytes. The strict reader accepts exactly the shortest forms of scalar values.
-/

namespace NatGateway.Text

/-- Bytes of a datagram, a file or a body. -/
abbrev Bytes := List UInt8

/-- Whether a byte continues a character. -/
def isContinuation (b : UInt8) : Bool := 0x80 ≤ b && b ≤ 0xBF

/-- The low six bits of a continuation byte. -/
def payload (b : UInt8) : Nat := b.toNat % 0x40

/-- Whether `b` may be the second byte of a three-byte character that starts with `a`. -/
def isSecondOfThree (a b : UInt8) : Bool :=
  isContinuation b && !(a == 0xE0 && b < 0xA0) && !(a == 0xED && 0xA0 ≤ b)

/-- Whether `b` may be the second byte of a four-byte character that starts with `a`. -/
def isSecondOfFour (a b : UInt8) : Bool :=
  isContinuation b && !(a == 0xF0 && b < 0x90) && !(a == 0xF4 && 0x90 ≤ b)

/-- What the bytes start with: a character and its length, or how many bytes to give up. -/
inductive Utf8Step where
  | char (c : Char) (length : Nat)
  | invalid (length : Nat)

/-- Read one character at the start of `a :: rest`. The bytes given up are the longest start of a
character that the input holds, and at least one. -/
def utf8Step (a : UInt8) (rest : Bytes) : Utf8Step :=
  if a < 0x80 then .char (Char.ofNat a.toNat) 1
  else if 0xC2 ≤ a && a ≤ 0xDF then
    match rest with
    | b :: _ =>
        if isContinuation b then .char (Char.ofNat (a.toNat % 0x20 * 0x40 + payload b)) 2
        else .invalid 1
    | [] => .invalid 1
  else if 0xE0 ≤ a && a ≤ 0xEF then
    match rest with
    | b :: rest =>
        if isSecondOfThree a b then
          match rest with
          | c :: _ =>
              if isContinuation c then
                .char (Char.ofNat (a.toNat % 0x10 * 0x1000 + payload b * 0x40 + payload c)) 3
              else .invalid 2
          | [] => .invalid 2
        else .invalid 1
    | [] => .invalid 1
  else if 0xF0 ≤ a && a ≤ 0xF4 then
    match rest with
    | b :: rest =>
        if isSecondOfFour a b then
          match rest with
          | c :: rest =>
              if isContinuation c then
                match rest with
                | d :: _ =>
                    if isContinuation d then
                      .char (Char.ofNat (a.toNat % 0x08 * 0x40000 + payload b * 0x1000 +
                        payload c * 0x40 + payload d)) 4
                    else .invalid 3
                | [] => .invalid 3
              else .invalid 2
          | [] => .invalid 2
        else .invalid 1
    | [] => .invalid 1
  else .invalid 1

/-- Read bytes as UTF-8, refusing what is none. -/
def utf8Chars? : Bytes → Option (List Char)
  | [] => some []
  | a :: rest =>
      match utf8Step a rest with
      | .char c length => (utf8Chars? (rest.drop (length - 1))).map (c :: ·)
      | .invalid _ => none
termination_by bytes => bytes.length
decreasing_by simp only [List.length_drop, List.length_cons]; omega

/-- Read bytes as a text, refusing what is no UTF-8. -/
def utf8? (bytes : Bytes) : Option String := (utf8Chars? bytes).map String.ofList

/-- Read bytes as characters, with U+FFFD for each stretch that is no UTF-8. -/
def utf8LossyChars : Bytes → List Char
  | [] => []
  | a :: rest =>
      match utf8Step a rest with
      | .char c length => c :: utf8LossyChars (rest.drop (length - 1))
      | .invalid length => '\uFFFD' :: utf8LossyChars (rest.drop (length - 1))
termination_by bytes => bytes.length
decreasing_by all_goals simp only [List.length_drop, List.length_cons]; omega

/-- Read bytes as a text, with U+FFFD for each stretch that is no UTF-8. -/
def utf8Lossy (bytes : Bytes) : String := String.ofList (utf8LossyChars bytes)

/-- The UTF-8 bytes of a character. -/
def charBytes (c : Char) : Bytes :=
  let n := c.toNat
  if n < 0x80 then [UInt8.ofNat n]
  else if n < 0x800 then [UInt8.ofNat (0xC0 + n / 0x40), UInt8.ofNat (0x80 + n % 0x40)]
  else if n < 0x10000 then
    [UInt8.ofNat (0xE0 + n / 0x1000), UInt8.ofNat (0x80 + n / 0x40 % 0x40),
      UInt8.ofNat (0x80 + n % 0x40)]
  else
    [UInt8.ofNat (0xF0 + n / 0x40000), UInt8.ofNat (0x80 + n / 0x1000 % 0x40),
      UInt8.ofNat (0x80 + n / 0x40 % 0x40), UInt8.ofNat (0x80 + n % 0x40)]

/-- The UTF-8 bytes of a text. -/
def utf8Bytes (text : String) : Bytes := text.toList.flatMap charBytes

end NatGateway.Text
