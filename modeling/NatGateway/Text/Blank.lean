/-!
# White space

The characters with the Unicode property White_Space, and texts without them at their ends. This is
the trimming that arguments, headers, descriptions and settings use throughout.
-/

namespace NatGateway.Text

/-- The White_Space characters. -/
def isBlank (c : Char) : Bool :=
  (0x09 ≤ c.toNat && c.toNat ≤ 0x0D) || c.toNat == 0x20 || c.toNat == 0x85 || c.toNat == 0xA0 ||
    c.toNat == 0x1680 || (0x2000 ≤ c.toNat && c.toNat ≤ 0x200A) || c.toNat == 0x2028 ||
    c.toNat == 0x2029 || c.toNat == 0x202F || c.toNat == 0x205F || c.toNat == 0x3000

/-- The characters without the blank ones at the start. -/
def trimStart (cs : List Char) : List Char := cs.dropWhile isBlank

/-- The characters without the blank ones at the end. -/
def trimEnd (cs : List Char) : List Char := (cs.reverse.dropWhile isBlank).reverse

/-- The characters without the blank ones at either end. -/
def trimmed (cs : List Char) : List Char := trimEnd (trimStart cs)

/-- A text without the blank characters at either end. -/
def trim (text : String) : String := String.ofList (trimmed text.toList)

/-- Whether a text is empty or made of blank characters only. -/
def isBlankText (text : String) : Bool := text.toList.all isBlank

end NatGateway.Text
