/-!
# The characters of XML

White space, the characters a document may hold, and those a name may hold. The first two differ
between the versions 1.0 and 1.1 of the language; names are the same in both.
-/

namespace NatGateway.Xml

/-- The version that a document declares. -/
inductive Version where
  | v10
  | v11
deriving DecidableEq

/-- The four white-space characters of markup. -/
def isSpace (c : Char) : Bool := c == ' ' || c == '\t' || c == '\n' || c == '\r'

/-- The characters that comments, sections and instructions may hold. -/
def Version.allows (version : Version) (c : Char) : Bool :=
  let n := c.toNat
  match version with
  | .v10 => n == 0x09 || n == 0x0A || n == 0x0D || (0x20 ≤ n && n ≤ 0xFFFD) || 0x10000 ≤ n
  | .v11 => (0x01 ≤ n && n ≤ 0xFFFD) || 0x10000 ≤ n

/-- Version 1.1 admits most control characters only as references. -/
def isRestricted (c : Char) : Bool :=
  let n := c.toNat
  (0x01 ≤ n && n ≤ 0x08) || n == 0x0B || n == 0x0C || (0x0E ≤ n && n ≤ 0x1F) ||
    (0x7F ≤ n && n ≤ 0x84) || (0x86 ≤ n && n ≤ 0x9F)

/-- The characters that text and attribute values may hold as themselves. -/
def Version.allowsPlain (version : Version) (c : Char) : Bool :=
  match version with
  | .v10 => version.allows c
  | .v11 => version.allows c && !isRestricted c

/-- The characters a name may start with. -/
def isNameStart (c : Char) : Bool :=
  let n := c.toNat
  c == ':' || c == '_' || c.isAlpha || (0xC0 ≤ n && n ≤ 0xD6) || (0xD8 ≤ n && n ≤ 0xF6) ||
    (0xF8 ≤ n && n ≤ 0x2FF) || (0x370 ≤ n && n ≤ 0x37D) || (0x37F ≤ n && n ≤ 0x1FFF) ||
    (0x200C ≤ n && n ≤ 0x200D) || (0x2070 ≤ n && n ≤ 0x218F) || (0x2C00 ≤ n && n ≤ 0x2FEF) ||
    (0x3001 ≤ n && n ≤ 0xD7FF) || (0xF900 ≤ n && n ≤ 0xFDCF) || (0xFDF0 ≤ n && n ≤ 0xFFFD) ||
    (0x10000 ≤ n && n ≤ 0xEFFFF)

/-- The characters a name may go on with. -/
def isNameChar (c : Char) : Bool :=
  let n := c.toNat
  isNameStart c || c == '-' || c == '.' || c.isDigit || n == 0xB7 ||
    (0x300 ≤ n && n ≤ 0x36F) || (0x203F ≤ n && n ≤ 0x2040)

end NatGateway.Xml
