import NatGateway.Text.Utf8

/-!
# Positions in a document

The characters of a document from some place on, with the line and column of that place. All line
breaks but the line and paragraph separators are read as line feeds.
-/

namespace NatGateway.Yaml

/-- Whether a document may hold a character. -/
def isDocumentChar (c : Char) : Bool :=
  c.toNat == 0x09 || c.toNat == 0x0A || c.toNat == 0x0D || (0x20 ≤ c.toNat && c.toNat ≤ 0x7E) ||
    c.toNat == 0x85 || (0xA0 ≤ c.toNat && c.toNat ≤ 0xD7FF) ||
    (0xE000 ≤ c.toNat && c.toNat ≤ 0xFFFD) || 0x10000 ≤ c.toNat

/-- Read carriage returns, with or without a line feed, and next-line characters as line feeds. -/
def withLineFeeds : List Char → List Char
  | '\r' :: '\n' :: rest => '\n' :: withLineFeeds rest
  | '\r' :: rest => '\n' :: withLineFeeds rest
  | '\u0085' :: rest => '\n' :: withLineFeeds rest
  | c :: rest => c :: withLineFeeds rest
  | [] => []

/-- The characters of a document, if all of them are allowed. -/
def documentChars? (bytes : Text.Bytes) : Option (List Char) :=
  (Text.utf8Chars? bytes).bind fun cs =>
    if cs.all isDocumentChar then some (withLineFeeds cs) else none

/-- Whether a character is a space or a tab. -/
def isGapChar (c : Char) : Bool := c == ' ' || c == '\t'

/-- Whether a character breaks a line. -/
def isBreak (c : Char) : Bool := c == '\n' || c == '\u2028' || c == '\u2029'

/-- Whether a character belongs to a word of a name: a letter, a digit, a hyphen or a line. -/
def isNameChar (c : Char) : Bool := c.isAlphanum || c == '-' || c == '_'

/-- Whether there is a space, a tab, a line break or the end. -/
def endsWord : Option Char → Bool
  | some c => isGapChar c || isBreak c
  | none => true

/-- Whether there is a line break or the end. -/
def endsLine : Option Char → Bool
  | some c => isBreak c
  | none => true

/-- A place in a document. -/
structure Cursor where
  rest : List Char
  line : Nat
  column : Nat
  index : Nat

namespace Cursor

/-- The start of a document. -/
def start (cs : List Char) : Cursor := ⟨cs, 0, 0, 0⟩

/-- The next character. -/
def peek (cursor : Cursor) : Option Char := cursor.rest.head?

/-- The character after the next `count` ones. -/
def peekAt (cursor : Cursor) (count : Nat) : Option Char := cursor.rest[count]?

/-- The place after the next character, which starts a line if the character breaks one. -/
def next (cursor : Cursor) : Cursor :=
  match cursor.rest with
  | [] => cursor
  | c :: rest =>
      if isBreak c then ⟨rest, cursor.line + 1, 0, cursor.index + 1⟩
      else ⟨rest, cursor.line, cursor.column + 1, cursor.index + 1⟩

/-- The place after so many characters. -/
def advance (cursor : Cursor) : Nat → Cursor
  | 0 => cursor
  | count + 1 => cursor.next.advance count

/-- The characters up to one that a test refuses, and the place behind them. None of them breaks a
line if the test refuses line breaks. -/
def takeWhile (cursor : Cursor) (test : Char → Bool) : List Char × Cursor :=
  let (taken, rest) := cursor.rest.span test
  (taken, ⟨rest, cursor.line, cursor.column + taken.length, cursor.index + taken.length⟩)

/-- The place of the next character that a test refuses. -/
def skipWhile (cursor : Cursor) (test : Char → Bool) : Cursor := (cursor.takeWhile test).2

/-- The place after spaces and tabs. -/
def skipGap (cursor : Cursor) : Cursor := cursor.skipWhile isGapChar

/-- The end of the line, if nothing but a comment is left of it. -/
def skipComment (cursor : Cursor) : Cursor :=
  if cursor.peek = some '#' then cursor.skipWhile (!isBreak ·) else cursor

/-- Whether the line starts with three characters of a kind and a blank after them. -/
def startsMark (cursor : Cursor) (c : Char) : Bool :=
  cursor.column == 0 && [c, c, c].isPrefixOf cursor.rest && endsWord (cursor.peekAt 3)

/-- Whether a document starts or ends here. -/
def atDocumentMark (cursor : Cursor) : Bool := cursor.startsMark '-' || cursor.startsMark '.'

end Cursor

/-- What stands between two words: spaces, or line breaks. -/
structure Gap where
  broken : Bool
  spaces : List Char
  first : List Char
  more : List Char

namespace Gap

/-- No gap at all. -/
def none : Gap := ⟨false, [], [], []⟩

/-- A line break that was escaped: it counts as a break and leaves nothing. -/
def escaped : Gap := ⟨true, [], [], []⟩

/-- What a gap is read as. Spaces stand for themselves, one line feed for a space, and of several
line feeds the first is dropped. -/
def text (gap : Gap) : List Char :=
  if gap.broken then
    if gap.first = ['\n'] then (if gap.more.isEmpty then [' '] else gap.more)
    else gap.first ++ gap.more
  else gap.spaces

/-- Add a character to a gap. Spaces at the ends of lines are dropped. -/
def push (gap : Gap) (c : Char) : Gap :=
  if isBreak c then
    if gap.broken then { gap with more := gap.more ++ [c] } else ⟨true, [], [c], []⟩
  else if gap.broken then gap
  else { gap with spaces := gap.spaces ++ [c] }

/-- Read a gap. With an indentation, tabs may not stand in its place; then there is no result. -/
def read (indentation : Option Nat) : Nat → Gap → Cursor → Option (Gap × Cursor)
  | 0, _, _ => Option.none
  | fuel + 1, gap, cursor =>
      match cursor.peek with
      | Option.none => some (gap, cursor)
      | some c =>
          let isForbidden := c == '\t' && gap.broken &&
            (match indentation with
              | some column => cursor.column < column
              | Option.none => false)
          if isForbidden then Option.none
          else if isGapChar c || isBreak c then read indentation fuel (gap.push c) cursor.next
          else some (gap, cursor)

end Gap

end NatGateway.Yaml
