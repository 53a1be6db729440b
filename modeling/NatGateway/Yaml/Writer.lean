import NatGateway.Yaml.Cursor
import NatGateway.Yaml.Resolution

/-!
# Writing documents

The text of a value as a document: collections in block style, one entry to a line, and scalars
plain where they can be read back, in quotes or as blocks otherwise. Lines are indented by two
columns for each collection around, except for sequences right under a key.
-/

namespace NatGateway.Yaml

/-- The ways in which a scalar can be written. -/
inductive Style where
  | plain
  | single
  | double
  | literal
deriving DecidableEq

/-- Whether a character is written as it is. -/
def isPrintable (c : Char) : Bool :=
  c == '\n' || (0x20 ≤ c.toNat && c.toNat ≤ 0x7E) || (0xA0 ≤ c.toNat && c.toNat ≤ 0xD7FF) ||
    (0xE000 ≤ c.toNat && c.toNat ≤ 0xFFFD && c.toNat != 0xFEFF) || 0x10000 ≤ c.toNat

/-- Whether a character breaks a line for whoever writes it. -/
def breaksLine (c : Char) : Bool := isBreak c || c == '\r' || c == '\u0085'

/-- Whether a word can end before a character. -/
def isWordEnd (c : Option Char) : Bool := c.all fun c => isGapChar c || breaksLine c

/-- Whether a character may not start a plain scalar. -/
def opensOther (c : Char) (following : Option Char) : Bool :=
  "#,[]\x7b\x7d&*!|>'\"%@\x60".toList.contains c ||
    (['?', ':', '-'].contains c && isWordEnd following)

/-- Whether one of the characters may not stand where it does in a plain scalar, behind another
one. -/
def hasIndicator : Char → List Char → Bool
  | _, [] => false
  | before, c :: rest =>
      (c == ':' && isWordEnd rest.head?) ||
        (c == '#' && isWordEnd (some before)) || hasIndicator c rest

/-- Whether two kinds of characters follow each other somewhere. -/
def hasPair (first second : Char → Bool) : List Char → Bool
  | a :: b :: rest => (first a && second b) || hasPair first second (b :: rest)
  | _ => false

/-- What is known of the text of a scalar. -/
structure Analysis where
  breaks : Bool
  special : Bool
  spaceBreak : Bool
  breakSpace : Bool
  edgeSpace : Bool
  edgeBreak : Bool
  endsInSpace : Bool
  indicator : Bool

/-- Look at the text of a scalar. -/
def analyse (cs : List Char) : Analysis where
  breaks := cs.any breaksLine
  special := !cs.all isPrintable
  spaceBreak := hasPair (· == ' ') breaksLine cs
  breakSpace := hasPair breaksLine (· == ' ') cs
  edgeSpace := cs.head? = some ' ' || cs.getLast? = some ' '
  edgeBreak := cs.head?.any breaksLine || cs.getLast?.any breaksLine
  endsInSpace := cs.getLast? = some ' '
  indicator :=
    ['-', '-', '-'].isPrefixOf cs || ['.', '.', '.'].isPrefixOf cs ||
      (match cs with
        | c :: rest => opensOther c rest.head? || hasIndicator c rest
        | [] => false)

namespace Analysis

/-- Whether the text can be written in one of the ways that show characters as they are. -/
def isShowable (a : Analysis) : Bool := !a.special && !a.spaceBreak

/-- Whether the text can be written plain. -/
def allowsPlain (a : Analysis) : Bool :=
  a.isShowable && !a.edgeSpace && !a.edgeBreak && !a.breakSpace && !a.breaks && !a.indicator

/-- Whether the text can be written in single quotes. -/
def allowsSingle (a : Analysis) : Bool := a.isShowable && !a.breakSpace

/-- Whether the text can be written as a block. -/
def allowsLiteral (a : Analysis) : Bool := a.isShowable && !a.endsInSpace

end Analysis

/-- Whether a plain scalar would be read as something other than a string, or as digits that are no
number. -/
def isAmbiguous (text : String) : Bool :=
  match resolve? text with
  | none => false
  | some (.string text) => hasLeadingZero text.toList
  | some _ => true

/-- The style of a string. -/
def styleOf (text : String) : Style :=
  let cs := text.toList
  let a := analyse cs
  if cs.contains '\n' then
    if a.allowsLiteral then .literal else .double
  else if isAmbiguous text then
    if cs.isEmpty || a.allowsSingle then .single else .double
  else if a.allowsPlain then .plain
  else if a.allowsSingle then .single
  else .double

/-- So many spaces. -/
def spaces (count : Nat) : List Char := List.replicate count ' '

/-- The hexadecimal digits of a number, in upper case and at least so many. -/
def hexDigits (width value : Nat) : List Char :=
  let digits := (Nat.toDigits 16 value).map Char.toUpper
  List.replicate (width - digits.length) '0' ++ digits

/-- The escapes of one character that are used in writing. -/
def writtenEscapes : List (Char × Char) :=
  [('\x00', '0'), ('\x07', 'a'), ('\x08', 'b'), ('\t', 't'), ('\n', 'n'), ('\x0b', 'v'),
    ('\x0c', 'f'), ('\r', 'r'), ('\x1b', 'e'), ('"', '"'), ('\\', '\\'), ('\u0085', 'N'),
    ('\u00a0', '_'), ('\u2028', 'L'), ('\u2029', 'P')]

/-- A character in double quotes. -/
def inDoubleQuotes (c : Char) : List Char :=
  if isPrintable c && !breaksLine c && c != '"' && c != '\\' then [c]
  else
    match writtenEscapes.lookup c with
    | some letter => ['\\', letter]
    | none =>
        if c.toNat ≤ 0xFF then '\\' :: 'x' :: hexDigits 2 c.toNat
        else if c.toNat ≤ 0xFFFF then '\\' :: 'u' :: hexDigits 4 c.toNat
        else '\\' :: 'U' :: hexDigits 8 c.toNat

/-- Characters with an indentation before each line but the first, empty lines apart. -/
def indentLines (column : Nat) : Bool → List Char → List Char
  | _, [] => []
  | atStart, c :: rest =>
      if breaksLine c then c :: indentLines column true rest
      else (if atStart then spaces column else []) ++ c :: indentLines column false rest

/-- A text in single quotes, in which quotes are doubled. -/
def inSingleQuotes (column : Nat) (cs : List Char) : List Char :=
  let doubled := cs.flatMap fun c => if c == '\'' then ['\'', '\''] else [c]
  let ending := if cs.getLast?.any breaksLine then spaces column else []
  '\'' :: indentLines column false doubled ++ ending ++ ['\'']

/-- What the header of a block says about the end of the text: nothing if it ends with one line
break behind other text. -/
def chompingMark (cs : List Char) : List Char :=
  match cs.reverse with
  | [] => ['-']
  | last :: rest =>
      if !breaksLine last then ['-']
      else
        match rest with
        | [] => ['+']
        | c :: _ => if breaksLine c then ['+'] else []

/-- A text as a block. The header says the indentation if the text starts with a blank. -/
def asLiteral (column : Nat) (cs : List Char) : List Char :=
  let mark := if cs.head?.any fun c => c == ' ' || breaksLine c then ['2'] else []
  '|' :: mark ++ chompingMark cs ++ '\n' :: indentLines column true cs

/-- A string whose further lines are indented to a column. -/
def scalarText (column : Nat) (text : String) : List Char :=
  let cs := text.toList
  match styleOf text with
  | .plain => cs
  | .single => inSingleQuotes column cs
  | .double => '"' :: cs.flatMap inDoubleQuotes ++ ['"']
  | .literal => asLiteral column cs

/-- A tag as it is written: characters that are not allowed in tags are escaped byte by byte. -/
def tagText (name : String) : List Char :=
  let isAllowed (b : UInt8) : Bool :=
    let c := Char.ofNat b.toNat
    b < 0x80 && (isNameChar c || ";/?:@&=+$,.~*'()[]".toList.contains c)
  '!' :: (Text.utf8Bytes name).flatMap fun b =>
    if isAllowed b then [Char.ofNat b.toNat] else '%' :: hexDigits 2 b.toNat

/-- Where a node is written: the column of the block around, none outside of all; whether it belongs
to a mapping; whether nothing but indicators stands before it on the line; and whether a blank
stands there. -/
structure Place where
  column : Option Nat
  inMapping : Bool
  opensLine : Bool
  spaced : Bool

namespace Place

/-- The place of the whole document. -/
def root : Place := ⟨none, false, true, true⟩

/-- The blank before a node. -/
def gap (place : Place) : List Char := if place.spaced then [] else [' ']

/-- The column of the further lines of a scalar. -/
def inner (place : Place) : Nat :=
  match place.column with
  | some column => column + 2
  | none => 2

/-- The column of the entries of a mapping. -/
def entries (place : Place) : Nat :=
  match place.column with
  | some column => column + 2
  | none => 0

/-- The column of the items of a sequence. -/
def items (place : Place) : Nat :=
  match place.column with
  | some column => if place.inMapping && !place.opensLine then column else column + 2
  | none => 0

/-- The place behind a tag. -/
def afterTag (place : Place) : Place := { place with opensLine := false, spaced := false }

end Place

/-- Start a new line at a column, unless the text ends with a line break. The text is in reverse. -/
def newLine (column : Nat) (out : List Char) : List Char :=
  let out := if out.head?.any breaksLine then out else '\n' :: out
  spaces column ++ out

/-- Start the first line of a block collection: on the same line, if nothing but indicators stands
there. -/
def firstLine (place : Place) (column : Nat) (out : List Char) : List Char :=
  if place.opensLine then place.gap ++ out else newLine column out

/-- Write characters behind a text in reverse. -/
def append (cs out : List Char) : List Char := cs.reverse ++ out

/-- A key that fits on one line with its value: its text, if it is short and not a collection with
anything in it. -/
def shortKey? (key : Value) : Option (List Char) :=
  let isShort (size : Nat) : Bool := size ≤ 128
  let ofScalar (tagSize : Nat) (text : String) : Option (List Char) :=
    if text.toList.any breaksLine || !isShort (tagSize + text.utf8ByteSize) then none
    else some (scalarText 0 text)
  let ofLeaf (tagSize : Nat) (value : Value) : Option (List Char) :=
    match value with
    | .null => if isShort (tagSize + 4) then some "null".toList else none
    | .bool b => if isShort (tagSize + 5) then some (toString b).toList else none
    | .number n => if isShort (tagSize + n.text.length) then some n.text.toList else none
    | .string text => ofScalar tagSize text
    | .sequence [] => if isShort tagSize then some "[]".toList else none
    | .mapping [] => if isShort tagSize then some "\x7b\x7d".toList else none
    | _ => none
  match key with
  | .tagged name value =>
      (ofLeaf (1 + name.utf8ByteSize) value).map fun text => tagText name ++ ' ' :: text
  | value => ofLeaf 0 value

/-- Whether a value consists of one entry: a mapping that has no other, or a tag with what is under it. -/
def Value.isSingle : Value → Bool
  | .mapping [_] => true
  | .tagged _ _ => true
  | _ => false

mutual

/-- Write a node behind a text in reverse. Tags right under tags cannot be written. Nor can a mapping with
one entry whose key consists of one entry, unless a tag announces the mapping. -/
def writeNode (place : Place) (underTag : Bool) (out : List Char) : Value → Option (List Char)
  | .null => some (append (place.gap ++ "null".toList) out)
  | .bool b => some (append (place.gap ++ (toString b).toList) out)
  | .number n => some (append (place.gap ++ n.text.toList) out)
  | .string text => some (append (place.gap ++ scalarText place.inner text) out)
  | .sequence [] => some (append (place.gap ++ "[]".toList) out)
  | .sequence (item :: rest) =>
      writeItems place.items (firstLine place place.items out) (item :: rest)
  | .mapping [] => some (append (place.gap ++ "\x7b\x7d".toList) out)
  | .mapping (entry :: rest) =>
      if rest.isEmpty && entry.1.isSingle && !underTag then none
      else writeEntries place.entries (firstLine place place.entries out) (entry :: rest)
  | .tagged name value =>
      if underTag then none
      else writeNode place.afterTag true (append (place.gap ++ tagText name) out) value

/-- Write the items of a sequence, the first of them at the end of the text. -/
def writeItems (column : Nat) (out : List Char) : List Value → Option (List Char)
  | [] => some out
  | item :: rest =>
      (writeNode ⟨some column, false, true, false⟩ false ('-' :: out) item).bind fun out =>
        writeItems column (if rest.isEmpty then out else newLine column out) rest

/-- Write the entries of a mapping, the first of them at the end of the text. Keys that do not fit
on one line are written as blocks of their own. -/
def writeEntries (column : Nat) (out : List Char) : List (Value × Value) → Option (List Char)
  | [] => some out
  | (key, value) :: rest =>
      let written :=
        match shortKey? key with
        | some text =>
            writeNode ⟨some column, true, false, false⟩ false (':' :: append text out) value
        | none =>
            (writeNode ⟨some column, true, true, false⟩ false ('?' :: out) key).bind fun out =>
              writeNode ⟨some column, true, true, false⟩ false (':' :: newLine column out) value
      written.bind fun out =>
        writeEntries column (if rest.isEmpty then out else newLine column out) rest

end

/-- The text of a value as a document, if it can be written. -/
def Value.text? (value : Value) : Option String :=
  (writeNode .root false [] value).map fun out => String.ofList (newLine 0 out).reverse

end NatGateway.Yaml
