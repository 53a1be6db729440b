import NatGateway.Yaml.Token

/-!
# Tags and directives

A tag says what kind of value a node is. It is written in full, or as a handle and a suffix; what a
handle stands for is said by directives at the start of the document.
-/

namespace NatGateway.Yaml

open NatGateway.Text (Bytes)

/-- Whether a character may stand in the suffix of a tag. In a tag that is written in full some
indicators may stand there too. -/
def isTagChar (full : Bool) (c : Char) : Bool :=
  isNameChar c || ";/?:@&=+$.%!~*'()".toList.contains c || (full && [',', '[', ']'].contains c)

/-- How many bytes a character takes that starts with a byte; none if no character does. -/
def widthOf (byte : Nat) : Nat :=
  if byte < 0x80 then 1
  else if 0xC0 ≤ byte && byte < 0xE0 then 2
  else if 0xE0 ≤ byte && byte < 0xF0 then 3
  else if 0xF0 ≤ byte && byte < 0xF8 then 4
  else 0

/-- Read bytes that are written as percent signs and hexadecimal digits: so many bytes of one
character, of which only the first may be no continuation. -/
def readEscapedBytes (first : Bool) : Nat → List Char → Option (Bytes × List Char)
  | 0, cs => some ([], cs)
  | count + 1, '%' :: a :: b :: rest =>
      (ofBase? 16 [a, b]).bind fun byte =>
        if !first && (byte < 0x80 || 0xC0 ≤ byte) then none
        else
          (readEscapedBytes false count rest).map fun (bytes, rest) =>
            (UInt8.ofNat byte :: bytes, rest)
  | _ + 1, _ => none

/-- Read an escaped character, whose first byte says how many there are. -/
def readEscapedChar (cs : List Char) : Option (Bytes × List Char) :=
  match cs with
  | '%' :: a :: b :: _ =>
      (ofBase? 16 [a, b]).bind fun byte =>
        if widthOf byte = 0 then none else readEscapedBytes true (widthOf byte) cs
  | _ => none

/-- The bytes of a suffix, in which characters may be escaped. -/
def suffixBytes? : Nat → List Char → Option Bytes
  | 0, _ => none
  | _ + 1, [] => some []
  | fuel + 1, '%' :: rest =>
      (readEscapedChar ('%' :: rest)).bind fun (bytes, rest) =>
        (suffixBytes? fuel rest).map (bytes ++ ·)
  | fuel + 1, c :: rest => (suffixBytes? fuel rest).map (Text.utf8Bytes c.toString ++ ·)

/-- Read a suffix: its bytes, and whether it is empty. -/
def readSuffix (full : Bool) (cursor : Cursor) : Option (Bytes × Cursor) :=
  let (taken, cursor) := cursor.takeWhile (isTagChar full)
  (suffixBytes? (taken.length + 1) taken).map fun bytes => (bytes, cursor)

/-- Read a handle: an exclamation mark, or a word between two of them. It may also be that the word
does not end with a mark. -/
def readHandle (cursor : Cursor) : Option (List Char × Cursor) :=
  if cursor.peek != some '!' then none
  else
    let (word, cursor) := cursor.next.takeWhile isNameChar
    if cursor.peek = some '!' then some ('!' :: word ++ ['!'], cursor.next)
    else some ('!' :: word, cursor)

/-- Read a tag in its short form. A word behind the mark that is no handle belongs to the suffix,
and a mark alone is a suffix without a handle. -/
def readShortTag (cursor : Cursor) : Option (Token × Cursor) :=
  (readHandle cursor).bind fun (handle, cursor) =>
    (readSuffix false cursor).bind fun (suffix, cursor) =>
      if 2 ≤ handle.length && handle.getLast? = some '!' then
        if suffix.isEmpty then none else some (.tag handle suffix, cursor)
      else
        let suffix := Text.utf8Bytes (String.ofList (handle.drop 1)) ++ suffix
        if suffix.isEmpty then some (.tag [] (Text.utf8Bytes "!"), cursor)
        else some (.tag ['!'] suffix, cursor)

/-- Read a tag that is written in full. -/
def readFullTag (cursor : Cursor) : Option (Token × Cursor) :=
  (readSuffix true (cursor.advance 2)).bind fun (suffix, cursor) =>
    if suffix.isEmpty || cursor.peek != some '>' then none
    else some (.tag [] suffix, cursor.next)

/-- Read a tag. A blank follows it, or a comma in a flow collection. -/
def readTag (inFlow : Bool) (cursor : Cursor) : Option (Token × Cursor) :=
  let read :=
    if cursor.peekAt 1 = some '<' then readFullTag cursor else readShortTag cursor
  read.bind fun (token, cursor) =>
    if endsWord cursor.peek || (inFlow && cursor.peek = some ',') then some (token, cursor)
    else none

/-- Read a number of a version. It has nine digits at most. -/
def readVersionNumber (cursor : Cursor) : Option (List Char × Cursor) :=
  let (digits, cursor) := cursor.takeWhile Char.isDigit
  if digits.isEmpty || 9 < digits.length then none else some (digits, cursor)

/-- Read the rest of a directive about the version. -/
def readVersion (cursor : Cursor) : Option (Token × Cursor) :=
  (readVersionNumber cursor).bind fun (major, cursor) =>
    if cursor.peek != some '.' then none
    else
      (readVersionNumber cursor.next).map fun (minor, cursor) =>
        (.versionDirective major minor, cursor)

/-- Read the rest of a directive about a handle. -/
def readHandleMeaning (cursor : Cursor) : Option (Token × Cursor) :=
  (readHandle cursor).bind fun (handle, cursor) =>
    if handle != ['!'] && handle.getLast? != some '!' then none
    else if !cursor.peek.any isGapChar then none
    else
      (readSuffix true cursor.skipGap).bind fun (start, cursor) =>
        if start.isEmpty || !endsWord cursor.peek then none
        else some (.tagDirective handle start, cursor)

/-- Read a directive up to the end of its line. -/
def readDirective (cursor : Cursor) : Option (Token × Cursor) :=
  let (name, cursor) := cursor.next.takeWhile isNameChar
  let read :=
    if !endsWord cursor.peek then none
    else if name = "YAML".toList then readVersion cursor.skipGap
    else if name = "TAG".toList then readHandleMeaning cursor.skipGap
    else none
  read.bind fun (token, cursor) =>
    let cursor := cursor.skipGap.skipComment
    if !endsLine cursor.peek then none
    else some (token, if cursor.peek.isSome then cursor.next else cursor)

namespace Lexer

/-- A directive. -/
def directive (lexer : Lexer) : Option Lexer :=
  lexer.toOutermost.bind fun lexer =>
    (readDirective lexer.cursor).map fun (token, cursor) =>
      { lexer with cursor := cursor }.push token

/-- A mark where a document starts or ends. -/
def documentMark (lexer : Lexer) (token : Token) : Option Lexer :=
  lexer.toOutermost.map fun lexer => (lexer.skip 3).push token

/-- A tag. -/
def tag (lexer : Lexer) : Option Lexer :=
  lexer.saveKey.bind fun lexer =>
    (readTag lexer.inFlow lexer.cursor).map fun (token, cursor) =>
      ({ lexer with cursor := cursor }.allowKey false).push token

/-- Whether a plain scalar may start with a character before another. -/
def startsPlain (inFlow : Bool) (c : Char) (following : Option Char) : Bool :=
  (!isGapChar c && !"-?:,[]\x7b\x7d#&*!|>'\"%@\x60".toList.contains c) ||
    (c == '-' && !following.any isGapChar) ||
    (!inFlow && (c == '?' || c == ':') && !endsWord following)

/-- The token that starts with a character. -/
def tokenAt (lexer : Lexer) (c : Char) : Option Lexer :=
  let cursor := lexer.cursor
  let following := cursor.peekAt 1
  if cursor.column == 0 && c == '%' then lexer.directive
  else if cursor.startsMark '-' then lexer.documentMark .documentStart
  else if cursor.startsMark '.' then lexer.documentMark .documentEnd
  else
    match c with
    | '[' => lexer.flowStart .flowSequenceStart
    | '{' => lexer.flowStart .flowMappingStart
    | ']' => lexer.flowEnd .flowSequenceEnd
    | '}' => lexer.flowEnd .flowMappingEnd
    | ',' => lexer.indicator .flowEntry true
    | '*' => lexer.named .alias
    | '&' => lexer.named .anchor
    | '!' => lexer.tag
    | '\'' => lexer.quoted true
    | '"' => lexer.quoted false
    | c =>
        if c == '-' && endsWord following then
          lexer.blockIndicator .blockSequenceStart .blockEntry
        else if c == '?' && (lexer.inFlow || endsWord following) then
          lexer.blockIndicator .blockMappingStart .key
        else if c == ':' && (lexer.inFlow || endsWord following) then lexer.colon
        else if (c == '|' || c == '>') && !lexer.inFlow then lexer.block (c == '|')
        else if startsPlain lexer.inFlow c following then lexer.plain
        else none

/-- Read tokens up to the end. -/
def run : Nat → Lexer → Option Lexer
  | 0, _ => none
  | fuel + 1, lexer =>
      let lexer := lexer.toNextToken lexer.size
      let lexer := lexer.unindent lexer.cursor.column
      match lexer.cursor.peek with
      | none => lexer.toOutermost.map (·.push .streamEnd)
      | some c => (lexer.tokenAt c).bind (run fuel)

end Lexer

/-- The tokens of a document. -/
def tokens? (cs : List Char) : Option (List Token) :=
  let lexer := Lexer.start cs
  (lexer.run lexer.size).map (·.allTokens)

end NatGateway.Yaml
