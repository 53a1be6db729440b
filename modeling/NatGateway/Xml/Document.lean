import NatGateway.Xml.Content
import NatGateway.Xml.Doctype
import NatGateway.Xml.Encoding

/-!
# Documents

Reading bytes as a document: the encoding is settled by a byte order mark or the XML declaration,
the prolog is read for entities, and the content gives the root element. A document that is not
well formed, in its encoding or in its markup, gives nothing.
-/

namespace NatGateway.Xml

open NatGateway.Text (Bytes)

/-- What an XML declaration says. -/
structure XmlDeclaration where
  version : Version
  encoding : Option String

/-- Read `name = "value"` after white space, for a given name. -/
def readField? (name : String) (cs : List Char) : Option (String × List Char) :=
  match cs with
  | [] => none
  | s :: rest =>
      if isSpace s then
        match readAttribute .v10 [] (rest.dropWhile isSpace) with
        | some (attr, after) => if attr.name = ⟨none, name⟩ then some (attr.value, after) else none
        | none => none
      else none

/-- Read the end of an XML declaration. -/
def readDeclarationEnd (cs : List Char) : Option (List Char) :=
  match cs.dropWhile isSpace with
  | '?' :: '>' :: after => some after
  | _ => none

/-- Read an XML declaration after its keyword: the version, then perhaps the encoding, then perhaps
whether the document stands alone. -/
def readXmlDeclaration (cs : List Char) : Option (XmlDeclaration × List Char) :=
  (readField? "version" cs).bind fun (version, rest) =>
    let (encoding, rest) :=
      match readField? "encoding" rest with
      | some (encoding, rest) => (some encoding, rest)
      | none => (none, rest)
    let (standalone, rest) :=
      match readField? "standalone" rest with
      | some (standalone, rest) => (standalone, rest)
      | none => ("yes", rest)
    if standalone = "yes" || standalone = "no" then
      (readDeclarationEnd rest).bind fun after =>
        if version = "1.0" then some (⟨.v10, encoding⟩, after)
        else if version = "1.1" then some (⟨.v11, encoding⟩, after)
        else none
    else none

/-- Read the XML declaration that a document may start with. A document without one is in version
1.0 and names no encoding. -/
def readHead (cs : List Char) : Option (XmlDeclaration × List Char) :=
  match cs with
  | '<' :: '?' :: 'x' :: 'm' :: 'l' :: c :: rest =>
      if isNameChar c then some (⟨.v10, none⟩, cs) else readXmlDeclaration (c :: rest)
  | _ => some (⟨.v10, none⟩, cs)

/-- The encoding of a document under its byte order mark, if it has one, and the name it declares.
Sixteen-bit encodings need the mark, and a declared name must not contradict it. -/
def settleEncoding (marked : Option Encoding) (declared : Option String) : Option Encoding :=
  match declared with
  | none => some (marked.getD .utf8)
  | some name =>
      match EncodingLabel.ofName? name, marked with
      | some .utf8, none => some .utf8
      | some .latin1, none => some .latin1
      | some .ascii, none => some .ascii
      | some .utf8, some .utf8 => some .utf8
      | some .utf16, some .utf16BigEndian => some .utf16BigEndian
      | some .utf16, some .utf16LittleEndian => some .utf16LittleEndian
      | _, _ => none

/-- The characters of a document after its XML declaration, and its version. The declaration is
first read byte by byte to learn the encoding, unless a mark has given it away. -/
def readBytes (bytes : Bytes) : Option (Version × List Char) :=
  let (marked, bytes) :=
    match markedEncoding bytes with
    | some (encoding, bytes) => (some encoding, bytes)
    | none => (none, bytes)
  (((marked.getD .latin1).chars? bytes).bind readHead).bind fun (declaration, _) =>
    (settleEncoding marked declaration.encoding).bind fun encoding =>
      ((encoding.chars? bytes).bind readHead).map fun (declaration, rest) =>
        (declaration.version, rest)

/-- Skip white space, comments and instructions, as far as they are well formed. -/
def skipMisc (version : Version) (cs : List Char) : List Char :=
  match cs with
  | '<' :: '!' :: '-' :: '-' :: rest =>
      match h : readComment version rest with
      | some (_, after) =>
          have := readComment_length h
          skipMisc version after
      | none => cs
  | '<' :: '?' :: rest =>
      match h : readInstruction version rest with
      | some (_, _, after) =>
          have := readInstruction_length h
          skipMisc version after
      | none => cs
  | c :: rest => if isSpace c then skipMisc version rest else cs
  | [] => []
termination_by cs.length

/-- Read the rest of a document: the prolog, with a document type declaration at most, and the
content. -/
def readDocument (version : Version) (cs : List Char) : Option Element :=
  match skipMisc version cs with
  | '<' :: '!' :: 'D' :: 'O' :: 'C' :: 'T' :: 'Y' :: 'P' :: 'E' :: rest =>
      (readDoctype version [] (.ofChars rest)).bind fun (entities, input) =>
        Content.start.read version entities input
  | _ => Content.start.read version [] (.ofChars cs)

/-- The root element of a document in bytes; nothing if the document is not well formed. -/
def Element.ofBytes? (bytes : Bytes) : Option Element :=
  (readBytes bytes).bind fun (version, cs) => readDocument version cs

end NatGateway.Xml
