import NatGateway.Text.Ascii
import NatGateway.Text.Blank
import NatGateway.Text.Integer
import NatGateway.Text.Utf8

/-!
# Search responses

Reading a datagram as a response: a status line and headers. Header names are told apart without
regard to the case of ASCII letters, and of several headers of one name the first counts.
-/

namespace NatGateway.Ssdp

open NatGateway.Text (Bytes)

/-- A response to a search. The names of the headers are in upper case. -/
structure Response where
  status : Nat
  reason : String
  headers : List (String × String)
deriving DecidableEq

/-- The lines of a text. A line break at the end ends the last line and starts none. -/
def linesOf (cs : List Char) : List (List Char) :=
  let lines := Text.splitChars '\n' cs
  if lines.getLast? = some [] then lines.dropLast else lines

/-- Read the status line: a version of HTTP, a status, and a reason if there is one. -/
def readStatusLine (line : List Char) : Option (Nat × String) :=
  (Text.splitFirst? ' ' (Text.trimmed line)).bind fun (version, rest) =>
    if !Text.beginsWith (Text.upperAscii (String.ofList version)) "HTTP/" then none
    else
      let (status, reason) :=
        match Text.splitFirst? ' ' rest with
        | some (status, reason) => (status, Text.trimmed reason)
        | none => (rest, [])
      match Text.IntegerType.u16.read status with
      | .ok status => some (status.toNat, String.ofList reason)
      | .error _ => none

/-- Read a line as a header: its name in upper case, and its value. Lines without a colon and
headers without a name are none. -/
def readHeader (line : List Char) : Option (String × String) :=
  (Text.splitFirst? ':' (Text.trimmed line)).bind fun (name, value) =>
    let name := Text.trimmed name
    if name.isEmpty then none
    else some (Text.upperAscii (String.ofList name), String.ofList (Text.trimmed value))

/-- Read the headers up to the first blank line. -/
def readHeaders (lines : List (List Char)) : List (String × String) :=
  (lines.takeWhile fun line => !line.all Text.isBlank).filterMap readHeader

namespace Response

/-- Read a datagram as a response. -/
def ofBytes? (bytes : Bytes) : Option Response :=
  (Text.utf8Chars? bytes).bind fun cs =>
    match linesOf cs with
    | [] => none
    | first :: rest =>
        (readStatusLine first).map fun (status, reason) => ⟨status, reason, readHeaders rest⟩

/-- The value of the first header of a name; empty if there is none. -/
def header (response : Response) (name : String) : String :=
  (response.headers.lookup (Text.upperAscii name)).getD ""

/-- What the response is an answer to. -/
def searchType (response : Response) : String := response.header "ST"

/-- The name of what was found. -/
def uniqueName (response : Response) : String := response.header "USN"

/-- What the responder says of itself. -/
def server (response : Response) : String := response.header "SERVER"

/-- Where the description of what was found is. -/
def location (response : Response) : String := response.header "LOCATION"

end Response

end NatGateway.Ssdp
