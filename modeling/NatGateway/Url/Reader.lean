import NatGateway.Url.Host

/-!
# Reading URLs

A text is read as a URL by itself, or as a reference against a base. White space and controls around
it are dropped, and tabs and line breaks anywhere. The special schemes name a server and take a
backslash for a slash; `file` is special but may lack a server.
-/

namespace NatGateway

namespace Url

/-- How a scheme is read. -/
inductive SchemeKind where
  | file
  | server
  | general
deriving DecidableEq

/-- The kind of a scheme. -/
def SchemeKind.of (scheme : String) : SchemeKind :=
  if scheme = "file" then .file
  else if ["http", "https", "ws", "wss", "ftp"].contains scheme then .server
  else .general

/-- Whether a backslash counts as a slash. -/
def SchemeKind.isSpecial : SchemeKind → Bool
  | .general => false
  | _ => true

/-- The port that a scheme implies. -/
def impliedPort? (scheme : String) : Option Nat :=
  if scheme = "http" || scheme = "ws" then some 80
  else if scheme = "https" || scheme = "wss" then some 443
  else if scheme = "ftp" then some 21
  else none

/-- The characters of a text that count. -/
def significant (text : String) : List Char :=
  let isDropped (c : Char) : Bool := c.toNat ≤ 0x20
  (((text.toList.dropWhile isDropped).reverse.dropWhile isDropped).reverse).filter fun c =>
    c != '\t' && c != '\n' && c != '\r'

/-- The characters a scheme goes on with. -/
def isSchemeChar (c : Char) : Bool := c.isAlphanum || c == '+' || c == '-' || c == '.'

/-- Read a scheme with its colon. -/
def readScheme (cs : List Char) : Option (String × List Char) :=
  match cs with
  | c :: _ =>
      if c.isAlpha then
        match cs.dropWhile isSchemeChar with
        | ':' :: rest =>
            some (String.ofList ((cs.takeWhile isSchemeChar).map Char.toLower), rest)
        | _ => none
      else none
  | [] => none

/-- Whether a character separates segments of a path. -/
def isSlash (kind : SchemeKind) (c : Char) : Bool := c == '/' || (kind.isSpecial && c == '\\')

/-- Whether a character is a slash in a reference to a base. -/
def isAnySlash (c : Char) : Bool := c == '/' || c == '\\'

/-- Whether a character ends a path. -/
def endsPath (c : Char) : Bool := c == '?' || c == '#'

/-- The query and the fragment after a path. -/
structure Ending where
  query : Option String
  fragment : Option String

/-- Read a fragment after its number sign. -/
def readFragment (cs : List Char) : String := percentEncode encodedInFragment cs

/-- Read the query and the fragment. -/
def readEnding (kind : SchemeKind) : List Char → Ending
  | '?' :: rest =>
      let query := percentEncode (encodedInQuery kind.isSpecial) (rest.takeWhile (· != '#'))
      match rest.dropWhile (· != '#') with
      | _ :: fragment => ⟨some query, some (readFragment fragment)⟩
      | [] => ⟨some query, none⟩
  | '#' :: rest => ⟨none, some (readFragment rest)⟩
  | _ => ⟨none, none⟩

/-- Cut a path into its segments. -/
def segmentsOf (kind : SchemeKind) : List Char → List (List Char)
  | [] => [[]]
  | c :: rest =>
      if isSlash kind c then [] :: segmentsOf kind rest
      else
        match segmentsOf kind rest with
        | segment :: segments => (c :: segment) :: segments
        | [] => [[c]]

/-- Whether a segment stays where it is. -/
def isSingleDot (segment : String) : Bool :=
  segment = "." || Text.sameIgnoringCase segment "%2e"

/-- Whether a segment goes up. -/
def isDoubleDot (segment : String) : Bool :=
  [".", "%2e"].any fun a => [".", "%2e"].any fun b => Text.sameIgnoringCase segment (a ++ b)

/-- Whether two characters name a drive. -/
def isDrive : List Char → Bool
  | [a, b] => a.isAlpha && (b == ':' || b == '|')
  | _ => false

/-- Whether a segment names a drive in its normal form. -/
def isNormalDrive (segment : String) : Bool :=
  match segment.toList with
  | [a, b] => a.isAlpha && b == ':'
  | _ => false

/-- Whether characters start with a segment that names a drive. -/
def startsWithDrive : List Char → Bool
  | [a, b] => isDrive [a, b]
  | a :: b :: c :: _ => isDrive [a, b] && (isAnySlash c || endsPath c)
  | _ => false

/-- Remove the last segment; a drive stays. -/
def shorten (kind : SchemeKind) (segments : List String) : List String :=
  match kind, segments with
  | .file, [segment] => if isNormalDrive segment then [segment] else []
  | _, segments => segments.dropLast

/-- Write a segment as it is kept. -/
def writtenSegment (kind : SchemeKind) (segment : List Char) : String :=
  match kind, segment with
  | .file, [a, b] =>
      if isDrive [a, b] then String.ofList [a, ':'] else percentEncode encodedInPath [a, b]
  | _, segment => percentEncode encodedInPath segment

/-- Append segments one by one, where dots are steps. A last segment that is a step leaves an empty
segment behind. -/
def appendSegments (kind : SchemeKind) (path : List String) : List (List Char) → List String
  | [] => path
  | segment :: rest =>
      let written := writtenSegment kind segment
      let last (segments : List String) : List String :=
        if rest.isEmpty then segments ++ [""] else segments
      if isDoubleDot written then appendSegments kind (last (shorten kind path)) rest
      else if isSingleDot written then appendSegments kind (last path) rest
      else appendSegments kind (path ++ [written]) rest

/-- A file path keeps no empty segments at its start, except when nothing else is there. -/
def tidy (kind : SchemeKind) (segments : List String) : List String :=
  match kind with
  | .file =>
      let kept := segments.dropWhile (·.isEmpty)
      if kept.isEmpty then [""] else kept
  | _ => segments

/-- Read a path up to the query or fragment, after segments that are there already. -/
def readPath (kind : SchemeKind) (path : List String) (cs : List Char) : Path × List Char :=
  (.segments (tidy kind (appendSegments kind path
      (segmentsOf kind (cs.takeWhile fun c => !endsPath c)))),
    cs.dropWhile fun c => !endsPath c)

/-- A URL from what is in front of its path, and a path to be read after some segments. -/
def withPath (scheme : String) (authority : Option Authority) (path : List String)
    (cs : List Char) : Url :=
  let kind := SchemeKind.of scheme
  let (path, rest) := readPath kind path cs
  let ending := readEnding kind rest
  ⟨scheme, authority, path, ending.query, ending.fragment⟩

/-- Read the path that follows an authority. Special schemes always have one. -/
def withPathStart (scheme : String) (authority : Authority) (cs : List Char) : Url :=
  let kind := SchemeKind.of scheme
  match cs with
  | c :: rest =>
      if isSlash kind c then withPath scheme (some authority) [] rest
      else if kind.isSpecial || !endsPath c then withPath scheme (some authority) [] cs
      else
        let ending := readEnding kind cs
        ⟨scheme, some authority, .segments [], ending.query, ending.fragment⟩
  | [] => ⟨scheme, some authority, .segments (if kind.isSpecial then [""] else []), none, none⟩

/-- Whether a character ends an authority. -/
def endsAuthority (kind : SchemeKind) (c : Char) : Bool := isSlash kind c || endsPath c

/-- Cut a list at the last occurrence of a separator. -/
def splitLast? (separator : Char) (cs : List Char) : Option (List Char × List Char) :=
  (Text.splitFirst? separator cs.reverse).map fun (after, before) =>
    (before.reverse, after.reverse)

/-- The end of a host: a colon outside brackets. -/
def hostLength : Bool → List Char → Nat
  | _, [] => 0
  | inBrackets, c :: rest =>
      if c = ':' && !inBrackets then 0
      else hostLength (if c = '[' then true else if c = ']' then false else inBrackets) rest + 1

/-- Read a port up to the end of the authority; the implied one is left out. -/
def readPort (scheme : String) (cs : List Char) : Except UrlError (Option Nat) :=
  if !cs.all Char.isDigit then .error .port
  else if cs.isEmpty then .ok none
  else
    let port := numberOf 10 cs
    if 0xFFFF < port then .error .port
    else .ok (if impliedPort? scheme = some port then none else some port)

/-- Read a host with its port. Only schemes that are not special may leave the host empty, and then
there is no port. -/
def readServer (scheme : String) (cs : List Char) :
    Except UrlError (Option Host × Option Nat) :=
  let length := hostLength false cs
  let name := cs.take length
  let host :=
    if (SchemeKind.of scheme).isSpecial then
      if name.isEmpty then .error .emptyHost else (readHost name).map some
    else readOpaqueHost name
  host.bind fun host =>
    match cs.drop length with
    | [] => .ok (host, none)
    | _ :: port =>
        if host.isNone then .error .emptyHost
        else (readPort scheme port).map fun port => (host, port)

/-- Read the name and password of a user. -/
def readUser (cs : List Char) : String × String :=
  match Text.splitFirst? ':' cs with
  | some (name, password) =>
      (percentEncode encodedInUser name, percentEncode encodedInUser password)
  | none => (percentEncode encodedInUser cs, "")

/-- Read an authority: a user before the last at sign, then the host and the port. A user needs a
host. -/
def readAuthority (scheme : String) (cs : List Char) : Except UrlError Authority :=
  match splitLast? '@' cs with
  | none => (readServer scheme cs).map fun (host, port) => ⟨"", "", host, port⟩
  | some (user, server) =>
      let (username, password) := readUser user
      (readServer scheme server).bind fun (host, port) =>
        if host.isNone && !(username.isEmpty && password.isEmpty) then .error .emptyHost
        else .ok ⟨username, password, host, port⟩

/-- How far an authority goes in what stands in front of a path: a backslash behind the port ends it as
well, whatever the scheme. -/
def authorityLength (cs : List Char) : Nat :=
  let user := ((splitLast? '@' cs).map fun (user, _) => user.length + 1).getD 0
  let host := user + hostLength false (cs.drop user)
  host + ((cs.drop host).takeWhile (· != '\\')).length

/-- Read what follows the two slashes of a URL. A lone at sign is no authority in front of more. -/
def afterSlashes (scheme : String) (cs : List Char) : Except UrlError Url :=
  let ends := endsAuthority (SchemeKind.of scheme)
  let length := authorityLength (cs.takeWhile fun c => !ends c)
  let server := cs.take length
  let rest := cs.drop length
  if server = ['@'] && !rest.isEmpty then .error .emptyHost
  else (readAuthority scheme server).map fun authority => withPathStart scheme authority rest

/-- Read what follows a scheme that is not special. -/
def readGeneral (scheme : String) (cs : List Char) : Except UrlError Url :=
  match cs with
  | '/' :: '/' :: rest => afterSlashes scheme rest
  | '/' :: rest => .ok (withPath scheme none [] rest)
  | _ =>
      let ending := readEnding .general (cs.dropWhile fun c => !endsPath c)
      .ok ⟨scheme, none, .bare (percentEncode isControl (cs.takeWhile fun c => !endsPath c)),
        ending.query, ending.fragment⟩

/-- A base without its fragment, under a new fragment. -/
def withFragment (base : Url) (fragment : List Char) : Url :=
  { base with fragment := some (readFragment fragment) }

/-- The segments of the path of a base. -/
def segmentsOfBase (base : Url) : List String :=
  match base.path with
  | .segments list => list
  | .bare _ => []

/-- The authority of a file on no server. -/
def noServer : Authority := ⟨"", "", none, none⟩

/-- Read the server of a file: empty for the local machine. -/
def readFileHost (cs : List Char) : Except UrlError (Option Host) :=
  if cs.isEmpty then .ok none
  else
    (readHost cs).map fun host =>
      if host = .domain "localhost" then none else some host

/-- Drop the server of a file on a drive. -/
def dropServer (url : Url) : Url :=
  if (segmentsOfBase url).any isNormalDrive then { url with authority := some noServer } else url

/-- Read what follows two slashes of a file. A drive is no server, and is on none. -/
def readFileServer (cs : List Char) : Except UrlError Url :=
  let ends (c : Char) : Bool := isAnySlash c || endsPath c
  let name := cs.takeWhile fun c => !ends c
  if isDrive name then .ok (withPath "file" (some noServer) [] cs)
  else
    (readFileHost name).map fun host =>
      match host with
      | none => withPath "file" (some noServer) [] (cs.dropWhile fun c => !ends c)
      | some host =>
          dropServer
            (withPathStart "file" ⟨"", "", some host, none⟩ (cs.dropWhile fun c => !ends c))

/-- Read what follows one slash of a file: the server of the base stays, or its drive. -/
def readFileRoot (base : Option Url) (cs : List Char) : Url :=
  let plain := withPath "file" (some noServer) [] cs
  if startsWithDrive cs then plain
  else
    match base with
    | none => plain
    | some base =>
        match segmentsOfBase base with
        | first :: _ =>
            if isNormalDrive first then withPath "file" (some noServer) [first] cs
            else withPath "file" base.authority [] cs
        | [] => withPath "file" base.authority [] cs

/-- Read a reference to a file against a base that is a file, or none. -/
def readFile (base : Option Url) (cs : List Char) : Except UrlError Url :=
  match cs with
  | a :: b :: rest =>
      if isAnySlash a && isAnySlash b then readFileServer rest
      else if isAnySlash a then .ok (readFileRoot base (b :: rest))
      else .ok (readFileName base cs)
  | [a] => .ok (if isAnySlash a then readFileRoot base [] else readFileName base [a])
  | [] => .ok (readFileName base [])
where
  /-- Read a reference that does not start with a slash. -/
  readFileName (base : Option Url) (cs : List Char) : Url :=
    match base with
    | none => withPath "file" (some noServer) [] cs
    | some base =>
        match cs with
        | [] => { base with fragment := none }
        | '#' :: rest => base.withFragment rest
        | '?' :: _ =>
            let ending := readEnding .file cs
            { base with query := ending.query, fragment := ending.fragment }
        | _ =>
            if startsWithDrive cs then withPath "file" (some noServer) [] cs
            else withPath "file" base.authority (shorten .file (segmentsOfBase base)) cs

/-- Read a reference against a base that has a path of segments. -/
def readRelative (base : Url) (cs : List Char) : Except UrlError Url :=
  match cs with
  | [] => .ok { base with fragment := none }
  | '#' :: rest => .ok (base.withFragment rest)
  | '?' :: _ =>
      let ending := readEnding (.of base.scheme) cs
      .ok { base with query := ending.query, fragment := ending.fragment }
  | '/' :: '/' :: rest => afterSlashes base.scheme rest
  | c :: rest =>
      if isAnySlash c then
        match rest with
        | d :: _ =>
            if isAnySlash d then afterSlashes base.scheme (rest.dropWhile isAnySlash)
            else .ok (withPath base.scheme base.authority [] rest)
        | [] => .ok (withPath base.scheme base.authority [] [])
      else .ok (withPath base.scheme base.authority (segmentsOfBase base).dropLast cs)

/-- Read what follows a special scheme. One slash or none after the scheme of the base makes a
reference to it. -/
def readSpecial (base : Option Url) (scheme : String) (cs : List Char) : Except UrlError Url :=
  let absolute := afterSlashes scheme (cs.dropWhile isAnySlash)
  match base with
  | none => absolute
  | some base =>
      if (cs.takeWhile isAnySlash).length < 2 && base.scheme = scheme then readRelative base cs
      else absolute

/-- The base of a file, if it is a file too. -/
def fileBase (base : Option Url) : Option Url := base.filter (·.scheme = "file")

/-- Read a text as a URL, or as a reference against a base. -/
def read (base : Option Url) (text : String) : Except UrlError Url :=
  let cs := significant text
  match readScheme cs with
  | some (scheme, rest) =>
      match SchemeKind.of scheme with
      | .file => readFile (fileBase base) rest
      | .server => readSpecial base scheme rest
      | .general => readGeneral scheme rest
  | none =>
      match base with
      | none => .error .relativeWithoutBase
      | some base =>
          match cs with
          | '#' :: rest => .ok (base.withFragment rest)
          | _ =>
              if base.isBare then .error .relativeWithBareBase
              else if base.scheme = "file" then readFile (some base) cs
              else readRelative base cs

/-- Read a text as a URL by itself. -/
def ofText (text : String) : Except UrlError Url := read none text

/-- Resolve a reference against a base. -/
def join (base : Url) (reference : String) : Except UrlError Url := read (some base) reference

end Url

end NatGateway
