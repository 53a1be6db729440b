import NatGateway.Net.Ipv6

/-!
# URLs

A URL by its components, and its text. The path is either a sequence of segments or, for schemes
that name no place, a bare text. All components are kept in the percent-encoded form in which
they are written.
-/

namespace NatGateway

namespace Url

open NatGateway.Net (Ipv4 Ipv6)

/-- The host of a URL. -/
inductive Host where
  | domain (name : String)
  | ipv4 (address : Ipv4)
  | ipv6 (address : Ipv6)
deriving DecidableEq

/-- The text of a host; IPv6 addresses stand in brackets. -/
def Host.text : Host → String
  | .domain name => name
  | .ipv4 address => address.text
  | .ipv6 address => "[" ++ address.plainText ++ "]"

/-- The server of a URL. Without a host the others are absent too; a port that the scheme implies
is left out. -/
structure Authority where
  username : String
  password : String
  host : Option Host
  port : Option Nat
deriving DecidableEq

/-- The text of an authority, without its slashes. -/
def Authority.text (authority : Authority) : String :=
  let password := if authority.password.isEmpty then "" else ":" ++ authority.password
  let user := authority.username ++ password
  (if user.isEmpty then "" else user ++ "@") ++
    (match authority.host with
      | some host => host.text
      | none => "") ++
    (match authority.port with
      | some port => ":" ++ Text.decimal port
      | none => "")

/-- The path of a URL: a bare text, or segments that follow slashes. -/
inductive Path where
  | bare (text : String)
  | segments (list : List String)
deriving DecidableEq

/-- The text of a path: every segment follows a slash. -/
def Path.text : Path → String
  | .bare text => text
  | .segments list => String.join (list.map ("/" ++ ·))

/-- Why a text is not a URL. -/
inductive UrlError where
  | emptyHost
  | domainName
  | port
  | ipv4
  | ipv6
  | domainCharacter
  | relativeWithoutBase
  | relativeWithBareBase
deriving DecidableEq

/-- The wording of a URL error. -/
def UrlError.message : UrlError → String
  | .emptyHost => "empty host"
  | .domainName => "invalid international domain name"
  | .port => "invalid port number"
  | .ipv4 => "invalid IPv4 address"
  | .ipv6 => "invalid IPv6 address"
  | .domainCharacter => "invalid domain character"
  | .relativeWithoutBase => "relative URL without a base"
  | .relativeWithBareBase => "relative URL with a cannot-be-a-base base"

end Url

/-- A URL by its components. -/
structure Url where
  scheme : String
  authority : Option Url.Authority
  path : Url.Path
  query : Option String
  fragment : Option String
deriving DecidableEq

namespace Url

/-- The host of a URL, if it has one. -/
def host? (url : Url) : Option Host := url.authority.bind (·.host)

/-- Whether the path is a bare text, so that nothing can be resolved against the URL. -/
def isBare (url : Url) : Bool :=
  match url.path with
  | .bare _ => true
  | .segments _ => false

/-- What stands between the scheme and the path. A path that starts with two slashes is kept apart
from the scheme by a dot, so that it is not taken for an authority. -/
def lead (url : Url) : String :=
  match url.authority, url.path with
  | some authority, _ => "//" ++ authority.text
  | none, .segments ("" :: _ :: _) => "/."
  | none, _ => ""

/-- The text of a URL. -/
def text (url : Url) : String :=
  url.scheme ++ ":" ++ url.lead ++ url.path.text ++
    (match url.query with
      | some query => "?" ++ query
      | none => "") ++
    (match url.fragment with
      | some fragment => "#" ++ fragment
      | none => "")

end Url

end NatGateway
