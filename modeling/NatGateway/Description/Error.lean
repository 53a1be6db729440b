import NatGateway.Soap.Error
import NatGateway.Url.Basic

/-!
# Failures of a description

Everything that can go wrong while a description is fetched, read or used. The transport and the
markup explain themselves no further than by their kind.
-/

namespace NatGateway.Description

/-- Why a description could not be had or used. -/
inductive DescriptionError where
  | transport
  | status (code : Nat) (url : String)
  | malformed
  | unexpectedRoot (expected found : String)
  | missingElement (name : String)
  | invalidUrl (text : String) (cause : Url.UrlError)
  | unresolvedUrl (field : String)
  | invalidValue (element value : String)
  | soap (cause : Soap.SoapError)
  | cancelled
deriving DecidableEq

namespace DescriptionError

/-- A word for the kind of a failure, for callers that only tell kinds apart. -/
def kind : DescriptionError → String
  | .transport => "Http"
  | .status _ _ => "Status"
  | .malformed => "Xml"
  | .unexpectedRoot _ _ => "UnexpectedRoot"
  | .missingElement _ => "MissingField"
  | .invalidUrl _ _ => "Url"
  | .unresolvedUrl _ => "UnresolvedUrl"
  | .invalidValue _ _ => "InvalidValue"
  | .soap _ => "Soap"
  | .cancelled => "Cancelled"

/-- The wording of a failure; the transport, malformed markup and a failed action have none of their
own. -/
def message? : DescriptionError → Option String
  | .transport => none
  | .status code url =>
      some ("unexpected HTTP status " ++ toString code ++ " for " ++ url)
  | .malformed => none
  | .unexpectedRoot expected found =>
      some ("unexpected root element <" ++ found ++ ">, expected <" ++ expected ++ ">")
  | .missingElement name => some ("missing element <" ++ name ++ ">")
  | .invalidUrl text cause =>
      some ("invalid URL " ++ Text.quoted text ++ ": " ++ cause.message)
  | .unresolvedUrl field => some (field ++ " URL is not resolved")
  | .invalidValue element value =>
      some ("invalid value " ++ Text.quoted value ++ " for <" ++ element ++ ">")
  | .soap _ => none
  | .cancelled => some "description request cancelled"

end DescriptionError

end NatGateway.Description
