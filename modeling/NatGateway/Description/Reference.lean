import NatGateway.Description.Error
import NatGateway.Text.Blank
import NatGateway.Url.Reader

/-!
# References in a description

A description refers to pages and services by texts that are resolved against the base of the
description. A reference keeps its text, so that it can be resolved again when the base changes.
-/

namespace NatGateway.Description

/-- A reference as it is written, and the URL it was resolved to. -/
structure Reference where
  raw : String
  url : Option Url
deriving DecidableEq

namespace Reference

/-- A reference before it is resolved. -/
def ofText (raw : String) : Reference := ⟨raw, none⟩

/-- The URL that a text denotes against a base. A text without a scheme that does not start with a
slash is taken from the root of the server. The blank text denotes nothing. -/
def resolve? (base : Url) (raw : String) : Option Url :=
  let text := Text.trim raw
  if text.isEmpty then none
  else if !Text.occursIn "://" text && !Text.beginsWith text "/" then
    (base.join ("/" ++ text)).toOption
  else (base.join text).toOption

/-- Resolve a reference anew. -/
def rebase (base : Url) (reference : Reference) : Reference :=
  { reference with url := resolve? base reference.raw }

/-- The URL of a reference, or a failure that names it. -/
def resolved (reference : Reference) (field : String) : Except DescriptionError Url :=
  match reference.url with
  | some url => .ok url
  | none => .error (.unresolvedUrl field)

end Reference

end NatGateway.Description
