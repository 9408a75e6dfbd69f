import ApronSaml.Models
import ApronSaml.Library.Base64
import ApronSaml.Library.Html
import ApronSaml.Library.Query
import ApronSaml.Library.UrlRebuild

/-!
# Authentication requests and their two encodings

The HTTP-Redirect encoding compresses the request, encodes it in base64 and adds it to the
query of the destination, next to the destination's own parameters. The HTTP-POST encoding
is a form that submits itself, with the request in base64 as a hidden field. Both carry the
relay state when there is one. The raw DEFLATE compressor is a parameter.
-/

namespace ApronSaml

open Raising TextEncoding

/-- A built authentication request ready to send to the identity provider. -/
structure AuthnRequest where
  requestId : String
  xml : String
  destination : String
  relayState : Option String

/-- The message parameters of the HTTP-Redirect binding. -/
def AuthnRequest.params (deflate : List UInt8 → List UInt8) (request : AuthnRequest) : List (String × String) :=
  ("SAMLRequest", Base64.b64encode (deflate (utf8Encode request.xml))) ::
    request.relayState.toList.map fun relayState => ("RelayState", relayState)

/-- `urlsplit(value)`; its failures are `ValueError`s. -/
def urlsplit (tables : Url.Tables) (value : String) : Py Url.SplitResult :=
  (Url.urlsplit tables value).mapError fun _ => .valueError "malformed authority"

/-- `redirect_url()`. -/
def AuthnRequest.redirectUrl (tables : Url.Tables) (deflate : List UInt8 → List UInt8) (request : AuthnRequest) :
    Py String := do
  let parts ← urlsplit tables request.destination
  let query := Query.urlencode (Query.parseQsl false parts.query ++ request.params deflate)
  .ok (Url.urlunsplit { parts with query := query })

/-- One hidden field of the form. -/
def hiddenField (name value : String) : String :=
  "<input type=\"hidden\" name=\"" ++ name ++ "\" value=\"" ++ Html.escape value ++ "\"/>"

/-- `post_form()`. -/
def AuthnRequest.postForm (request : AuthnRequest) : String :=
  let payload := Base64.b64encode (utf8Encode request.xml)
  let fields := hiddenField "SAMLRequest" payload :: request.relayState.toList.map (hiddenField "RelayState")
  let action := Html.escape request.destination
  "<form id=\"saml-post-form\" method=\"post\" action=\"" ++ action ++ "\">" ++ String.join fields ++
    "<input type=\"submit\" value=\"Continue\"/>" ++ "</form>" ++
    "<script>document.getElementById('saml-post-form').submit();</script>"

end ApronSaml
