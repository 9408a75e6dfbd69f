import ApronSaml.Environment

/-!
# Identity-provider metadata

The entity ID, the single sign-on URL and the signing certificates a service provider
needs are read from a metadata document: the first two from the object model, the
certificates from a second parse of the document itself.
-/

namespace ApronSaml

open Raising Whitespace ElementTree

/-- The namespace of SAML metadata. -/
def mdNs : String := "urn:oasis:names:tc:SAML:2.0:metadata"

/-- `saml2.BINDING_HTTP_REDIRECT` -/
def bindingHttpRedirect : String := "urn:oasis:names:tc:SAML:2.0:bindings:HTTP-Redirect"

/-- `saml2.BINDING_HTTP_POST` -/
def bindingHttpPost : String := "urn:oasis:names:tc:SAML:2.0:bindings:HTTP-POST"

/-- Bindings usable for an authentication request, in preference order. -/
def ssoBindingPreference : List String := [bindingHttpRedirect, bindingHttpPost]

/-- `use` values whose key may verify an assertion signature. -/
def signingUses : List (Option String) := [none, some "", some "signing"]

/-- A dictionary from bindings to locations. -/
abbrev Locations := AList fun _ : String => String

/-- `_is_http_url(value)`. -/
def isHttpUrl (tables : Url.Tables) (value : String) : Py Bool := do
  let parsed ← urlparse tables value
  .ok (parsed.isWeb && parsed.hasHostname)

/-- The location an endpoint advertises, stripped. -/
def SingleSignOnService.strippedLocation (service : SingleSignOnService) : String :=
  strip (service.location.getD "")

/-- Record an endpoint whose binding has no location yet and whose location is a web URL. -/
def addLocation (tables : Url.Tables) (locations : Locations) (service : SingleSignOnService) : Py Locations :=
  match service.binding with
  | none => .ok locations
  | some binding =>
    if binding = "" ∨ binding ∈ locations then .ok locations
    else do
      let usable ← isHttpUrl tables service.strippedLocation
      .ok (if usable then locations.insert binding service.strippedLocation else locations)

/-- `_select_sso_url(idp_roles)`. -/
def selectSsoUrl (tables : Url.Tables) (idpRoles : List IDPSSODescriptor) : Py String := do
  let locations ← idpRoles.foldlM (fun locations role =>
    role.singleSignOnService.foldlM (addLocation tables) locations) (∅ : Locations)
  required (ssoBindingPreference.findSome? fun binding => locations.lookup binding)
    (.metadata ("IdP metadata has no HTTP-Redirect or HTTP-POST single sign-on endpoint with an absolute " ++
      "http or https location"))

/-- `element.iterfind(".//tag")`: the elements below with this tag, in document order. -/
def descendants (e : Element) (tag : String) : List Element := e.iter.tail.filter fun d => d.tag == tag

/-- Append the certificate text without its blanks, unless it is empty or was seen before. -/
def addCertificate (certificates : List String) (certificate : Element) : List String :=
  match certificate.text with
  | none => certificates
  | some text =>
    let normalized := String.ofList (splitBlanks isSpace text.toList).flatten
    if normalized = "" ∨ normalized ∈ certificates then certificates else certificates ++ [normalized]

/-- `_collect_signing_certificates(metadata_root)`. -/
def collectSigningCertificates (metadataRoot : Element) : List String :=
  (metadataRoot.iterfind [qname mdNs "IDPSSODescriptor", qname mdNs "KeyDescriptor"]).foldl
    (fun certificates keyDescriptor =>
      if keyDescriptor.get "use" ∈ signingUses then
        (descendants keyDescriptor (qname dsNs "X509Certificate")).foldl addCertificate certificates
      else certificates) []

/-- `parse_idp_metadata(xml)`. -/
def parseIdpMetadata (env : Environment) (xml : String) : Py (IdPDescriptor env.tables) := do
  let entity? ← reraise
    (fun e =>
      if e = .parseError then some (.metadata "IdP metadata is not well-formed XML")
      else if e.isValueError then
        some (.metadata "IdP metadata contains a disallowed DTD or entity declaration")
      else none)
    (env.entityDescriptorFromString xml)
  let entity ← required entity? (.metadata "IdP metadata root element is not an EntityDescriptor")
  let entityId := strip (entity.entityId.getD "")
  raiseIf (entityId = "") (.metadata "IdP metadata EntityDescriptor has no entityID")
  raiseIf (entity.idpssoDescriptor = []) (.metadata "IdP metadata describes no identity provider")
  let ssoUrl ← selectSsoUrl env.tables entity.idpssoDescriptor
  let metadataRoot ← env.parseSafeXml false xml
  IdPDescriptor.make env.tables entityId ssoUrl (collectSigningCertificates metadataRoot)

end ApronSaml
