import ApronSaml.PostBinding
import ApronSaml.RedirectBinding

/-!
# What the service provider says of itself

A service provider writes two messages: a request for every login, and once its metadata.
Both are built as trees and written by a serializer that is a parameter, like the source of
request IDs and the writer of instants. An identity provider reads a request from the query
of the redirect URL or from the field of the form. From either encoding, and from the
metadata, it reads the one endpoint and the one entity ID that responses are compared with.
-/

namespace ApronSaml

open Raising TextEncoding ElementTree Chronology Query

/-- What messages are built with. -/
structure MessageBuilder where
  /-- `s_utils.sid()`. -/
  sid : Py String
  /-- `time_util.instant(time_stamp=now.timestamp())`. -/
  instant : (now : DateTime) → Py String
  /-- `message.to_string().decode("utf-8")`. -/
  toString : Element → Py String

/-- `samlp.AuthnRequest(id=…, version="2.0", issue_instant=…, …)` as a tree. -/
def authnRequestElement (requestId issueInstant destination acsUrl entityId : String) : Element :=
  ⟨qname samlpNs "AuthnRequest",
    [("ID", requestId), ("Version", "2.0"), ("IssueInstant", issueInstant), ("Destination", destination),
      ("ProtocolBinding", bindingHttpPost), ("AssertionConsumerServiceURL", acsUrl)],
    none, [⟨qname samlNs "Issuer", [], some entityId, [], none⟩], none⟩

/-- `build_authn_request(config, idp, relay_state=…, clock=…)`; the clock is the given one or the system's. -/
def buildAuthnRequest (builder : MessageBuilder) {tables : Url.Tables} (config : SamlConfig tables)
    (idp : IdPDescriptor tables) (relayState : Option String) (clock : Py DateTime) : Py AuthnRequest := do
  let now ← clock
  let requestId ← builder.sid
  let issueInstant ← builder.instant now
  let xml ← builder.toString (authnRequestElement requestId issueInstant idp.ssoUrl config.acsUrl config.entityId)
  .ok ⟨requestId, xml, idp.ssoUrl, relayState⟩

/-- `EntityDescriptor(entity_id=…, spsso_descriptor=[…])` as a tree; a configuration that was built wants assertions
signed. -/
def spMetadataElement {tables : Url.Tables} (config : SamlConfig tables) : Element :=
  ⟨qname mdNs "EntityDescriptor", [("entityID", config.entityId)], none, [
    ⟨qname mdNs "SPSSODescriptor",
      [("protocolSupportEnumeration", samlpNs), ("AuthnRequestsSigned", "false"), ("WantAssertionsSigned", "true")],
      none, [
        ⟨qname mdNs "AssertionConsumerService",
          [("Binding", bindingHttpPost), ("Location", config.acsUrl), ("index", "0"), ("isDefault", "true")],
          none, [], none⟩], none⟩], none⟩

/-- `generate_sp_metadata(config)`. -/
def generateSpMetadata (builder : MessageBuilder) {tables : Url.Tables} (config : SamlConfig tables) : Py String :=
  builder.toString (spMetadataElement config)

/-- What an identity provider knows of a service provider: who it is, and where it receives assertions. -/
structure Party where
  entityId : String
  acsUrl : String
  deriving DecidableEq

/-- What an identity provider reads from a request. -/
structure RequestView where
  id : String
  destination : Option String
  party : Party
  deriving DecidableEq

/-- A request that asks for an answer by a form is read. -/
def RequestView.read (root : Element) : Option RequestView :=
  if root.tag = qname samlpNs "AuthnRequest" ∧ root.get "ProtocolBinding" = some bindingHttpPost then do
    let id ← root.get "ID"
    let issuer ← root.find [qname samlNs "Issuer"]
    let entityId ← issuer.text
    let acsUrl ← root.get "AssertionConsumerServiceURL"
    some ⟨id, root.get "Destination", entityId, acsUrl⟩
  else none

/-- The party that metadata describe, with its default endpoint for forms. -/
def Party.read (root : Element) : Option Party :=
  if root.tag = qname mdNs "EntityDescriptor" then do
    let entityId ← root.get "entityID"
    let endpoint ← (root.iterfind [qname mdNs "SPSSODescriptor", qname mdNs "AssertionConsumerService"]).find? fun e =>
      e.get "Binding" == some bindingHttpPost && e.get "isDefault" == some "true"
    let acsUrl ← endpoint.get "Location"
    some ⟨entityId, acsUrl⟩
  else none

/-- What is written of a tree is read as that tree. -/
def ReadsBack (builder : MessageBuilder) (parse : String → Option Element) (e : Element) : Prop :=
  ∀ xml, builder.toString e = .ok xml → parse xml = some e

/-- Reading a posted payload. -/
def receivePosted (parse : String → Option Element) (payload : String) : Option RequestView := do
  let raw ← (Base64.b64decode (codePoints payload)).toOption
  let text ← utf8Decode raw
  let root ← parse text
  RequestView.read root

/-- Reading a payload from a query. -/
def receiveRedirected (format : Inflate.Format) (parse : String → Option Element) (payload : String) :
    Option RequestView := do
  let raw ← (Base64.b64decode (codePoints payload)).toOption
  let (inflated, rest) ← format raw
  let text ← if rest = [] then utf8Decode inflated else none
  let root ← parse text
  RequestView.read root

section Building

variable {builder : MessageBuilder} {tables : Url.Tables} {config : SamlConfig tables} {idp : IdPDescriptor tables}
  {relayState : Option String} {clock : Py DateTime} {request : AuthnRequest}

/-- A request is built from an ID, an instant and a text of its tree. -/
theorem buildAuthnRequest_ok_iff :
    buildAuthnRequest builder config idp relayState clock = .ok request ↔
      ∃ now issueInstant, clock = .ok now ∧ builder.sid = .ok request.requestId ∧
        builder.instant now = .ok issueInstant ∧
        builder.toString (authnRequestElement request.requestId issueInstant idp.ssoUrl config.acsUrl config.entityId) =
          .ok request.xml ∧
        request.destination = idp.ssoUrl ∧ request.relayState = relayState := by
  simp only [buildAuthnRequest, bind_ok_iff, Except.ok.injEq]
  constructor
  · intro h
    obtain ⟨now, hclock, requestId, hsid, issueInstant, hinstant, xml, hxml, rfl⟩ := h
    exact ⟨now, issueInstant, hclock, hsid, hinstant, hxml, rfl, rfl⟩
  · intro h
    obtain ⟨now, issueInstant, hclock, hsid, hinstant, hxml, hdestination, hrelay⟩ := h
    refine ⟨now, hclock, request.requestId, hsid, issueInstant, hinstant, request.xml, hxml, ?_⟩
    rw [← hdestination, ← hrelay]

/-- The party that a configuration makes. -/
def SamlConfig.party (config : SamlConfig tables) : Party := ⟨config.entityId, config.acsUrl⟩

/-- The tree of a request is read as its ID, its destination and the configured party. -/
theorem read_authnRequestElement (requestId issueInstant destination : String) :
    RequestView.read (authnRequestElement requestId issueInstant destination config.acsUrl config.entityId) =
      some ⟨requestId, some destination, config.party⟩ := by
  have hbinding : (authnRequestElement requestId issueInstant destination config.acsUrl config.entityId).get
      "ProtocolBinding" = some bindingHttpPost := rfl
  have hissuer : (authnRequestElement requestId issueInstant destination config.acsUrl config.entityId).find
      [qname samlNs "Issuer"] = some ⟨qname samlNs "Issuer", [], some config.entityId, [], none⟩ := by
    simp [authnRequestElement, Element.find, Element.findall]
  rw [RequestView.read, if_pos ⟨rfl, hbinding⟩, hissuer]
  rfl

/-- The metadata describe the configured party. -/
theorem read_spMetadataElement : Party.read (spMetadataElement config) = some config.party := by
  have hendpoints : (spMetadataElement config).iterfind
      [qname mdNs "SPSSODescriptor", qname mdNs "AssertionConsumerService"] =
        [⟨qname mdNs "AssertionConsumerService",
          [("Binding", bindingHttpPost), ("Location", config.acsUrl), ("index", "0"), ("isDefault", "true")],
          none, [], none⟩] := by
    simp [spMetadataElement, Element.iterfind, Element.findall]
  have htag : (spMetadataElement config).tag = qname mdNs "EntityDescriptor" := rfl
  rw [Party.read, if_pos htag, hendpoints]
  rfl

/-- A built request is read from its text. -/
theorem read_of_buildAuthnRequest (hbuild : buildAuthnRequest builder config idp relayState clock = .ok request)
    {parse : String → Option Element}
    (hparse : ∀ issueInstant, ReadsBack builder parse
      (authnRequestElement request.requestId issueInstant idp.ssoUrl config.acsUrl config.entityId)) :
    (parse request.xml).bind RequestView.read = some ⟨request.requestId, some idp.ssoUrl, config.party⟩ := by
  obtain ⟨now, issueInstant, _, _, _, hxml, _, _⟩ := buildAuthnRequest_ok_iff.mp hbuild
  rw [hparse issueInstant _ hxml, Option.bind_some, read_authnRequestElement]

/-- What is posted is what is read. -/
theorem receivePosted_b64encode (parse : String → Option Element) (xml : String) :
    receivePosted parse (Base64.b64encode (utf8Encode xml)) = (parse xml).bind RequestView.read := by
  simp [receivePosted, Base64.b64decode_b64encode, Except.toOption, utf8Decode_utf8Encode]

/-- What is compressed without a rest is what is read. -/
theorem receiveRedirected_b64encode {format : Inflate.Format} {stream : List UInt8} {xml : String}
    (hstream : format stream = some (utf8Encode xml, [])) (parse : String → Option Element) :
    receiveRedirected format parse (Base64.b64encode stream) = (parse xml).bind RequestView.read := by
  simp [receiveRedirected, Base64.b64decode_b64encode, Except.toOption, utf8Decode_utf8Encode, hstream]

/-- From the query of the redirect URL, from the field of the form and from the metadata an identity provider reads one
entity ID and one endpoint, those that assertions are later compared with; and from either encoding of a request its
ID and the relay state. -/
theorem request_understood (hbuild : buildAuthnRequest builder config idp relayState clock = .ok request)
    {metadata : String} (hmetadata : generateSpMetadata builder config = .ok metadata)
    {parse : String → Option Element}
    (hparse : ∀ issueInstant, ReadsBack builder parse
      (authnRequestElement request.requestId issueInstant idp.ssoUrl config.acsUrl config.entityId))
    (hparse' : ReadsBack builder parse (spMetadataElement config))
    {deflate : List UInt8 → List UInt8} {format : Inflate.Format}
    (hdeflate : format (deflate (utf8Encode request.xml)) = some (utf8Encode request.xml, []))
    (hown : ∀ parts, Url.urlsplit tables idp.ssoUrl = .ok parts →
      ∀ pair ∈ parseQsl true parts.query, pair.1 ≠ "SAMLRequest" ∧ pair.1 ≠ "RelayState")
    (references : Html.CharacterReferences) :
    ∃ view : RequestView, view = ⟨request.requestId, some idp.ssoUrl, config.party⟩ ∧
      (∃ url rebuilt payload, request.redirectUrl tables deflate = .ok url ∧ Url.urlsplit tables url = .ok rebuilt ∧
        valuesOf "SAMLRequest" (parseQsl true rebuilt.query) = [payload] ∧
        valuesOf "RelayState" (parseQsl true rebuilt.query) = relayState.toList ∧
        receiveRedirected format parse payload = some view) ∧
      (∃ payload, Html.tokenize references request.postForm = some (formTokens idp.ssoUrl payload relayState) ∧
        receivePosted parse payload = some view) ∧
      (parse metadata).bind Party.read = some view.party := by
  have hread := read_of_buildAuthnRequest hbuild hparse
  obtain ⟨_, _, _, _, _, _, hdestination, hrelay⟩ := buildAuthnRequest_ok_iff.mp hbuild
  obtain ⟨parts, hsplit⟩ := exists_urlsplit_of_requireWebUrl idp.ssoUrl_ok
  have hsplit' : Url.urlsplit tables request.destination = .ok parts := by rw [hdestination, hsplit]
  have hpairs (name : String) (hname : ∀ pair ∈ parseQsl true parts.query, pair.1 ≠ name) :
      valuesOf name (parseQsl true (redirectQuery deflate request parts)) = valuesOf name (request.params deflate) := by
    rw [parseQsl_redirectQuery]
    exact valuesOf_append_of_ne (fun pair hpair => hname pair (mem_parseQsl_of_false hpair)) _
  obtain ⟨hpayload, hstate⟩ := valuesOf_params deflate request
  refine ⟨_, rfl, ⟨_, _, Base64.b64encode (deflate (utf8Encode request.xml)), redirectUrl_eq hsplit' deflate,
    urlsplit_redirectUrl hsplit' deflate, ?_, ?_, ?_⟩, ⟨Base64.b64encode (utf8Encode request.xml), ?_, ?_⟩, ?_⟩
  · rw [hpairs "SAMLRequest" fun pair hpair => (hown parts hsplit pair hpair).1, hpayload]
  · rw [hpairs "RelayState" fun pair hpair => (hown parts hsplit pair hpair).2, hstate, hrelay]
  · rw [receiveRedirected_b64encode hdeflate, hread]
  · rw [tokenize_postForm, hdestination, hrelay]
  · rw [receivePosted_b64encode, hread]
  · rw [hparse' metadata hmetadata, Option.bind_some, read_spMetadataElement]

end Building

/-- The text of the deployment's request. -/
def demoRequestXml : String :=
  "<?xml version='1.0' encoding='UTF-8'?>\n<ns0:AuthnRequest xmlns:ns0=\"urn:oasis:names:tc:SAML:2.0:protocol\" " ++
  "xmlns:ns1=\"urn:oasis:names:tc:SAML:2.0:assertion\" ID=\"r1\" Version=\"2.0\" " ++
  "IssueInstant=\"2024-05-01T00:00:00Z\" Destination=\"https://idp.example.com/sso\" " ++
  "ProtocolBinding=\"urn:oasis:names:tc:SAML:2.0:bindings:HTTP-POST\" " ++
  "AssertionConsumerServiceURL=\"https://sp.example.com/acs\"><ns1:Issuer>https://sp.example.com</ns1:Issuer>" ++
  "</ns0:AuthnRequest>"

/-- The text of the deployment's metadata. -/
def demoSpMetadataXml : String :=
  "<?xml version='1.0' encoding='UTF-8'?>\n<ns0:EntityDescriptor " ++
  "xmlns:ns0=\"urn:oasis:names:tc:SAML:2.0:metadata\" entityID=\"https://sp.example.com\"><ns0:SPSSODescriptor " ++
  "protocolSupportEnumeration=\"urn:oasis:names:tc:SAML:2.0:protocol\" AuthnRequestsSigned=\"false\" " ++
  "WantAssertionsSigned=\"true\"><ns0:AssertionConsumerService " ++
  "Binding=\"urn:oasis:names:tc:SAML:2.0:bindings:HTTP-POST\" Location=\"https://sp.example.com/acs\" index=\"0\" " ++
  "isDefault=\"true\"/></ns0:SPSSODescriptor></ns0:EntityDescriptor>"

/-- The tree of the deployment's request. -/
def demoRequest : Element := authnRequestElement "r1" "2024-05-01T00:00:00Z" demoLocation demoAcsUrl demoEntityId

/-- A serializer that knows the deployment's two messages. -/
def writeDemo (e : Element) : Py String :=
  if e.tag = demoRequest.tag ∧ e.get "IssueInstant" = demoRequest.get "IssueInstant" then .ok demoRequestXml
  else if e.tag = qname mdNs "EntityDescriptor" then .ok demoSpMetadataXml
  else .error .indexError

/-- What builds the deployment's two messages. -/
def demoBuilder : MessageBuilder where
  sid := .ok "r1"
  instant now := if now.utc = demoNow.utc then .ok "2024-05-01T00:00:00Z" else .error .indexError
  toString := writeDemo

/-- A parser that knows the deployment's two messages. -/
def demoParse (xml : String) : Option Element :=
  if xml = demoRequestXml then some demoRequest
  else if xml = demoSpMetadataXml then some (spMetadataElement demoConfig)
  else none

/-- What zlib makes of the deployment's request. -/
def demoRequestStream : List UInt8 :=
  [0x7d, 0x91, 0xd1, 0x4b, 0xc3, 0x30, 0x10, 0xc6, 0xdf, 0xfd, 0x2b, 0x42, 0x5e, 0xfa, 0xd4, 0x36, 0x1d, 0x0a, 0x12,
    0xda, 0x8e, 0xea, 0x10, 0x07, 0x13, 0xcb, 0xda, 0xf9, 0xe0, 0x5b, 0xcc, 0x0e, 0x17, 0x68, 0x2f, 0x35, 0x97, 0x8e,
    0xfd, 0xf9, 0xc6, 0x3a, 0x75, 0x03, 0x19, 0xdc, 0xcb, 0x7d, 0xf9, 0x3e, 0xee, 0x77, 0xb9, 0x7c, 0x7e, 0xe8, 0x3b,
    0xb6, 0x07, 0x47, 0xc6, 0x62, 0x11, 0x65, 0x89, 0x88, 0x18, 0xa0, 0xb6, 0x5b, 0x83, 0xef, 0x45, 0xb4, 0x69, 0x1f,
    0xe2, 0xdb, 0x68, 0x5e, 0x5e, 0xe5, 0x48, 0x42, 0x56, 0xa3, 0xdf, 0xe1, 0x1a, 0x3e, 0x46, 0x20, 0xcf, 0x42, 0x0c,
    0x49, 0x06, 0xb9, 0xe0, 0xa3, 0x43, 0x69, 0x15, 0x99, 0xd0, 0xaa, 0x1e, 0x48, 0x7a, 0x2d, 0x9b, 0xea, 0x69, 0x25,
    0x67, 0x89, 0x90, 0x83, 0xb3, 0xde, 0x6a, 0xdb, 0xf1, 0xdf, 0x40, 0x76, 0x39, 0xa0, 0x88, 0xc0, 0xf9, 0x00, 0xc3,
    0xd9, 0x72, 0x51, 0x70, 0x97, 0x71, 0xf6, 0x72, 0xa4, 0xe3, 0xe1, 0x3d, 0xa8, 0x44, 0x23, 0x2c, 0x91, 0xbc, 0x42,
    0x1f, 0x24, 0x31, 0xbb, 0x8e, 0xc5, 0x4d, 0x2c, 0xb2, 0x56, 0x08, 0x39, 0xd5, 0x2b, 0x67, 0x8b, 0x40, 0x68, 0x50,
    0xf9, 0x29, 0xb5, 0xf3, 0x7e, 0x20, 0x99, 0xa6, 0x66, 0x3b, 0x24, 0x70, 0x50, 0xfd, 0xd0, 0x41, 0xa2, 0x6d, 0x9f,
    0x12, 0x59, 0xce, 0xea, 0x23, 0xdf, 0x9d, 0xc1, 0x69, 0xe5, 0x8b, 0x6c, 0x6f, 0xdf, 0x26, 0x92, 0x8f, 0x6d, 0x5b,
    0xc7, 0xf5, 0x73, 0xd3, 0x72, 0x56, 0xfd, 0xf0, 0xde, 0x5b, 0xa4, 0xb1, 0x07, 0xd7, 0x80, 0xdb, 0x1b, 0x0d, 0x9b,
    0xf5, 0xea, 0x6f, 0x34, 0x9d, 0x4f, 0x56, 0x9a, 0x78, 0x19, 0xbe, 0x34, 0x93, 0xd3, 0x32, 0xae, 0xfc, 0xdf, 0x97,
    0xa7, 0x27, 0x96, 0xaf, 0xe6, 0xfc, 0x04, 0xe5, 0x27]

/-- A compressor that knows the deployment's request. -/
def demoRequestDeflate (raw : List UInt8) : List UInt8 :=
  if raw = utf8Encode demoRequestXml then demoRequestStream else []

/-- The request that the deployment builds. -/
def demoAuthnRequest : AuthnRequest := ⟨"r1", demoRequestXml, demoLocation, some "/home?a=1&b=2"⟩

/-- The two texts differ in the first letter of their root's name. -/
theorem demoSpMetadataXml_ne : demoSpMetadataXml ≠ demoRequestXml := by
  intro heq
  have hmetadata : demoSpMetadataXml.toList[44]? = some 'E' := by
    unfold demoSpMetadataXml
    iterate 5 refine getElem?_toList_append ?_ _
    decide +kernel
  have hrequest : demoRequestXml.toList[44]? = some 'A' := by
    unfold demoRequestXml
    iterate 5 refine getElem?_toList_append ?_ _
    decide +kernel
  rw [heq, hrequest] at hmetadata
  exact absurd hmetadata (by decide)

/-- The deployment's request is read back. -/
theorem readsBack_demoRequest (issueInstant : String) : ReadsBack demoBuilder demoParse
    (authnRequestElement "r1" issueInstant demoLocation demoAcsUrl demoEntityId) := by
  intro xml hxml
  by_cases hinstant : issueInstant = "2024-05-01T00:00:00Z"
  · subst hinstant
    obtain rfl : demoRequestXml = xml := Except.ok.inj hxml
    exact if_pos rfl
  · have hget : (authnRequestElement "r1" issueInstant demoLocation demoAcsUrl demoEntityId).get "IssueInstant" ≠
        demoRequest.get "IssueInstant" := fun h => hinstant (Option.some.inj h)
    have htag : qname samlpNs "AuthnRequest" ≠ qname mdNs "EntityDescriptor" := by decide +kernel
    have hother : writeDemo (authnRequestElement "r1" issueInstant demoLocation demoAcsUrl demoEntityId) =
        .error .indexError := (if_neg fun h => hget h.2).trans (if_neg htag)
    exact absurd (hother.symm.trans hxml) (by simp)

/-- The deployment's request is understood from either encoding. -/
theorem request_understood_demo :
    ∃ payload payload', receiveRedirected Deflate.inflate demoParse payload =
        some ⟨"r1", some demoLocation, demoConfig.party⟩ ∧
      receivePosted demoParse payload' = some ⟨"r1", some demoLocation, demoConfig.party⟩ := by
  have hbuild : buildAuthnRequest demoBuilder demoConfig demoIdp (some "/home?a=1&b=2") (.ok demoNow) =
      .ok demoAuthnRequest := rfl
  have hparse' : ReadsBack demoBuilder demoParse (spMetadataElement demoConfig) := by
    intro xml hxml
    obtain rfl : demoSpMetadataXml = xml := Except.ok.inj hxml
    rw [demoParse, if_neg demoSpMetadataXml_ne, if_pos rfl]
  have hstream : Deflate.inflate demoRequestStream = some (utf8Encode demoRequestXml, []) := by decide +kernel
  have hdeflate : Deflate.inflate (demoRequestDeflate (utf8Encode demoAuthnRequest.xml)) =
      some (utf8Encode demoAuthnRequest.xml, []) := by
    have hsame : demoRequestDeflate (utf8Encode demoAuthnRequest.xml) = demoRequestStream := if_pos rfl
    rw [hsame, hstream]
    rfl
  have hown (parts : Url.SplitResult) (hparts : Url.urlsplit ⟨id, fun _ => false⟩ demoIdp.ssoUrl = .ok parts) :
      ∀ pair ∈ parseQsl true parts.query, pair.1 ≠ "SAMLRequest" ∧ pair.1 ≠ "RelayState" := by
    have hsplit : Url.urlsplit ⟨id, fun _ => false⟩ demoIdp.ssoUrl =
        .ok ⟨"https".toList, "idp.example.com".toList, "/sso".toList, [], []⟩ := by
      decide +kernel
    obtain rfl := Except.ok.inj (hsplit.symm.trans hparts)
    decide +kernel
  obtain ⟨view, rfl, ⟨_, _, payload, _, _, _, _, hredirected⟩, ⟨payload', _, hposted⟩, _⟩ :=
    request_understood hbuild rfl readsBack_demoRequest hparse' hdeflate hown basicReferences
  exact ⟨payload, payload', hredirected, hposted⟩

end ApronSaml
