import ApronSaml.MinimalResponse
import ApronSaml.ServiceProvider

/-!
# Deployments given by tables

An environment whose XML and timestamp parsers look their inputs up in tables, whose
schema engine accepts every assertion, whose signature backend knows one certificate and
whose inflater reads a given format. It fails only as the packages it stands for do. One
identity provider, one configuration that trusts it and one family of Responses around a
signed assertion are given in it.
-/

namespace ApronSaml

open Raising ElementTree Whitespace Chronology

/-- The certificate body the tabulated backend verifies signatures of. -/
def knownCertificate : String := "MIIBszCCAVmgAwIBAgIUQ2VydA=="

/-- An environment given by its tables of documents, of metadata objects and of timestamps, and by its
compressed format. -/
def tableEnvironment (documents : List (String × Element)) (descriptors : List (String × EntityDescriptor))
    (instants : List (String × DateTime)) (format : Inflate.Format) : Environment where
  tables := ⟨id, fun _ => false⟩
  parseSafeXml _ text := required (documents.lookup text) .parseError
  startNs _ := .ok [("samlp", samlpNs), ("saml", samlNs), ("ds", dsNs)]
  xmlSchema := .ok ()
  isValid _ _ := .ok true
  getXmlsecBinary := .ok "/usr/bin/xmlsec1"
  verifySignature _ _ certFile _ _ :=
    if certFile = pem knownCertificate then .ok true else .error .backendSignatureError
  fromisoformat value := required (instants.lookup value) (.valueError "Invalid isoformat string")
  entityDescriptorFromString text := do
    let _ ← required (documents.lookup text) .parseError
    .ok (descriptors.lookup text)
  decompress := Inflate.ofFormat format .zlibError

/-- The tabulated timestamp parser raises nothing but a `ValueError`. -/
theorem timestampErrors_tableEnvironment (documents : List (String × Element))
    (descriptors : List (String × EntityDescriptor)) (instants : List (String × DateTime)) (format : Inflate.Format)
    (value : String) :
    RaisesOnly (fun e => isTimestampError e = true)
      ((tableEnvironment documents descriptors instants format).fromisoformat value) :=
  RaisesOnly.required rfl

/-- The tabulated XML parser raises nothing but a `ParseError`. -/
theorem parserErrors_tableEnvironment (documents : List (String × Element))
    (descriptors : List (String × EntityDescriptor)) (instants : List (String × DateTime)) (format : Inflate.Format)
    (forbidDtd : Bool) (text : String) :
    RaisesOnly (fun e => e = .parseError ∨ e.isValueError = true)
      ((tableEnvironment documents descriptors instants format).parseSafeXml forbidDtd text) :=
  RaisesOnly.required (Or.inl rfl)

/-- The tabulated backend answers yes or rejects. -/
theorem backendErrors_tableEnvironment (documents : List (String × Element))
    (descriptors : List (String × EntityDescriptor)) (instants : List (String × DateTime)) (format : Inflate.Format)
    (binary text certFile nodeName nodeId : String) :
    RaisesOnly (fun e => isBackendRejection e = true)
      ((tableEnvironment documents descriptors instants format).verifySignature binary text certFile nodeName nodeId) := by
  dsimp only [tableEnvironment]
  split
  · exact RaisesOnly.ok true
  · exact RaisesOnly.error rfl

section Table

variable {documents : List (String × Element)} {descriptors : List (String × EntityDescriptor)}
  {instants : List (String × DateTime)} {format : Inflate.Format} {text : String} {root : Element}

/-- The first document of the table is parsed to its tree. -/
theorem parseSafeXml_tableEnvironment_self (forbidDtd : Bool) :
    (tableEnvironment ((text, root) :: documents) descriptors instants format).parseSafeXml forbidDtd text =
      .ok root := by
  simp only [tableEnvironment, List.lookup_cons_self]
  rfl

/-- A text that is not the first document is looked up among the others. -/
theorem parseSafeXml_tableEnvironment_of_ne {other : String} (h : text ≠ other) (forbidDtd : Bool) :
    (tableEnvironment ((other, root) :: documents) descriptors instants format).parseSafeXml forbidDtd text =
      (tableEnvironment documents descriptors instants format).parseSafeXml forbidDtd text := by
  have hother : (text == other) = false := beq_eq_false_iff_ne.mpr h
  simp only [tableEnvironment, List.lookup_cons, hother]

/-- The first document of both tables has the object model that is listed for it. -/
theorem entityDescriptorFromString_tableEnvironment_self {entity : EntityDescriptor} :
    (tableEnvironment ((text, root) :: documents) ((text, entity) :: descriptors) instants
      format).entityDescriptorFromString text = .ok (some entity) := by
  simp only [tableEnvironment, List.lookup_cons_self]
  rfl

end Table

/-- The assertion consumer URL of the deployment. -/
def demoAcsUrl : String := "https://sp.example.com/acs"

/-- The entity ID of the deployment. -/
def demoEntityId : String := "https://sp.example.com"

/-- `2030-01-01T00:00:00Z` -/
def demoExpiry : DateTime := ⟨64029052800000000, some 0, by decide, by decide, by decide⟩

/-- `2024-05-01T00:00:00Z` -/
def demoNow : DateTime := ⟨63850118400000000, some 0, by decide, by decide, by decide⟩

/-- A signature over an ID by a strong algorithm. -/
def demoSignature (id : String) : Element :=
  ⟨signatureTag, [], none, [
    ⟨qname dsNs "SignedInfo", [], none, [
      ⟨qname dsNs "CanonicalizationMethod", [("Algorithm", "http://www.w3.org/2001/10/xml-exc-c14n#")],
        none, [], none⟩,
      ⟨qname dsNs "SignatureMethod", [("Algorithm", "http://www.w3.org/2001/04/xmldsig-more#rsa-sha256")],
        none, [], none⟩,
      ⟨qname dsNs "Reference", [("URI", "#" ++ id)], none, [
        ⟨qname dsNs "DigestMethod", [("Algorithm", "http://www.w3.org/2001/04/xmlenc#sha256")], none, [], none⟩,
        ⟨qname dsNs "DigestValue", [], some "AAAA", [], none⟩], none⟩], none⟩,
    ⟨qname dsNs "SignatureValue", [], some "AAAA", [], none⟩], none⟩

/-- The data of the demonstration confirmation: the answer to a request, within a time, at this endpoint. -/
def demoConfirmationData : Element :=
  ⟨subjectConfirmationDataTag,
    [("InResponseTo", "r1"), ("NotOnOrAfter", "2030-01-01T00:00:00Z"), ("Recipient", demoAcsUrl)], none, [], none⟩

/-- The bearer confirmation of the demonstration assertion. -/
def demoConfirmation : Element :=
  ⟨subjectConfirmationTag, [("Method", methodBearer)], none, [demoConfirmationData], none⟩

/-- The subject of the demonstration assertion. -/
def demoSubject : Element := ⟨subjectTag, [], none, [demoConfirmation], none⟩

/-- The conditions of the demonstration assertion. -/
def demoConditions : Element :=
  ⟨conditionsTag, [("NotOnOrAfter", "2030-01-01T00:00:00Z")], none, [
    ⟨audienceRestrictionTag, [], none, [⟨audienceTag, [], some demoEntityId, [], none⟩], none⟩], none⟩

/-- A signed assertion issued by `issuer`. -/
def demoAssertion (issuer : String) : Element :=
  ⟨assertionTag, [("ID", "a1"), ("Version", "2.0"), ("IssueInstant", "2024-05-01T00:00:00Z")], none, [
    ⟨qname samlNs "Issuer", [], some issuer, [], none⟩,
    demoSignature "a1", demoSubject, demoConditions], none⟩

/-- The text of the demonstration Response up to the issuer's name. -/
def demoOpeningXml : String :=
  "<samlp:Response xmlns:samlp=\"urn:oasis:names:tc:SAML:2.0:protocol\" InResponseTo=\"r1\">" ++
  "<samlp:Status><samlp:StatusCode Value=\"urn:oasis:names:tc:SAML:2.0:status:Success\"/></samlp:Status>" ++
  "<saml:Assertion xmlns:saml=\"urn:oasis:names:tc:SAML:2.0:assertion\" ID=\"a1\" Version=\"2.0\" " ++
  "IssueInstant=\"2024-05-01T00:00:00Z\"><saml:Issuer>"

/-- The text of the demonstration Response after the issuer's name. -/
def demoClosingXml : String :=
  "</saml:Issuer><ds:Signature xmlns:ds=\"http://www.w3.org/2000/09/xmldsig#\"><ds:SignedInfo>" ++
  "<ds:CanonicalizationMethod Algorithm=\"http://www.w3.org/2001/10/xml-exc-c14n#\"/>" ++
  "<ds:SignatureMethod Algorithm=\"http://www.w3.org/2001/04/xmldsig-more#rsa-sha256\"/>" ++
  "<ds:Reference URI=\"#a1\"><ds:DigestMethod Algorithm=\"http://www.w3.org/2001/04/xmlenc#sha256\"/>" ++
  "<ds:DigestValue>AAAA</ds:DigestValue></ds:Reference></ds:SignedInfo>" ++
  "<ds:SignatureValue>AAAA</ds:SignatureValue></ds:Signature>" ++
  "<saml:Subject><saml:SubjectConfirmation Method=\"urn:oasis:names:tc:SAML:2.0:cm:bearer\">" ++
  "<saml:SubjectConfirmationData InResponseTo=\"r1\" NotOnOrAfter=\"2030-01-01T00:00:00Z\" " ++
  "Recipient=\"https://sp.example.com/acs\"/></saml:SubjectConfirmation></saml:Subject>" ++
  "<saml:Conditions NotOnOrAfter=\"2030-01-01T00:00:00Z\"><saml:AudienceRestriction>" ++
  "<saml:Audience>https://sp.example.com</saml:Audience></saml:AudienceRestriction></saml:Conditions>" ++
  "</saml:Assertion></samlp:Response>"

/-- The text of the minimal Response around the demonstration assertion. -/
def demoResponseXml (issuer : String) : String := demoOpeningXml ++ (issuer ++ demoClosingXml)

/-- The issuer of the deployment's assertions. -/
def demoIssuer : String := "https://idp.example.com"

/-- The text of the identity provider's metadata, with a single sign-on endpoint at `location`. -/
def demoMetadataXml (location : String) : String :=
  "<md:EntityDescriptor xmlns:md=\"urn:oasis:names:tc:SAML:2.0:metadata\" entityID=\"https://idp.example.com\">" ++
  "<md:IDPSSODescriptor protocolSupportEnumeration=\"urn:oasis:names:tc:SAML:2.0:protocol\">" ++
  "<md:KeyDescriptor use=\"signing\"><ds:KeyInfo xmlns:ds=\"http://www.w3.org/2000/09/xmldsig#\"><ds:X509Data>" ++
  "<ds:X509Certificate>" ++ knownCertificate ++ "</ds:X509Certificate></ds:X509Data></ds:KeyInfo></md:KeyDescriptor>" ++
  "<md:SingleSignOnService Binding=\"urn:oasis:names:tc:SAML:2.0:bindings:HTTP-Redirect\" Location=\"" ++ location ++
  "\"/></md:IDPSSODescriptor></md:EntityDescriptor>"

/-- The tree of the identity provider's metadata. -/
def demoMetadata (location : String) : Element :=
  ⟨qname mdNs "EntityDescriptor", [("entityID", demoIssuer)], none, [
    ⟨qname mdNs "IDPSSODescriptor", [("protocolSupportEnumeration", samlpNs)], none, [
      ⟨qname mdNs "KeyDescriptor", [("use", "signing")], none, [
        ⟨qname dsNs "KeyInfo", [], none, [
          ⟨qname dsNs "X509Data", [], none, [
            ⟨qname dsNs "X509Certificate", [], some knownCertificate, [], none⟩], none⟩], none⟩], none⟩,
      ⟨qname mdNs "SingleSignOnService", [("Binding", bindingHttpRedirect), ("Location", location)],
        none, [], none⟩],
      none⟩], none⟩

/-- The object model of the identity provider's metadata. -/
def demoDescriptor (location : String) : EntityDescriptor :=
  ⟨some demoIssuer, [⟨[⟨some bindingHttpRedirect, some location⟩]⟩]⟩

/-- The environment of the identity provider's metadata. -/
def metadataEnvironment (location : String) : Environment :=
  tableEnvironment [(demoMetadataXml location, demoMetadata location)]
    [(demoMetadataXml location, demoDescriptor location)] [] fun _ => none

/-- The single sign-on location of the deployment. -/
def demoLocation : String := "https://idp.example.com/sso"

/-- The deployment's environment for one document. -/
def singleDocument (responseXml : String) (root : Element) : Environment :=
  tableEnvironment [(responseXml, root)] [] [("2030-01-01T00:00:00Z", demoExpiry)] fun _ => none

/-- The configuration of the deployment, in any environment of its kind. -/
def demoConfig : SamlConfig ⟨id, fun _ => false⟩ :=
  ⟨demoEntityId, demoAcsUrl, demoMetadataXml demoLocation, defaultClockSkew, false, none,
    by decide, by decide +kernel, by decide +kernel, by decide⟩

/-- The identity provider of the deployment. -/
def demoIdp : IdPDescriptor ⟨id, fun _ => false⟩ :=
  ⟨demoIssuer, demoLocation, [knownCertificate], by decide +kernel⟩

/-- Wherever it is read, the identity provider's metadata is parsed up to the judgement of its single sign-on location. -/
theorem parseIdpMetadata_demoMetadata {env : Environment} {location : String}
    (hentity : env.entityDescriptorFromString (demoMetadataXml location) = .ok (some (demoDescriptor location)))
    (hroot : env.parseSafeXml false (demoMetadataXml location) = .ok (demoMetadata location)) :
    parseIdpMetadata env (demoMetadataXml location) =
      selectSsoUrl env.tables (demoDescriptor location).idpssoDescriptor >>= fun ssoUrl =>
        IdPDescriptor.make env.tables demoIssuer ssoUrl [knownCertificate] := by
  have hissuer : strip demoIssuer = demoIssuer := by decide +kernel
  have hcertificates : collectSigningCertificates (demoMetadata location) = [knownCertificate] := rfl
  rw [parseIdpMetadata, hentity, hroot]
  simp only [reraise, ok_bind, required, demoDescriptor, Option.getD_some, hissuer, hcertificates]
  rw [raiseIf_bind_neg (by decide +kernel), raiseIf_bind_neg (List.cons_ne_nil _ _)]

/-- So it is in its own environment. -/
theorem parseIdpMetadata_metadataEnvironment (location : String) :
    parseIdpMetadata (metadataEnvironment location) (demoMetadataXml location) =
      selectSsoUrl (metadataEnvironment location).tables (demoDescriptor location).idpssoDescriptor >>= fun ssoUrl =>
        IdPDescriptor.make (metadataEnvironment location).tables demoIssuer ssoUrl [knownCertificate] :=
  parseIdpMetadata_demoMetadata entityDescriptorFromString_tableEnvironment_self
    (parseSafeXml_tableEnvironment_self false)

/-- The deployment's single sign-on location is selected. -/
theorem selectSsoUrl_demo :
    selectSsoUrl ⟨id, fun _ => false⟩ (demoDescriptor demoLocation).idpssoDescriptor = .ok demoLocation := by
  decide +kernel

/-- The deployment's metadata describes its identity provider. -/
theorem parseIdpMetadata_demo :
    parseIdpMetadata (metadataEnvironment demoLocation) (demoMetadataXml demoLocation) = .ok demoIdp := by
  have hselect : selectSsoUrl (metadataEnvironment demoLocation).tables
      (demoDescriptor demoLocation).idpssoDescriptor = .ok demoLocation := selectSsoUrl_demo
  rw [parseIdpMetadata_metadataEnvironment, hselect, ok_bind]
  exact IdPDescriptor.make_ok_iff.mpr ⟨rfl, rfl, rfl⟩

/-- The document of a one-document environment is parsed to its tree. -/
theorem parseSafeXml_singleDocument (responseXml : String) (root : Element) (forbidDtd : Bool) :
    (singleDocument responseXml root).parseSafeXml forbidDtd responseXml = .ok root :=
  parseSafeXml_tableEnvironment_self forbidDtd

/-- The environment of the demonstration Response. -/
def demoEnvironment : Environment :=
  singleDocument (demoResponseXml demoIssuer) (minimalResponse (some "r1") (demoAssertion demoIssuer))

/-- The demonstration Response as it is parsed. -/
def demoParsed : ParsedResponse := minimalParsed (demoResponseXml demoIssuer) (some "r1") (demoAssertion demoIssuer)

/-- The demonstration Response is verified. -/
theorem verifiedResponse_demo :
    verifiedResponse demoEnvironment (demoResponseXml demoIssuer) demoIdp = .ok demoParsed :=
  verifiedResponse_ok_iff.mpr ⟨parseResponse_minimalResponse rfl (parseSafeXml_singleDocument _ _ true),
    by decide +kernel, by decide +kernel⟩

end ApronSaml
