import ApronSaml.Answers
import ApronSaml.RedirectPayloads

/-!
# A federation of two service providers

One identity provider, two service providers that trust it, and the Responses that go round
between them: the identity provider's answer to a request of each, and a forgery around an
assertion that it never signed. The backend accepts the signatures of the two answers, each
for its own assertion.
-/

namespace ApronSaml

open Raising Whitespace ElementTree Chronology TextEncoding

/-- What the identity provider of the deployment chooses for an answer, with a given assertion ID. -/
def demoChoice (id : String) (hne : id ≠ "") (hstrip : strip id = id) : AnswerChoice :=
  ⟨demoIssuer, id, "2024-05-01T00:00:00Z", "2030-01-01T00:00:00Z", hne, hstrip⟩

/-- The deployment's signature has no further signatures, assertions or IDs below it. -/
theorem demoSignature_plain (id : String) : ∀ n ∈ (demoSignature id).nodes, (n.elem.tag = signatureTag → n.path = []) ∧
    n.elem.tag ≠ assertionTag ∧ ∀ name ∈ idAttrs, n.elem.get name = none := by
  -- The ID is a value of an attribute that is asked for nowhere here.
  have hshape : ((demoSignature id).nodes.map fun n => (n.path, n.elem.tag, idAttrs.map n.elem.get)) =
      (demoSignature "").nodes.map fun n => (n.path, n.elem.tag, idAttrs.map n.elem.get) := rfl
  have hplain : ∀ entry ∈ (demoSignature "").nodes.map fun n => (n.path, n.elem.tag, idAttrs.map n.elem.get),
      (entry.2.1 = signatureTag → entry.1 = []) ∧ entry.2.1 ≠ assertionTag ∧ ∀ value ∈ entry.2.2, value = none := by
    decide +kernel
  intro n hn
  obtain ⟨hsole, hassertion, hnone⟩ := hplain _ (hshape ▸ List.mem_map_of_mem hn)
  exact ⟨hsole, hassertion, fun name hname => hnone _ (List.mem_map_of_mem hname)⟩

/-- The deployment's signature as it lies in an assertion. -/
def demoEnveloped (id : String) : EnvelopedSignature id where
  elem := demoSignature id
  tag := rfl
  references := rfl
  strong := rfl
  sole n hn := (demoSignature_plain id n hn).1
  noAssertion n hn := (demoSignature_plain id n hn).2.1
  noId n hn := (demoSignature_plain id n hn).2.2

/-- The text of an answer up to the ID of the request. -/
def answerOpeningXml : String := "<samlp:Response xmlns:samlp=\"urn:oasis:names:tc:SAML:2.0:protocol\" InResponseTo=\""

/-- The text of an answer after that ID. -/
def answerClosingXml (choice : AnswerChoice) (view : RequestView) : String :=
  "\"><samlp:Status><samlp:StatusCode Value=\"urn:oasis:names:tc:SAML:2.0:status:Success\"/></samlp:Status>" ++
  "<saml:Assertion xmlns:saml=\"urn:oasis:names:tc:SAML:2.0:assertion\" ID=\"" ++ choice.assertionId ++
  "\" Version=\"2.0\" IssueInstant=\"" ++ choice.issueInstant ++ "\"><saml:Issuer>" ++ choice.issuer ++
  "</saml:Issuer><ds:Signature xmlns:ds=\"http://www.w3.org/2000/09/xmldsig#\"><ds:SignedInfo>" ++
  "<ds:CanonicalizationMethod Algorithm=\"http://www.w3.org/2001/10/xml-exc-c14n#\"/>" ++
  "<ds:SignatureMethod Algorithm=\"http://www.w3.org/2001/04/xmldsig-more#rsa-sha256\"/>" ++
  "<ds:Reference URI=\"#" ++ choice.assertionId ++
  "\"><ds:DigestMethod Algorithm=\"http://www.w3.org/2001/04/xmlenc#sha256\"/>" ++
  "<ds:DigestValue>AAAA</ds:DigestValue></ds:Reference></ds:SignedInfo>" ++
  "<ds:SignatureValue>AAAA</ds:SignatureValue></ds:Signature>" ++
  "<saml:Subject><saml:SubjectConfirmation Method=\"urn:oasis:names:tc:SAML:2.0:cm:bearer\">" ++
  "<saml:SubjectConfirmationData InResponseTo=\"" ++ view.id ++ "\" NotOnOrAfter=\"" ++ choice.expiry ++
  "\" Recipient=\"" ++ view.party.acsUrl ++ "\"/></saml:SubjectConfirmation></saml:Subject>" ++
  "<saml:Conditions NotOnOrAfter=\"" ++ choice.expiry ++ "\"><saml:AudienceRestriction><saml:Audience>" ++
  view.party.entityId ++ "</saml:Audience></saml:AudienceRestriction></saml:Conditions></saml:Assertion>" ++
  "</samlp:Response>"

/-- The text of an answer. -/
def answerXml (choice : AnswerChoice) (view : RequestView) : String :=
  answerOpeningXml ++ (view.id ++ answerClosingXml choice view)

/-- The tree of an answer. -/
def answerElement (choice : AnswerChoice) (view : RequestView) : Element :=
  choice.response view (demoEnveloped choice.assertionId)

/-- The service providers of the federation. -/
inductive Site
  | portal
  | wiki

/-- The configuration of the second service provider. -/
def wikiConfig : SamlConfig ⟨id, fun _ => false⟩ :=
  ⟨"https://wiki.example.com", "https://wiki.example.com/acs", demoMetadataXml demoLocation, defaultClockSkew, false,
    none, by decide, by decide +kernel, by decide +kernel, demoConfig.clockSkew_nonneg⟩

namespace Site

/-- The configuration of a service provider. -/
def config : Site → SamlConfig ⟨id, fun _ => false⟩
  | portal => demoConfig
  | wiki => wikiConfig

/-- What the identity provider reads of its request. -/
def view : Site → RequestView
  | portal => ⟨"r1", some demoLocation, demoConfig.party⟩
  | wiki => ⟨"r2", some demoLocation, wikiConfig.party⟩

/-- What the identity provider chooses for the answer. -/
def choice : Site → AnswerChoice
  | portal => demoChoice "a1" (by decide) (by decide +kernel)
  | wiki => demoChoice "a2" (by decide) (by decide +kernel)

/-- The text of the answer. -/
def responseXml (site : Site) : String := answerXml site.choice site.view

/-- The answer as it is parsed. -/
def parsed (site : Site) : ParsedResponse :=
  site.choice.parsed site.view (demoEnveloped site.choice.assertionId) site.responseXml

/-- The assertion of the answer before it was signed. -/
def assertion (site : Site) : Element := site.choice.assertion site.view

end Site

/-- What a forger chooses. -/
def forgedChoice : AnswerChoice := demoChoice "a3" (by decide) (by decide +kernel)

/-- The request that a forger pretends to answer. -/
def forgedView : RequestView := ⟨"r3", some demoLocation, wikiConfig.party⟩

/-- The text of the forgery. -/
def forgedXml : String := answerXml forgedChoice forgedView

/-- The documents of the federation: the identity provider's metadata, the two answers and the forgery. -/
def deploymentTables : Environment :=
  tableEnvironment
    [(demoMetadataXml demoLocation, demoMetadata demoLocation),
      (Site.portal.responseXml, answerElement Site.portal.choice Site.portal.view),
      (Site.wiki.responseXml, answerElement Site.wiki.choice Site.wiki.view),
      (forgedXml, answerElement forgedChoice forgedView)]
    [(demoMetadataXml demoLocation, demoDescriptor demoLocation)] [("2030-01-01T00:00:00Z", demoExpiry)] Deflate.inflate

/-- The assertion IDs that are signed, by the texts they are signed in. -/
def signedIds : List (String × String) :=
  [(Site.portal.responseXml, Site.portal.choice.assertionId), (Site.wiki.responseXml, Site.wiki.choice.assertionId)]

/-- The environment of the federation, whose backend accepts what is signed. -/
def deploymentEnvironment : Environment :=
  { deploymentTables with
    verifySignature _ text certFile _ nodeId :=
      if certFile = pem knownCertificate ∧ signedIds.lookup text = some nodeId then .ok true
      else .error .backendSignatureError }

/-- Answers are different texts where the IDs of their requests differ in the second character. -/
theorem answerXml_ne {choice choice' : AnswerChoice} {view view' : RequestView} {c c' : Char}
    (h : view.id.toList[1]? = some c) (h' : view'.id.toList[1]? = some c') (hne : c ≠ c') :
    answerXml choice view ≠ answerXml choice' view' := by
  intro heq
  rw [answerXml, answerXml, String.append_right_inj] at heq
  have hsame : (view'.id ++ answerClosingXml choice' view').toList[1]? = some c := heq ▸ getElem?_toList_append h _
  rw [getElem?_toList_append h'] at hsame
  exact hne (Option.some.inj hsame).symm

/-- An answer and the metadata differ in their second character. -/
theorem answerXml_ne_demoMetadataXml (choice : AnswerChoice) (view : RequestView) (location : String) :
    answerXml choice view ≠ demoMetadataXml location := by
  intro heq
  have hresponse : (answerXml choice view).toList[1]? = some 's' := by
    unfold answerXml answerOpeningXml
    refine getElem?_toList_append ?_ _
    decide +kernel
  have hmetadata : (demoMetadataXml location).toList[1]? = some 'm' := by
    unfold demoMetadataXml
    iterate 8 refine getElem?_toList_append ?_ _
    decide +kernel
  rw [heq, hmetadata] at hresponse
  exact absurd hresponse (by decide)

/-- The IDs of the requests differ in the second character. -/
theorem toList_requestIds : Site.portal.view.id.toList[1]? = some '1' ∧ Site.wiki.view.id.toList[1]? = some '2' ∧
    forgedView.id.toList[1]? = some '3' := by
  decide +kernel

/-- The texts of the federation differ by the IDs of the requests they answer. -/
theorem responseXml_ne : Site.wiki.responseXml ≠ Site.portal.responseXml ∧ forgedXml ≠ Site.portal.responseXml ∧
    forgedXml ≠ Site.wiki.responseXml := by
  obtain ⟨hportal, hwiki, hforged⟩ := toList_requestIds
  exact ⟨answerXml_ne hwiki hportal (by decide), answerXml_ne hforged hportal (by decide),
    answerXml_ne hforged hwiki (by decide)⟩

/-- The deployment's metadata is read in the environment of the federation. -/
theorem parseIdpMetadata_deployment :
    parseIdpMetadata deploymentEnvironment (demoMetadataXml demoLocation) = .ok demoIdp := by
  have htables : deploymentEnvironment.entityDescriptorFromString = deploymentTables.entityDescriptorFromString ∧
      deploymentEnvironment.parseSafeXml = deploymentTables.parseSafeXml := ⟨rfl, rfl⟩
  have hentity : deploymentEnvironment.entityDescriptorFromString (demoMetadataXml demoLocation) =
      .ok (some (demoDescriptor demoLocation)) := by
    rw [htables.1]
    exact entityDescriptorFromString_tableEnvironment_self
  have hroot : deploymentEnvironment.parseSafeXml false (demoMetadataXml demoLocation) =
      .ok (demoMetadata demoLocation) := by
    rw [htables.2]
    exact parseSafeXml_tableEnvironment_self false
  have hselect : selectSsoUrl deploymentEnvironment.tables (demoDescriptor demoLocation).idpssoDescriptor =
      .ok demoLocation := selectSsoUrl_demo
  rw [parseIdpMetadata_demoMetadata hentity hroot, hselect, ok_bind]
  exact IdPDescriptor.make_ok_iff.mpr ⟨rfl, rfl, rfl⟩

/-- An answer is parsed to its tree. -/
theorem parseSafeXml_site (site : Site) :
    deploymentEnvironment.parseSafeXml true site.responseXml = .ok (answerElement site.choice site.view) := by
  have htables : deploymentEnvironment.parseSafeXml = deploymentTables.parseSafeXml := rfl
  have hmetadata : site.responseXml ≠ demoMetadataXml demoLocation := answerXml_ne_demoMetadataXml _ _ _
  rw [htables, deploymentTables, parseSafeXml_tableEnvironment_of_ne hmetadata]
  cases site with
  | portal => exact parseSafeXml_tableEnvironment_self true
  | wiki =>
    rw [parseSafeXml_tableEnvironment_of_ne responseXml_ne.1]
    exact parseSafeXml_tableEnvironment_self true

/-- The forgery is parsed to its tree. -/
theorem parseSafeXml_forged :
    deploymentEnvironment.parseSafeXml true forgedXml = .ok (answerElement forgedChoice forgedView) := by
  have htables : deploymentEnvironment.parseSafeXml = deploymentTables.parseSafeXml := rfl
  have hmetadata : forgedXml ≠ demoMetadataXml demoLocation := answerXml_ne_demoMetadataXml _ _ _
  rw [htables, deploymentTables, parseSafeXml_tableEnvironment_of_ne hmetadata,
    parseSafeXml_tableEnvironment_of_ne responseXml_ne.2.1, parseSafeXml_tableEnvironment_of_ne responseXml_ne.2.2]
  exact parseSafeXml_tableEnvironment_self true

/-- The backend of the federation. -/
theorem verifySignature_deployment (binary text certFile nodeName nodeId : String) :
    deploymentEnvironment.verifySignature binary text certFile nodeName nodeId =
      if certFile = pem knownCertificate ∧ signedIds.lookup text = some nodeId then .ok true
      else .error .backendSignatureError := rfl

/-- The backend answers yes or rejects. -/
theorem backendErrors_deployment (binary text certFile nodeName nodeId : String) :
    RaisesOnly (fun e => isBackendRejection e = true)
      (deploymentEnvironment.verifySignature binary text certFile nodeName nodeId) := by
  rw [verifySignature_deployment]
  split
  · exact RaisesOnly.ok true
  · exact RaisesOnly.error rfl

/-- What the backend accepts is signed. -/
theorem lookup_of_verifySignature {binary text certFile nodeName nodeId : String}
    (h : deploymentEnvironment.verifySignature binary text certFile nodeName nodeId = .ok true) :
    signedIds.lookup text = some nodeId := by
  by_contra hnot
  rw [verifySignature_deployment, if_neg fun hboth => hnot hboth.2] at h
  cases h

/-- In an answer its assertion is signed. -/
theorem lookup_signedIds_site (site : Site) : signedIds.lookup site.responseXml = some site.choice.assertionId := by
  cases site with
  | portal => exact List.lookup_cons_self
  | wiki =>
    have hother : (Site.wiki.responseXml == Site.portal.responseXml) = false := beq_eq_false_iff_ne.mpr responseXml_ne.1
    rw [signedIds, List.lookup_cons, hother]
    exact List.lookup_cons_self

/-- In the forgery nothing is signed. -/
theorem lookup_signedIds_forged : signedIds.lookup forgedXml = none := by
  have hportal : (forgedXml == Site.portal.responseXml) = false := beq_eq_false_iff_ne.mpr responseXml_ne.2.1
  have hwiki : (forgedXml == Site.wiki.responseXml) = false := beq_eq_false_iff_ne.mpr responseXml_ne.2.2
  rw [signedIds, List.lookup_cons, hportal, List.lookup_cons, hwiki]
  rfl

/-- The timestamps of the deployment are read as documented. -/
theorem timestampErrors_deployment (value : String) :
    RaisesOnly (fun e => isTimestampError e = true) (deploymentEnvironment.fromisoformat value) :=
  RaisesOnly.required rfl

/-- The packages of the deployment do their part for an answer. -/
theorem supports_deployment (site : Site) :
    Supports deploymentEnvironment demoIdp site.responseXml site.choice.assertionId where
  schema := rfl
  valid := ⟨_, rfl, rfl⟩
  backend := by
    refine ⟨"/usr/bin/xmlsec1", rfl, fun certFile => backendErrors_deployment _ _ _ _ _, knownCertificate,
      List.mem_cons_self, ?_⟩
    rw [verifySignature_deployment, if_pos ⟨rfl, lookup_signedIds_site site⟩]

/-- What the backend accepts in an answer is backed once the assertion was signed. -/
theorem backed_deployment (site : Site) :
    Backed deploymentEnvironment demoIdp {site.assertion} site.responseXml := by
  refine backed_answer rfl (parseSafeXml_site site) fun binary certFile nodeId hanswer => ?_
  have hsigned := lookup_of_verifySignature hanswer
  rw [lookup_signedIds_site, Option.some.injEq] at hsigned
  exact hsigned.symm

/-- An answer is verified. -/
theorem verifiedResponse_deployment (site : Site) :
    verifiedResponse deploymentEnvironment site.responseXml demoIdp = .ok site.parsed :=
  verifiedResponse_answer (supports_deployment site) (parseSafeXml_site site)

/-- The checks pass on an answer exactly at its service provider, for its request. -/
theorem implementedChecks_deployment_iff (site : Site) {config : SamlConfig deploymentEnvironment.tables}
    {expectedInResponseTo : Option String} :
    implementedChecks deploymentEnvironment site.responseXml config demoIdp (.ok demoNow) expectedInResponseTo =
        .ok () ↔
      config.party = site.view.party ∧ expectedInResponseTo = some site.view.id ∧
        demoNow.utc < demoExpiry.utc + config.clockSkew.micros := by
  have hexpiry : instant? deploymentEnvironment site.choice.expiry = some demoExpiry := by cases site <;> rfl
  have hparty : strip site.view.party.entityId = site.view.party.entityId := by cases site <;> decide +kernel
  have hid : strip site.view.id ≠ "" := by cases site <;> decide +kernel
  rw [implementedChecks_answer_iff timestampErrors_deployment (supports_deployment site) (parseSafeXml_site site)
    hexpiry hparty]
  exact and_iff_right ⟨by decide, hid⟩

/-- An answer as it is delivered is decoded. -/
theorem decodeResponse_answer (choice : AnswerChoice) (view : RequestView) :
    decodeResponse deploymentEnvironment (posted (answerXml choice view)) = .ok (answerXml choice view) := by
  have hinflate : Inflate.Contract Deflate.inflate (fun e => e = .zlibError) deploymentEnvironment.decompress :=
    Inflate.ofFormat_contract Deflate.inflate rfl
  have hmarkup : OpensWithMarkup (answerXml choice view) := by
    unfold answerXml answerOpeningXml
    exact OpensWithMarkup.append (looksLikeXml_iff.mp (by decide +kernel)) _
  exact @decodeResponse_posted deploymentEnvironment hinflate _ hmarkup

/-- The identity provider has a certificate. -/
theorem signingCertificates_demoIdp : demoIdp.signingCertificates ≠ [] := List.cons_ne_nil _ _

/-- Both service providers are configured with that metadata. -/
theorem parseIdpMetadata_site (site : Site) :
    parseIdpMetadata deploymentEnvironment site.config.idpMetadata = .ok demoIdp := by
  cases site with
  | portal => exact parseIdpMetadata_deployment
  | wiki => exact parseIdpMetadata_deployment

/-- The service providers of the federation. -/
def deploymentServiceProviders (site : Site) : ServiceProvider deploymentEnvironment :=
  ⟨site.config, .ok demoNow, demoIdp, parseIdpMetadata_site site, signingCertificates_demoIdp⟩

end ApronSaml
