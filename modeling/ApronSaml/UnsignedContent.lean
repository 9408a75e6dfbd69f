import ApronSaml.Deployment

/-!
# Unsigned content can only cause rejection

Two runs are compared: one on an arbitrary Response, one on the Response that carries
nothing but the same assertion. Every check either reads the assertion alone, and then
answers the same in both runs, or scans the document for something that must not occur
twice, and then has less to find in the second.
-/

namespace ApronSaml

open Raising ElementTree Chronology

/-- The document was parsed and its assertion and IDs are unambiguous. -/
structure Unambiguous (env : Environment) (responseXml : String) (parsed : ParsedResponse) : Prop where
  parsed_ok : parseResponse env responseXml = .ok parsed
  sole : requireSoleConsumedAssertion parsed = .ok ()
  unique : rejectAmbiguousIds parsed = .ok ()

/-- On unambiguous documents the validator and the backend look at nothing but the assertion, its ID and the
certificate, and the namespace scan reads what the parser reads. -/
structure JudgesAssertionAlone (env : Environment) : Prop where
  namespaces : ∀ text root, env.parseSafeXml true text = .ok root → ∃ events, env.startNs text = .ok events
  validator : ∀ text text' parsed parsed', Unambiguous env text parsed → Unambiguous env text' parsed' →
    parsed'.assertion.bare = parsed.assertion.bare →
    ∀ namespaces namespaces', documentNamespaces env text = .ok namespaces →
      documentNamespaces env text' = .ok namespaces' →
      env.isValid text' (namespaces'.insert "saml" samlNs) = env.isValid text (namespaces.insert "saml" samlNs)
  backend : ∀ text text' parsed parsed', Unambiguous env text parsed → Unambiguous env text' parsed' →
    parsed'.assertion.bare = parsed.assertion.bare → ∀ binary certFile,
      env.verifySignature binary text' certFile assertionNodeName parsed'.assertionId =
        env.verifySignature binary text certFile assertionNodeName parsed.assertionId

section SameAssertion

variable {parsed parsed' : ParsedResponse} {assertion assertion' : Element}

/-- The same assertion has the same ID. -/
theorem assertionId_of_bare_eq (h : parsed'.assertion.bare = parsed.assertion.bare) :
    parsed'.assertionId = parsed.assertionId := by
  rw [ParsedResponse.assertionId, Element.get_of_bare_eq h, ParsedResponse.assertionId]

/-- The signature is located in the assertion alone. -/
theorem locateAssertionSignature_of_bare_eq (h : parsed'.assertion.bare = parsed.assertion.bare) :
    locateAssertionSignature parsed' = locateAssertionSignature parsed := by
  simp only [locateAssertionSignature, assertionId_of_bare_eq h, Element.findall_of_bare_eq h]

/-- The signatures are counted in the assertion alone, which is no signature itself. -/
theorem requireSoleAssertionSignature_of_bare_eq (h : parsed'.assertion.bare = parsed.assertion.bare)
    (htag : parsed.assertion.tag = assertionTag) :
    requireSoleAssertionSignature parsed' = requireSoleAssertionSignature parsed := by
  have hbelow (e : Element) (he : e.tag = assertionTag) :
      tagged e signatureTag = (Element.nodesBelow [] 0 e.children).filter fun n => n.elem.tag == signatureTag := by
    have hother : (e.tag == signatureTag) = false := by
      rw [he]
      decide +kernel
    rw [tagged, Element.nodes_eq, List.filter_cons_of_neg (by simp [hother])]
  have htag' : parsed'.assertion.tag = assertionTag := (Element.tag_of_bare_eq h).trans htag
  simp only [requireSoleAssertionSignature, hbelow _ htag, hbelow _ htag', Element.children_of_bare_eq h]

/-- The conditions are read from the assertion alone. -/
theorem validateConditions_of_bare_eq (h : assertion'.bare = assertion.bare) (env : Environment) (audience : String)
    (now : DateTime) (clockSkew : TimeDelta) :
    validateConditions env assertion' audience now clockSkew =
      validateConditions env assertion audience now clockSkew := by
  simp only [validateConditions, Element.findall_of_bare_eq h]

/-- The confirmations are read from the assertion alone. -/
theorem bearerConfirmations_of_bare_eq (h : assertion'.bare = assertion.bare) :
    bearerConfirmations assertion' = bearerConfirmations assertion := by
  simp only [bearerConfirmations, Element.findall_of_bare_eq h]

end SameAssertion

/-- An element without ID-typed attributes carries no ID. -/
theorem not_carriesId_of_get {e : Element} {id : String} (h : ∀ name ∈ idAttrs, e.get name = none) :
    ¬ CarriesId e id := by
  intro hcarries
  obtain ⟨name, hname, value, hvalue, _⟩ := hcarries
  simp [h name hname] at hvalue

section Minimal

variable {env : Environment} {responseXml minimalXml : String} {parsed : ParsedResponse} {assertion : Element}
  {expectedInResponseTo : Option String}

/-- An object of the minimal Response that carries an ID is one of the original Response at the same place below
the assertion, and carries the ID there. -/
theorem exists_original_of_carriesId {i : ℕ} (hposition : parsed.position = some [i])
    (hsame : assertion.bare = parsed.assertion.bare) {n : Node} {id : String}
    (hn : n ∈ (minimalResponse expectedInResponseTo assertion).nodes) (hid : CarriesId n.elem id) :
    ∃ below, n.path = 1 :: below ∧ ∃ m ∈ parsed.root.nodes, m.path = i :: below ∧ CarriesId m.elem id := by
  rcases mem_nodes_minimalResponse.mp hn with rfl | rfl | rfl | ⟨m, hm, rfl⟩
  · have hother : ∀ name ∈ idAttrs, name ≠ "InResponseTo" := by decide +kernel
    exact absurd hid (not_carriesId_of_get fun name hname => get_minimalResponse (hother name hname))
  · exact absurd hid (not_carriesId_of_get (by decide +kernel))
  · exact absurd hid (not_carriesId_of_get (by decide +kernel))
  · obtain ⟨m', hm', hpath, hbare⟩ := Element.exists_mem_nodes_of_bare_eq hsame hm
    refine ⟨m.path, rfl, ⟨i :: m.path, m'.elem⟩, ?_, rfl, ?_⟩
    · have hobject := Element.mem_nodes_of_subtree (parsed.position_spec [i] hposition) hm'
      rwa [hpath] at hobject
    · obtain ⟨name, hname, value, hvalue, hnormal⟩ := hid
      exact ⟨name, hname, value, by rwa [Element.get_of_bare_eq hbare], hnormal⟩

/-- The ID scan passes on the minimal Response when it does on the original one. -/
theorem rejectAmbiguousIds_minimalParsed {i : ℕ} (hposition : parsed.position = some [i])
    (hsame : assertion.bare = parsed.assertion.bare) (hunique : rejectAmbiguousIds parsed = .ok ()) :
    rejectAmbiguousIds (minimalParsed minimalXml expectedInResponseTo assertion) = .ok () := by
  rw [rejectAmbiguousIds_ok_iff]
  intro n hn m hm id hid hid'
  obtain ⟨below, hpath, n', hn', hpath', hcarries⟩ := exists_original_of_carriesId hposition hsame hn hid
  obtain ⟨below', hpathm, m', hm', hpathm', hcarries'⟩ := exists_original_of_carriesId hposition hsame hm hid'
  have hone : n'.path = m'.path := rejectAmbiguousIds_ok_iff.mp hunique n' hn' m' hm' id hcarries hcarries'
  rw [hpath', hpathm', List.cons.injEq] at hone
  rw [hpath, hpathm, hone.2]

/-- The sole-assertion check passes on the minimal Response when it does on the original one. -/
theorem requireSoleConsumedAssertion_minimalParsed (hsame : assertion.bare = parsed.assertion.bare)
    (hsole : requireSoleConsumedAssertion parsed = .ok ()) :
    requireSoleConsumedAssertion (minimalParsed minimalXml expectedInResponseTo assertion) = .ok () := by
  obtain ⟨hid, path, hposition, hfound⟩ := requireSoleConsumedAssertion_ok_iff.mp hsole
  obtain ⟨_, htag, honly⟩ := Element.filter_nodes_eq_singleton_iff.mp hfound
  have hsame' : (minimalParsed minimalXml expectedInResponseTo assertion).assertion.bare =
      parsed.assertion.bare := hsame
  refine requireSoleConsumedAssertion_ok_iff.mpr ⟨by rwa [assertionId_of_bare_eq hsame'], [1], rfl, ?_⟩
  refine Element.filter_nodes_eq_singleton_iff.mpr ⟨?_, ?_, fun n hn hntag => ?_⟩
  · exact Element.mem_nodes.mpr ((at?_minimalResponse []).trans (Element.at?_nil assertion))
  · rw [← Element.tag_of_bare_eq hsame] at htag
    exact htag
  rcases mem_nodes_minimalResponse.mp hn with rfl | rfl | rfl | ⟨m, hm, rfl⟩
  · exact absurd (show (qname samlpNs "Response" == assertionTag) = true from hntag) (by decide +kernel)
  · exact absurd hntag (by decide +kernel)
  · exact absurd hntag (by decide +kernel)
  · -- an assertion inside the assertion would be a second one in the original document
    obtain ⟨m', hm', hpath, hbare⟩ := Element.exists_mem_nodes_of_bare_eq hsame hm
    have hobject := Element.mem_nodes_of_subtree (parsed.position_spec path hposition) hm'
    have hmtag : (m'.elem.tag == assertionTag) = true := by
      rw [Element.tag_of_bare_eq hbare]
      exact hntag
    have hroot : m'.path = [] := by simpa using congrArg Node.path (honly _ hobject hmtag)
    have hat := Element.mem_nodes.mp hm
    rw [← hpath, hroot, Element.at?_nil, Option.some.injEq] at hat
    rw [← hpath, hroot, ← hat]
    rfl

/-- The minimal Response is unambiguous when the original one is. -/
theorem Unambiguous.minimal (h : Unambiguous env responseXml parsed)
    (hsame : assertion.bare = parsed.assertion.bare)
    (hminimal : env.parseSafeXml true minimalXml = .ok (minimalResponse expectedInResponseTo assertion)) :
    Unambiguous env minimalXml (minimalParsed minimalXml expectedInResponseTo assertion) := by
  obtain ⟨_, _, _, _, i, _, hposition⟩ := parseResponse_ok_iff.mp h.parsed_ok
  have htag : assertion.tag = assertionTag :=
    (Element.tag_of_bare_eq hsame).trans (tag_of_parseResponse h.parsed_ok)
  exact ⟨parseResponse_minimalResponse htag hminimal, requireSoleConsumedAssertion_minimalParsed hsame h.sole,
    rejectAmbiguousIds_minimalParsed hposition hsame h.unique⟩

/-- Where the events can be read there are namespaces. -/
theorem exists_documentNamespaces {text : String} {events : List (String × String)}
    (h : env.startNs text = .ok events) : ∃ namespaces, documentNamespaces env text = .ok namespaces :=
  ⟨_, by rw [documentNamespaces, h, ok_bind]⟩

/-- The schema step passes on the minimal Response when it does on the original one. -/
theorem rejectSchemaInvalidAssertion_minimalParsed (hjudges : JudgesAssertionAlone env)
    (h : Unambiguous env responseXml parsed) (hsame : assertion.bare = parsed.assertion.bare)
    (hminimal : env.parseSafeXml true minimalXml = .ok (minimalResponse expectedInResponseTo assertion))
    (hvalid : rejectSchemaInvalidAssertion env parsed = .ok ()) :
    rejectSchemaInvalidAssertion env (minimalParsed minimalXml expectedInResponseTo assertion) = .ok () := by
  obtain ⟨namespaces, hnamespaces, hschema, hverdict⟩ := rejectSchemaInvalidAssertion_ok_iff.mp hvalid
  rw [(parseResponse_ok_iff.mp h.parsed_ok).1] at hnamespaces hverdict
  obtain ⟨events, hevents⟩ := hjudges.namespaces _ _ hminimal
  obtain ⟨namespaces', hnamespaces'⟩ := exists_documentNamespaces hevents
  refine rejectSchemaInvalidAssertion_ok_iff.mpr ⟨namespaces', hnamespaces', hschema, ?_⟩
  rw [← hverdict]
  exact hjudges.validator _ _ _ _ h (h.minimal hsame hminimal) hsame _ _ hnamespaces hnamespaces'

/-- The signature step passes on the minimal Response when it does on the original one. -/
theorem verifyAssertionSignature_minimalParsed (hjudges : JudgesAssertionAlone env)
    (h : Unambiguous env responseXml parsed) (hsame : assertion.bare = parsed.assertion.bare)
    (hminimal : env.parseSafeXml true minimalXml = .ok (minimalResponse expectedInResponseTo assertion))
    {idp : IdPDescriptor env.tables} (hverified : verifyAssertionSignature env parsed idp = .ok ()) :
    verifyAssertionSignature env (minimalParsed minimalXml expectedInResponseTo assertion) idp = .ok () := by
  have hsame' : (minimalParsed minimalXml expectedInResponseTo assertion).assertion.bare =
      parsed.assertion.bare := hsame
  obtain ⟨signature, hlocate, hstrong, binary, hbinary, hany⟩ := verifyAssertionSignature_ok_iff.mp hverified
  have hbackend := hjudges.backend _ _ _ _ h (h.minimal hsame hminimal) hsame binary
  rw [(parseResponse_ok_iff.mp h.parsed_ok).1] at hany
  refine verifyAssertionSignature_ok_iff.mpr ⟨signature, ?_, hstrong, binary, hbinary, ?_⟩
  · rw [locateAssertionSignature_of_bare_eq hsame', assertionId_of_bare_eq hsame', hlocate]
  · rw [← hany]
    exact congrArg (fun ask => anyTrue isBackendRejection ask idp.signingCertificates)
      (funext fun certBody => hbackend (pem certBody))

/-- The subject confirmation passes on the minimal Response when it does on the original one. -/
theorem validateSubjectConfirmation_minimalParsed {config : SamlConfig env.tables} {now : DateTime}
    (hsame : assertion.bare = parsed.assertion.bare)
    (hsubject : validateSubjectConfirmation env parsed config expectedInResponseTo now = .ok ()) :
    validateSubjectConfirmation env (minimalParsed minimalXml expectedInResponseTo assertion) config
      expectedInResponseTo now = .ok () := by
  simp only [validateSubjectConfirmation, bind_ok_iff] at hsubject ⊢
  obtain ⟨_, hnow, _, hrequest, _, hallowed, _, _, confirmations, hconfirmations, hsatisfied⟩ := hsubject
  have hdestination : (minimalResponse expectedInResponseTo assertion).get "Destination" = none :=
    get_minimalResponse (by decide)
  have haddressing : checkResponseAddressing (minimalResponse expectedInResponseTo assertion) config.acsUrl
      expectedInResponseTo = .ok () :=
    checkResponseAddressing_ok_iff.mpr ⟨by simp [hdestination], get_inResponseTo_minimalResponse⟩
  exact ⟨(), hnow, (), hrequest, (), hallowed, (), haddressing, confirmations,
    (bearerConfirmations_of_bare_eq hsame).trans hconfirmations, hsatisfied⟩

/-- When a Response passes every implemented check, so does the Response that carries nothing but its
assertion: what stands around the assertion can only cause rejection. -/
theorem unsigned_content_only_rejects (hjudges : JudgesAssertionAlone env)
    (hparsed : parseResponse env responseXml = .ok parsed) (hsame : assertion.bare = parsed.assertion.bare)
    (hminimal : env.parseSafeXml true minimalXml = .ok (minimalResponse expectedInResponseTo assertion))
    {config : SamlConfig env.tables} {idp : IdPDescriptor env.tables} {clock : Py DateTime}
    (hpasses : implementedChecks env responseXml config idp clock expectedInResponseTo = .ok ()) :
    implementedChecks env minimalXml config idp clock expectedInResponseTo = .ok () := by
  obtain ⟨parsed', now, hverified, hclock, hconditions, hsubject⟩ := implementedChecks_ok_iff.mp hpasses
  obtain ⟨hparse, hwrapping, hsignature⟩ := verifiedResponse_ok_iff.mp hverified
  obtain rfl : parsed = parsed' := by simpa [hparsed] using hparse
  obtain ⟨hsole, hunique, hcount, hvalid⟩ := rejectSignatureWrapping_ok_iff.mp hwrapping
  have h : Unambiguous env responseXml parsed := ⟨hparsed, hsole, hunique⟩
  have h' := h.minimal hsame hminimal
  refine implementedChecks_ok_iff.mpr ⟨_, now, verifiedResponse_ok_iff.mpr ⟨h'.parsed_ok, ?_, ?_⟩, hclock, ?_, ?_⟩
  · exact rejectSignatureWrapping_ok_iff.mpr ⟨h'.sole, h'.unique,
      (requireSoleAssertionSignature_of_bare_eq hsame (tag_of_parseResponse hparsed)).trans hcount,
      rejectSchemaInvalidAssertion_minimalParsed hjudges h hsame hminimal hvalid⟩
  · exact verifyAssertionSignature_minimalParsed hjudges h hsame hminimal hsignature
  · exact (validateConditions_of_bare_eq hsame env _ now _).trans hconditions
  · exact validateSubjectConfirmation_minimalParsed hsame hsubject

end Minimal

/-- A deployment given by tables judges assertions alone: its validator and its backend look at no document. -/
theorem judgesAssertionAlone_tableEnvironment (documents : List (String × Element))
    (descriptors : List (String × EntityDescriptor)) (instants : List (String × DateTime)) (format : Inflate.Format) :
    JudgesAssertionAlone (tableEnvironment documents descriptors instants format) where
  namespaces _ _ _ := ⟨_, rfl⟩
  validator _ _ _ _ _ _ _ _ _ _ _ := rfl
  backend _ _ _ _ _ _ _ _ _ := rfl

/-- The text of a Response with a destination, an issuer, a signature of its own and a status message, up to the
name of the assertion's issuer. -/
def crowdedOpeningXml : String :=
  "<samlp:Response xmlns:samlp=\"urn:oasis:names:tc:SAML:2.0:protocol\" ID=\"r0\" InResponseTo=\"r1\" " ++
  "Destination=\"https://sp.example.com/acs\"><saml:Issuer xmlns:saml=\"urn:oasis:names:tc:SAML:2.0:assertion\">" ++
  "https://idp.example.com</saml:Issuer><ds:Signature xmlns:ds=\"http://www.w3.org/2000/09/xmldsig#\"/>" ++
  "<samlp:Status><samlp:StatusCode Value=\"urn:oasis:names:tc:SAML:2.0:status:Success\"/>" ++
  "<samlp:StatusMessage>welcome</samlp:StatusMessage></samlp:Status>" ++
  "<saml:Assertion xmlns:saml=\"urn:oasis:names:tc:SAML:2.0:assertion\" ID=\"a1\" Version=\"2.0\" " ++
  "IssueInstant=\"2024-05-01T00:00:00Z\"><saml:Issuer>"

/-- The text of the crowded Response. -/
def crowdedXml : String := crowdedOpeningXml ++ (demoIssuer ++ demoClosingXml)

/-- The tree of the crowded Response. -/
def crowdedResponse : Element :=
  ⟨qname samlpNs "Response", [("ID", "r0"), ("InResponseTo", "r1"), ("Destination", demoAcsUrl)], none, [
    ⟨qname samlNs "Issuer", [], some demoIssuer, [], none⟩,
    ⟨signatureTag, [], none, [], none⟩,
    ⟨qname samlpNs "Status", [], none, [
      successStatusCode, ⟨qname samlpNs "StatusMessage", [], some "welcome", [], none⟩], none⟩,
    demoAssertion demoIssuer], none⟩

/-- The crowded Response as it is parsed. -/
def crowdedParsed : ParsedResponse :=
  ⟨crowdedXml, demoAssertion demoIssuer, crowdedResponse, some [3], by rintro _ ⟨rfl⟩; rfl⟩

/-- An environment of the crowded Response and the minimal one around its assertion. -/
def crowdedEnvironment : Environment :=
  tableEnvironment [(crowdedXml, crowdedResponse),
    (demoResponseXml demoIssuer, minimalResponse (some "r1") (demoAssertion demoIssuer))]
    [] [("2030-01-01T00:00:00Z", demoExpiry)] fun _ => none

/-- The crowded Response passes every check, and so does the minimal one around its assertion. -/
theorem unsigned_content_only_rejects_crowded :
    implementedChecks crowdedEnvironment (demoResponseXml demoIssuer) demoConfig demoIdp (.ok demoNow) (some "r1") =
      .ok () := by
  have hread : crowdedEnvironment.parseSafeXml true crowdedXml = .ok crowdedResponse :=
    parseSafeXml_tableEnvironment_self true
  have hminimal : crowdedEnvironment.parseSafeXml true (demoResponseXml demoIssuer) =
      .ok (minimalResponse (some "r1") (demoAssertion demoIssuer)) := by
    have hother : demoResponseXml demoIssuer ≠ crowdedXml := by
      rw [demoResponseXml, crowdedXml, ne_eq, String.append_left_inj]
      decide +kernel
    exact (parseSafeXml_tableEnvironment_of_ne hother true).trans (parseSafeXml_tableEnvironment_self true)
  have hparsed : parseResponse crowdedEnvironment crowdedXml = .ok crowdedParsed :=
    parseResponse_ok_iff.mpr ⟨rfl, hread, rfl, ⟨successStatusCode, rfl, rfl⟩, 3, rfl, rfl⟩
  have hverified : verifiedResponse crowdedEnvironment crowdedXml demoIdp = .ok crowdedParsed :=
    verifiedResponse_ok_iff.mpr ⟨hparsed, by decide +kernel, by decide +kernel⟩
  have hpasses : implementedChecks crowdedEnvironment crowdedXml demoConfig demoIdp (.ok demoNow) (some "r1") =
      .ok () :=
    implementedChecks_ok_iff.mpr ⟨crowdedParsed, demoNow, hverified, rfl, by decide +kernel, by decide +kernel⟩
  exact unsigned_content_only_rejects (judgesAssertionAlone_tableEnvironment _ _ _ _) hparsed rfl hminimal hpasses

end ApronSaml
