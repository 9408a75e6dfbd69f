import ApronSaml.BearerSemantics
import ApronSaml.UnsignedContent

/-!
# What an envelope can do

Around its assertion a Response may carry what it likes. All that the checks ask of it is
that the assertion is the only one and its IDs are its own, and that the Response is
addressed to this endpoint in answer to the expected request. Between two envelopes that
meet this the checks do not distinguish: what is accepted in one is accepted in the other.
-/

namespace ApronSaml

open Raising ElementTree Chronology

/-- What the checks ask of a Response apart from its assertion: it has no other, no ID is shared, and its addressing
names the endpoint and the expected request. -/
structure BenignEnvelope (parsed : ParsedResponse) (acsUrl : String) (expectedInResponseTo : Option String) : Prop where
  sole : ∃ path, parsed.position = some path ∧ tagged parsed.root assertionTag = [⟨path, parsed.assertion⟩]
  unique : ∀ n ∈ parsed.root.nodes, ∀ m ∈ parsed.root.nodes, ∀ id, CarriesId n.elem id → CarriesId m.elem id →
    n.path = m.path
  destination : ∀ destination ∈ parsed.root.get "Destination", destination = acsUrl
  answers : parsed.root.get "InResponseTo" = expectedInResponseTo

section Exchange

variable {env : Environment} {responseXml responseXml' : String} {parsed parsed' : ParsedResponse}
  {expectedInResponseTo : Option String}

/-- The schema step does not distinguish two unambiguous envelopes of an assertion. -/
theorem rejectSchemaInvalidAssertion_of_bare_eq (hjudges : JudgesAssertionAlone env)
    (h : Unambiguous env responseXml parsed) (h' : Unambiguous env responseXml' parsed')
    (hsame : parsed'.assertion.bare = parsed.assertion.bare)
    (hvalid : rejectSchemaInvalidAssertion env parsed = .ok ()) : rejectSchemaInvalidAssertion env parsed' = .ok () := by
  obtain ⟨namespaces, hnamespaces, hschema, hverdict⟩ := rejectSchemaInvalidAssertion_ok_iff.mp hvalid
  obtain ⟨hxml, _⟩ := parseResponse_ok_iff.mp h.parsed_ok
  obtain ⟨hxml', hroot', _⟩ := parseResponse_ok_iff.mp h'.parsed_ok
  rw [hxml] at hnamespaces hverdict
  obtain ⟨events, hevents⟩ := hjudges.namespaces _ _ hroot'
  obtain ⟨namespaces', hnamespaces'⟩ := exists_documentNamespaces hevents
  refine rejectSchemaInvalidAssertion_ok_iff.mpr ⟨namespaces', by rw [hxml', hnamespaces'], hschema, ?_⟩
  rw [hxml', ← hverdict]
  exact hjudges.validator _ _ _ _ h h' hsame _ _ hnamespaces hnamespaces'

/-- Signature verification does not distinguish two unambiguous envelopes of an assertion. -/
theorem verifyAssertionSignature_of_bare_eq (hjudges : JudgesAssertionAlone env)
    (h : Unambiguous env responseXml parsed) (h' : Unambiguous env responseXml' parsed')
    (hsame : parsed'.assertion.bare = parsed.assertion.bare) {idp : IdPDescriptor env.tables}
    (hverified : verifyAssertionSignature env parsed idp = .ok ()) : verifyAssertionSignature env parsed' idp = .ok () := by
  obtain ⟨signature, hlocate, hstrong, binary, hbinary, hany⟩ := verifyAssertionSignature_ok_iff.mp hverified
  have hbackend := hjudges.backend _ _ _ _ h h' hsame binary
  refine verifyAssertionSignature_ok_iff.mpr ⟨signature, ?_, hstrong, binary, hbinary, ?_⟩
  · rw [locateAssertionSignature_of_bare_eq hsame, assertionId_of_bare_eq hsame, hlocate]
  · rw [(parseResponse_ok_iff.mp h.parsed_ok).1] at hany
    rw [← hany, (parseResponse_ok_iff.mp h'.parsed_ok).1]
    exact congrArg (fun ask => anyTrue isBackendRejection ask idp.signingCertificates)
      (funext fun certBody => hbackend (pem certBody))

/-- Subject confirmation does not distinguish two envelopes of an assertion that are addressed to the endpoint in answer
to the request. -/
theorem validateSubjectConfirmation_of_bare_eq {config : SamlConfig env.tables} {now : DateTime}
    (hsame : parsed'.assertion.bare = parsed.assertion.bare)
    (hbenign' : BenignEnvelope parsed' config.acsUrl expectedInResponseTo)
    (hsubject : validateSubjectConfirmation env parsed config expectedInResponseTo now = .ok ()) :
    validateSubjectConfirmation env parsed' config expectedInResponseTo now = .ok () := by
  simp only [validateSubjectConfirmation, bind_ok_iff] at hsubject ⊢
  obtain ⟨_, hnow, _, hrequest, _, hallowed, _, _, confirmations, hconfirmations, hsatisfied⟩ := hsubject
  have haddressing := checkResponseAddressing_ok_iff.mpr ⟨hbenign'.destination, hbenign'.answers⟩
  exact ⟨(), hnow, (), hrequest, (), hallowed, (), haddressing, confirmations,
    (bearerConfirmations_of_bare_eq hsame).trans hconfirmations, hsatisfied⟩

/-- The envelope of an accepted assertion is benign. -/
theorem benignEnvelope_of_accepted {config : SamlConfig env.tables} {idp : IdPDescriptor env.tables}
    {clock : Py DateTime} (hparsed : parseResponse env responseXml = .ok parsed)
    (h : implementedChecks env responseXml config idp clock expectedInResponseTo = .ok ()) :
    BenignEnvelope parsed config.acsUrl expectedInResponseTo := by
  obtain ⟨parsed', now, hverified, _, _, hsubject⟩ := implementedChecks_ok_iff.mp h
  obtain ⟨hparse, hwrapping, _⟩ := verifiedResponse_ok_iff.mp hverified
  obtain rfl : parsed = parsed' := Except.ok.inj (hparsed.symm.trans hparse)
  obtain ⟨hsole, hunique, _⟩ := rejectSignatureWrapping_ok_iff.mp hwrapping
  obtain ⟨_, hdestination, hanswers⟩ := addressed_of_validateSubjectConfirmation hsubject
  exact ⟨(requireSoleConsumedAssertion_ok_iff.mp hsole).2, rejectAmbiguousIds_ok_iff.mp hunique, hdestination, hanswers⟩

/-- An assertion that is accepted in one envelope is accepted in every benign one. -/
theorem accepted_of_benignEnvelope (hjudges : JudgesAssertionAlone env)
    (hparsed : parseResponse env responseXml = .ok parsed) (hparsed' : parseResponse env responseXml' = .ok parsed')
    (hsame : parsed'.assertion.bare = parsed.assertion.bare) {config : SamlConfig env.tables}
    {idp : IdPDescriptor env.tables} {clock : Py DateTime}
    (hbenign' : BenignEnvelope parsed' config.acsUrl expectedInResponseTo)
    (hpasses : implementedChecks env responseXml config idp clock expectedInResponseTo = .ok ()) :
    implementedChecks env responseXml' config idp clock expectedInResponseTo = .ok () := by
  obtain ⟨parsed₀, now, hverified, hclock, hconditions, hsubject⟩ := implementedChecks_ok_iff.mp hpasses
  obtain ⟨hparse, hwrapping, hsignature⟩ := verifiedResponse_ok_iff.mp hverified
  obtain rfl : parsed = parsed₀ := Except.ok.inj (hparsed.symm.trans hparse)
  obtain ⟨hsole, hunique, hcount, hvalid⟩ := rejectSignatureWrapping_ok_iff.mp hwrapping
  have hsole' : requireSoleConsumedAssertion parsed' = .ok () := by
    refine requireSoleConsumedAssertion_ok_iff.mpr ⟨?_, hbenign'.sole⟩
    rw [assertionId_of_bare_eq hsame]
    exact (requireSoleConsumedAssertion_ok_iff.mp hsole).1
  have hunique' : rejectAmbiguousIds parsed' = .ok () := rejectAmbiguousIds_ok_iff.mpr hbenign'.unique
  have hboth : Unambiguous env responseXml parsed := ⟨hparsed, hsole, hunique⟩
  have hboth' : Unambiguous env responseXml' parsed' := ⟨hparsed', hsole', hunique'⟩
  refine implementedChecks_ok_iff.mpr ⟨parsed', now, verifiedResponse_ok_iff.mpr ⟨hparsed', ?_, ?_⟩, hclock, ?_, ?_⟩
  · exact rejectSignatureWrapping_ok_iff.mpr ⟨hsole', hunique',
      (requireSoleAssertionSignature_of_bare_eq hsame (tag_of_parseResponse hparsed)).trans hcount,
      rejectSchemaInvalidAssertion_of_bare_eq hjudges hboth hboth' hsame hvalid⟩
  · exact verifyAssertionSignature_of_bare_eq hjudges hboth hboth' hsame hsignature
  · exact (validateConditions_of_bare_eq hsame env _ now _).trans hconditions
  · exact validateSubjectConfirmation_of_bare_eq hsame hbenign' hsubject

/-- With one benign envelope of an assertion at hand, any other Response around it is accepted exactly when its own
envelope is benign and the assertion is accepted in the one at hand. -/
theorem accepted_iff_benignEnvelope (hjudges : JudgesAssertionAlone env)
    (hparsed : parseResponse env responseXml = .ok parsed) (hparsed' : parseResponse env responseXml' = .ok parsed')
    (hsame : parsed'.assertion.bare = parsed.assertion.bare) {config : SamlConfig env.tables}
    {idp : IdPDescriptor env.tables} {clock : Py DateTime}
    (hbenign' : BenignEnvelope parsed' config.acsUrl expectedInResponseTo) :
    implementedChecks env responseXml config idp clock expectedInResponseTo = .ok () ↔
      BenignEnvelope parsed config.acsUrl expectedInResponseTo ∧
        implementedChecks env responseXml' config idp clock expectedInResponseTo = .ok () := by
  constructor
  · intro h
    exact ⟨benignEnvelope_of_accepted hparsed h, accepted_of_benignEnvelope hjudges hparsed hparsed' hsame hbenign' h⟩
  · intro h
    obtain ⟨hbenign, hpasses⟩ := h
    exact accepted_of_benignEnvelope hjudges hparsed' hparsed hsame.symm hbenign hpasses

end Exchange

/-- The minimal envelope of the demonstration assertion is accepted and benign; so is the crowded one, and the
assertion is accepted in it as well. -/
theorem accepted_iff_benignEnvelope_crowded :
    implementedChecks crowdedEnvironment crowdedXml demoConfig demoIdp (.ok demoNow) (some "r1") = .ok () := by
  have hother : demoResponseXml demoIssuer ≠ crowdedXml := by
    rw [demoResponseXml, crowdedXml, ne_eq, String.append_left_inj]
    decide +kernel
  have hread : crowdedEnvironment.parseSafeXml true (demoResponseXml demoIssuer) =
      .ok (minimalResponse (some "r1") (demoAssertion demoIssuer)) :=
    (parseSafeXml_tableEnvironment_of_ne hother true).trans (parseSafeXml_tableEnvironment_self true)
  have hminimal : parseResponse crowdedEnvironment (demoResponseXml demoIssuer) = .ok demoParsed :=
    parseResponse_minimalResponse rfl hread
  have hcrowded : parseResponse crowdedEnvironment crowdedXml = .ok crowdedParsed :=
    parseResponse_ok_iff.mpr ⟨rfl, parseSafeXml_tableEnvironment_self true, rfl, ⟨successStatusCode, rfl, rfl⟩, 3, rfl, rfl⟩
  have hverified : verifiedResponse crowdedEnvironment (demoResponseXml demoIssuer) demoIdp = .ok demoParsed :=
    verifiedResponse_ok_iff.mpr ⟨hminimal, by decide +kernel, by decide +kernel⟩
  have hpasses : implementedChecks crowdedEnvironment (demoResponseXml demoIssuer) demoConfig demoIdp (.ok demoNow)
      (some "r1") = .ok () :=
    implementedChecks_ok_iff.mpr ⟨demoParsed, demoNow, hverified, rfl, by decide +kernel, by decide +kernel⟩
  have hsole : requireSoleConsumedAssertion crowdedParsed = .ok () := by decide +kernel
  have hunique : rejectAmbiguousIds crowdedParsed = .ok () := by decide +kernel
  have hbenign : BenignEnvelope crowdedParsed demoAcsUrl (some "r1") :=
    ⟨(requireSoleConsumedAssertion_ok_iff.mp hsole).2, rejectAmbiguousIds_ok_iff.mp hunique, by decide +kernel, rfl⟩
  exact (accepted_iff_benignEnvelope (judgesAssertionAlone_tableEnvironment _ _ _ _) hcrowded hminimal rfl
    (benignEnvelope_of_accepted hminimal hpasses)).mpr ⟨hbenign, hpasses⟩

end ApronSaml
