import ApronSaml.ErrorFrontier

/-!
# What a sender without a signed assertion can learn

The checks run in trust order: the configuration, the clock and the expected request are
looked at only once the signature has verified. A Response in which no assertion is one
that was signed gets one and the same answer from every service provider that trusts the
identity provider, at any time and whatever requests are outstanding there.
-/

namespace ApronSaml

open Raising ElementTree Chronology TextEncoding

/-- No assertion of the document has the events of a signed element but for its signature. -/
def CarriesNothingSigned (signed : Set Element) (root : Element) : Prop :=
  ∀ n ∈ tagged root assertionTag, ∀ e ∈ signed,
    e.events ≠ wrap n.elem (n.elem.items fun c => c.tag != signatureTag)

/-- What is delivered is a document with no signed assertion, whose signatures verify only where they were made. -/
def IsProbe (env : Environment) (idp : IdPDescriptor env.tables) (signed : Set Element) (samlResponseB64 : List CodePoint) :
    Prop :=
  ∀ responseXml, decodeResponse env samlResponseB64 = .ok responseXml → Backed env idp signed responseXml ∧
    ∀ root, env.parseSafeXml true responseXml = .ok root → CarriesNothingSigned signed root

section Probes

variable {env : Environment} {idp : IdPDescriptor env.tables} {signed : Set Element}

/-- The pipeline up to a verified signature rejects by a `SamlError`. -/
theorem verifiedResponse_raisesOnly (hdocumented : FailsAsDocumented env) (responseXml : String)
    (idp : IdPDescriptor env.tables) : RaisesOnly IsRejection (verifiedResponse env responseXml idp) := by
  refine RaisesOnly.bind (parseResponse_raisesOnly hdocumented responseXml) fun parsed _ => ?_
  refine RaisesOnly.bind (rejectSignatureWrapping_raisesOnly hdocumented parsed) fun _ _ => ?_
  exact RaisesOnly.bind (isRejection_of_verifyAssertionSignature hdocumented parsed idp) fun _ _ => RaisesOnly.ok parsed

/-- The signature of a Response without a signed assertion does not verify. -/
theorem verifiedResponse_ne_ok {responseXml : String} {parsed : ParsedResponse}
    (hbacked : Backed env idp signed responseXml)
    (hnothing : ∀ root, env.parseSafeXml true responseXml = .ok root → CarriesNothingSigned signed root) :
    verifiedResponse env responseXml idp ≠ .ok parsed := by
  intro h
  obtain ⟨e, he, hevents⟩ := signed_of_verified h hbacked
  obtain ⟨i, hsole, _⟩ := sole_assertion_of_verified h
  obtain ⟨hparse, _⟩ := verifiedResponse_ok_iff.mp h
  obtain ⟨_, hroot, _⟩ := parseResponse_ok_iff.mp hparse
  exact hnothing _ hroot ⟨[i], parsed.assertion⟩ (by simp [hsole]) e he hevents

/-- A Response without a signed assertion has one answer, a `SamlError`: every service provider that trusts the identity
provider gives it, whatever its configuration, its clock and the request it expects. -/
theorem probe_has_one_answer (hdocumented : FailsAsDocumented env) {samlResponseB64 : List CodePoint}
    (hprobe : IsProbe env idp signed samlResponseB64) :
    ∃ kind message, ∀ sp : ServiceProvider env, sp.idp = idp → ∀ expectedInResponseTo,
      sp.processResponse samlResponseB64 expectedInResponseTo = .error (.saml kind message) := by
  cases hdecode : decodeResponse env samlResponseB64 with
  | error e =>
    obtain ⟨message, rfl⟩ := decodeResponse_raisesOnly hdocumented.inflate samlResponseB64 e hdecode
    refine ⟨.malformedResponseError, message, fun sp _ expectedInResponseTo => ?_⟩
    rw [ServiceProvider.processResponse, hdecode, error_bind]
    rfl
  | ok responseXml =>
    obtain ⟨hbacked, hnothing⟩ := hprobe responseXml hdecode
    cases hverified : verifiedResponse env responseXml idp with
    | ok parsed => exact absurd hverified (verifiedResponse_ne_ok hbacked hnothing)
    | error e =>
      have hrejection := verifiedResponse_raisesOnly hdocumented responseXml idp e hverified
      obtain ⟨kind, message, rfl⟩ := IsRejection.exists_saml hrejection
      refine ⟨kind, message, fun sp hidp expectedInResponseTo => ?_⟩
      rw [ServiceProvider.processResponse, hdecode, ok_bind, validateAndExtract_eq, implementedChecks, hidp, hverified,
        error_bind, error_bind]

end Probes

/-- An answer around an assertion of an ID that was never signed carries nothing signed. -/
theorem carriesNothingSigned_answer {signed : Set Element} {choice : AnswerChoice} {view : RequestView}
    {signature : EnvelopedSignature choice.assertionId} (h : ∀ e ∈ signed, e.get "ID" ≠ some choice.assertionId) :
    CarriesNothingSigned signed (choice.response view signature) := by
  intro n hn e he hevents
  obtain ⟨hmem, htag⟩ := List.mem_filter.mp hn
  obtain rfl := eq_assertion_of_mem_nodes_response hmem (Or.inl (by simpa using htag))
  obtain ⟨_, hget, _⟩ := Element.of_events_eq_wrap hevents
  exact h e he (by rw [hget]; rfl)

/-- Both assertions of the federation are signed, and the forgery is around another one: at any time and whatever they
expect, the portal and the wiki give it one answer. -/
theorem probe_has_one_answer_deployment : ∃ kind message, ∀ site clock expectedInResponseTo,
    ({ deploymentServiceProviders site with clock := clock } : ServiceProvider deploymentEnvironment).processResponse
      (posted forgedXml) expectedInResponseTo = .error (.saml kind message) := by
  have hnothing : CarriesNothingSigned {Site.portal.assertion, Site.wiki.assertion}
      (answerElement forgedChoice forgedView) := by
    refine carriesNothingSigned_answer ?_
    rintro e (rfl | rfl)
    · decide
    · decide
  have hprobe : IsProbe deploymentEnvironment demoIdp {Site.portal.assertion, Site.wiki.assertion}
      (posted forgedXml) := by
    intro responseXml hdecode
    obtain rfl : forgedXml = responseXml :=
      Except.ok.inj ((decodeResponse_answer forgedChoice forgedView).symm.trans hdecode)
    constructor
    · intro root binary certBody nodeId _ _ hanswer
      have hsigned := lookup_of_verifySignature hanswer
      rw [lookup_signedIds_forged] at hsigned
      cases hsigned
    · intro root hroot
      obtain rfl : answerElement forgedChoice forgedView = root := Except.ok.inj (parseSafeXml_forged.symm.trans hroot)
      exact hnothing
  obtain ⟨kind, message, hanswer⟩ := probe_has_one_answer failsAsDocumented_deployment hprobe
  exact ⟨kind, message, fun site clock expectedInResponseTo => hanswer _ rfl expectedInResponseTo⟩

end ApronSaml
