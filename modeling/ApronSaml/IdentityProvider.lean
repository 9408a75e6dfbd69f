import ApronSaml.LoginRuns

/-!
# Requests and their answers

A service provider accepts the answer to a request exactly when it is the party of the
request, expects the request, and the expiry has not passed by more than the skew. So the
requests and the metadata that a service provider writes ask for what it accepts, and from
every state of the system a login can be completed.
-/

namespace ApronSaml

open Raising Whitespace ElementTree Chronology TextEncoding

section Logins

variable {env : Environment} {choice : AnswerChoice} {view : RequestView}
  {signature : EnvelopedSignature choice.assertionId} {responseXml : String} {expiry now : DateTime}
  {expectedInResponseTo : Option String} {builder : MessageBuilder} {relayState : Option String} {clock : Py DateTime}
  {request : AuthnRequest} {parse : String → Option Element} {samlResponseB64 : List CodePoint}

/-- An answer is accepted exactly at the party of the request, for the request, and until the expiry has passed by the
skew. -/
theorem acceptedResponse_answer_iff
    (htimestamps : ∀ value, RaisesOnly (fun e => isTimestampError e = true) (env.fromisoformat value))
    {sp : ServiceProvider env} (hdecode : decodeResponse env samlResponseB64 = .ok responseXml)
    (hparse : env.parseSafeXml true responseXml = .ok (choice.response view signature))
    (hsupports : Supports env sp.idp responseXml choice.assertionId)
    (hexpiry : instant? env choice.expiry = some expiry) (hparty : strip view.party.entityId = view.party.entityId)
    {parsed : ParsedResponse} :
    sp.acceptedResponse samlResponseB64 expectedInResponseTo now = .ok parsed ↔
      parsed = choice.parsed view signature responseXml ∧
        (now.Aware ∧ strip view.id ≠ "") ∧ sp.config.party = view.party ∧ expectedInResponseTo = some view.id ∧
        now.utc < expiry.utc + sp.config.clockSkew.micros := by
  have hverified := verifiedResponse_answer hsupports hparse
  rw [ServiceProvider.acceptedResponse_ok_iff htimestamps,
    ← implementedChecks_answer_iff htimestamps hsupports hparse hexpiry hparty]
  constructor
  · intro h
    obtain ⟨responseXml', hdecode', hverified', hchecks⟩ := h
    obtain rfl : responseXml = responseXml' := Except.ok.inj (hdecode.symm.trans hdecode')
    exact ⟨Except.ok.inj (hverified'.symm.trans hverified), hchecks⟩
  · rintro ⟨rfl, hchecks⟩
    exact ⟨responseXml, hdecode, hverified, hchecks⟩

/-- The answer to what was read of a request is accepted exactly where the entity ID and the endpoint are those of the
service provider that built the request, for its ID, and until the expiry has passed by the skew. -/
theorem answer_accepted_iff
    (htimestamps : ∀ value, RaisesOnly (fun e => isTimestampError e = true) (env.fromisoformat value))
    {requester : SamlConfig env.tables} {idp : IdPDescriptor env.tables}
    (hbuild : buildAuthnRequest builder requester idp relayState clock = .ok request)
    (hread : ∀ issueInstant, ReadsBack builder parse
      (authnRequestElement request.requestId issueInstant idp.ssoUrl requester.acsUrl requester.entityId))
    (hview : (parse request.xml).bind RequestView.read = some view)
    (hdecode : decodeResponse env samlResponseB64 = .ok responseXml)
    (hparse : env.parseSafeXml true responseXml = .ok (choice.response view signature))
    (hexpiry : instant? env choice.expiry = some expiry) (sp : ServiceProvider env)
    (hsupports : Supports env sp.idp responseXml choice.assertionId) (expectedInResponseTo : Option String)
    (now : DateTime) :
    (∃ parsed, sp.acceptedResponse samlResponseB64 expectedInResponseTo now = .ok parsed) ↔
      (now.Aware ∧ strip request.requestId ≠ "") ∧
        (sp.config.entityId = requester.entityId ∧ sp.config.acsUrl = requester.acsUrl) ∧
        expectedInResponseTo = some request.requestId ∧ now.utc < expiry.utc + sp.config.clockSkew.micros := by
  obtain rfl := view_of_buildAuthnRequest hbuild hread hview
  have haccepted (parsed : ParsedResponse) :
      sp.acceptedResponse samlResponseB64 expectedInResponseTo now = .ok parsed ↔ _ :=
    acceptedResponse_answer_iff htimestamps hdecode hparse hsupports hexpiry requester.entityId_strip
  have hparty : sp.config.party = requester.party ↔
      sp.config.entityId = requester.entityId ∧ sp.config.acsUrl = requester.acsUrl := SamlConfig.party_eq_iff
  rw [← hparty]
  constructor
  · intro h
    obtain ⟨parsed, h⟩ := h
    exact ((haccepted parsed).mp h).2
  · intro h
    exact ⟨_, (haccepted _).mpr ⟨rfl, h⟩⟩

variable {ι A : Type} {sps : ι → ServiceProvider env} {s : LoginState ι A}

/-- From every state, whatever was issued, signed, delivered and given up before, an agent can log in at a service
provider by a fresh request and the answer to what is read of it: until the expiry has passed by the skew the answer is
accepted, the login is recorded behind the earlier ones, and its request is not outstanding any more. -/
theorem login_completes
    (htimestamps : ∀ value, RaisesOnly (fun e => isTimestampError e = true) (env.fromisoformat value)) (agent : A) (i : ι)
    (hbuild : buildAuthnRequest builder (sps i).config (sps i).idp relayState clock = .ok request)
    (hfresh : ∀ other, (other, i, request.requestId) ∉ s.issued) (hid : strip request.requestId ≠ "")
    (hread : ∀ issueInstant, ReadsBack builder parse (authnRequestElement request.requestId issueInstant
      (sps i).idp.ssoUrl (sps i).config.acsUrl (sps i).config.entityId))
    (hview : (parse request.xml).bind RequestView.read = some view)
    (hdecode : decodeResponse env samlResponseB64 = .ok responseXml)
    (hparse : env.parseSafeXml true responseXml = .ok (choice.response view signature))
    (hexpiry : instant? env choice.expiry = some expiry)
    (hsupports : Supports env (sps i).idp responseXml choice.assertionId)
    (hbacked : Backed env (sps i).idp {choice.assertion view} responseXml) {now : DateTime} (hnow : now.Aware)
    (hwindow : now.utc < expiry.utc + (sps i).config.clockSkew.micros) :
    ∃ s', Relation.ReflTransGen (LoginStep sps) s s' ∧
      s'.logins = s.logins ++ [⟨i, agent, some request.requestId, choice.parsed view signature responseXml⟩] ∧
      (agent, i, request.requestId) ∉ s'.outstanding ∧
      s'.issued = insert (agent, i, request.requestId) s.issued ∧ s'.signed = insert (choice.assertion view) s.signed := by
  obtain rfl := view_of_buildAuthnRequest hbuild hread hview
  have haccepted : (sps i).acceptedResponse samlResponseB64 (some request.requestId) now =
      .ok (choice.parsed _ signature responseXml) :=
    (acceptedResponse_answer_iff htimestamps hdecode hparse hsupports hexpiry (sps i).config.entityId_strip).mpr
      ⟨rfl, ⟨hnow, hid⟩, rfl, rfl, hwindow⟩
  obtain ⟨s', hrun, hlogins, houtstanding, hissued, hsigned⟩ :=
    run_of_accepted hfresh (fun other hother => Except.ok.inj (hdecode.symm.trans hother) ▸ hbacked) haccepted
  exact ⟨s', hrun, hlogins, houtstanding, hissued, hsigned⟩

end Logins

/-- The portal's request, without a relay state. -/
def plainRequest : AuthnRequest := ⟨"r1", demoRequestXml, demoLocation, none⟩

/-- The portal builds that request. -/
theorem buildAuthnRequest_portal : buildAuthnRequest demoBuilder (deploymentServiceProviders .portal).config
    (deploymentServiceProviders .portal).idp none (.ok demoNow) = .ok plainRequest := rfl

/-- The portal's request is read. -/
theorem read_plainRequest : (demoParse plainRequest.xml).bind RequestView.read = some Site.portal.view := by
  have hparse : demoParse plainRequest.xml = some demoRequest := if_pos rfl
  rw [hparse, Option.bind_some]
  exact @read_authnRequestElement _ demoConfig "r1" "2024-05-01T00:00:00Z" demoLocation

/-- The portal's answer is accepted at the demonstration time. -/
theorem answer_accepted_iff_deployment : ∃ parsed, (deploymentServiceProviders .portal).acceptedResponse
    (posted Site.portal.responseXml) (some "r1") demoNow = .ok parsed := by
  have hexpiry : instant? deploymentEnvironment Site.portal.choice.expiry = some demoExpiry := rfl
  have haccepted := answer_accepted_iff timestampErrors_deployment buildAuthnRequest_portal readsBack_demoRequest
    read_plainRequest (decodeResponse_answer _ _) (parseSafeXml_site .portal) hexpiry
    (deploymentServiceProviders .portal) (supports_deployment .portal) (some "r1") demoNow
  exact haccepted.mpr ⟨⟨by decide, by decide +kernel⟩, ⟨rfl, rfl⟩, rfl, by decide⟩

/-- After an agent has logged in at the wiki, another can log in at the portal. -/
theorem login_completes_deployment :
    ∃ s s', Reachable deploymentServiceProviders s ∧ s.logins = [⟨.wiki, "bob", some "r2", Site.wiki.parsed⟩] ∧
      Relation.ReflTransGen (LoginStep deploymentServiceProviders) s s' ∧
      s'.logins = s.logins ++ [⟨.portal, "alice", some "r1", Site.portal.parsed⟩] := by
  obtain ⟨s, hreachable, hlogins, hissued⟩ := @run_of_fresh LoginState.initial .wiki "bob" fun _ => Set.notMem_empty _
  have hfresh (other : String) : (other, Site.portal, plainRequest.requestId) ∉ s.issued := by
    rw [hissued]
    simp [LoginState.initial]
  have hdecode : decodeResponse deploymentEnvironment (posted Site.portal.responseXml) = .ok Site.portal.responseXml :=
    decodeResponse_answer Site.portal.choice Site.portal.view
  have hexpiry : instant? deploymentEnvironment Site.portal.choice.expiry = some demoExpiry := rfl
  have hnow : demoNow.Aware := by decide
  obtain ⟨s', hrun, hlogins', _⟩ := login_completes timestampErrors_deployment "alice" Site.portal
    buildAuthnRequest_portal hfresh (by decide +kernel) readsBack_demoRequest read_plainRequest hdecode
    (parseSafeXml_site .portal) hexpiry (supports_deployment .portal) (backed_deployment .portal) hnow (by decide)
  exact ⟨s, s', hreachable, hlogins, hrun, hlogins'⟩

end ApronSaml
