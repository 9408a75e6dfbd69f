import ApronSaml.ErrorFrontier
import ApronSaml.Library.SingleUse

/-!
# Logins across service providers and user agents

Any number of service providers that trust one identity provider, and any number of user
agents. A caller keeps the IDs of the requests that a user agent has outstanding at a
service provider, expects one of them of a response that the agent delivers, and discards
it once a response consumes it. A response is accepted when `process_response` gets through
everything that is implemented. The identity provider signs whatever it will, and any text
may be delivered to any endpoint by any agent, so long as the signatures that verify in it
were made. In every state that is reached, each login goes back to an assertion that was
signed for this service provider and this request, a solicited one to a request of the
very agent, and no request is answered twice.
-/

namespace ApronSaml

open Raising Whitespace ElementTree Chronology TextEncoding

namespace ServiceProvider

variable {env : Environment}

/-- The service provider with its clock at an instant. -/
def atInstant (sp : ServiceProvider env) (now : DateTime) : ServiceProvider env := { sp with clock := .ok now }

/-- The Response that `process_response` accepts at an instant: it returns, or gets as far as to what is not
implemented. -/
def acceptedResponse (sp : ServiceProvider env) (samlResponseB64 : List CodePoint)
    (expectedInResponseTo : Option String) (now : DateTime) : Py ParsedResponse :=
  match (sp.atInstant now).processResponse samlResponseB64 expectedInResponseTo with
  | .ok _ | .error .notImplementedError => do
    let responseXml ← decodeResponse env samlResponseB64
    verifiedResponse env responseXml sp.idp
  | .error e => .error e

/-- A response is processed by its checks, and what follows them is not implemented. -/
theorem processResponse_atInstant (sp : ServiceProvider env) (samlResponseB64 : List CodePoint)
    (expectedInResponseTo : Option String) (now : DateTime) :
    (sp.atInstant now).processResponse samlResponseB64 expectedInResponseTo =
      decodeResponse env samlResponseB64 >>= fun responseXml =>
        implementedChecks env responseXml sp.config sp.idp (.ok now) expectedInResponseTo >>=
          fun _ => .error .notImplementedError := by
  simp only [processResponse, atInstant, validateAndExtract_eq]

variable {sp : ServiceProvider env} {samlResponseB64 : List CodePoint} {expectedInResponseTo : Option String}
  {now : DateTime}

/-- An error of processing rejects the response, unless it stands for what is not implemented. -/
theorem acceptedResponse_of_error {e : PyError} (hne : e ≠ .notImplementedError)
    (h : (sp.atInstant now).processResponse samlResponseB64 expectedInResponseTo = .error e) :
    sp.acceptedResponse samlResponseB64 expectedInResponseTo now = .error e := by
  rw [acceptedResponse, h]
  cases e with
  | notImplementedError => exact absurd rfl hne
  | _ => rfl

/-- A response is accepted exactly when it is decoded and verified and every implemented check passes. -/
theorem acceptedResponse_ok_iff
    (htimestamps : ∀ value, RaisesOnly (fun e => isTimestampError e = true) (env.fromisoformat value))
    {parsed : ParsedResponse} :
    sp.acceptedResponse samlResponseB64 expectedInResponseTo now = .ok parsed ↔
      ∃ responseXml, decodeResponse env samlResponseB64 = .ok responseXml ∧
        verifiedResponse env responseXml sp.idp = .ok parsed ∧
        implementedChecks env responseXml sp.config sp.idp (.ok now) expectedInResponseTo = .ok () := by
  constructor
  · intro h
    have hstages : ∃ responseXml, decodeResponse env samlResponseB64 = .ok responseXml ∧
        verifiedResponse env responseXml sp.idp = .ok parsed := by
      rw [acceptedResponse] at h
      split at h
      · exact bind_ok_iff.mp h
      · exact bind_ok_iff.mp h
      · cases h
    obtain ⟨responseXml, hdecode, hverified⟩ := hstages
    refine ⟨responseXml, hdecode, hverified, ?_⟩
    cases hchecks : implementedChecks env responseXml sp.config sp.idp (.ok now) expectedInResponseTo with
    | ok u => rfl
    | error e =>
      -- The error of a check leaves `process_response`, and none of these stands for what is not implemented.
      have hne := implementedChecks_ne_notImplemented htimestamps hverified now expectedInResponseTo e hchecks
      have hprocess : (sp.atInstant now).processResponse samlResponseB64 expectedInResponseTo = .error e := by
        rw [processResponse_atInstant, hdecode, ok_bind, hchecks, error_bind]
      rw [acceptedResponse_of_error hne hprocess] at h
      cases h
  · intro h
    obtain ⟨responseXml, hdecode, hverified, hchecks⟩ := h
    rw [acceptedResponse, processResponse_atInstant, hdecode, ok_bind, hchecks, ok_bind]
    exact hverified

end ServiceProvider

/-- A login: where and by whose agent, for which request, and the Response that was accepted. -/
structure Login (ι A : Type) where
  sp : ι
  agent : A
  expectedInResponseTo : Option String
  parsed : ParsedResponse

namespace Login

variable {ι A : Type}

/-- The request that a login consumes, with its agent. -/
def redeemed (login : Login ι A) : Option (A × ι × String) :=
  login.expectedInResponseTo.map fun request => (login.agent, login.sp, request)

/-- The assertion of a login has the events of an element but for its signature. -/
def Uses (login : Login ι A) (e : Element) : Prop :=
  e.events = wrap login.parsed.assertion (login.parsed.assertion.items fun c => c.tag != signatureTag)

end Login

/-- The requests that were issued and those still outstanding, by agent and service provider; the elements that were
signed; and the logins, in their order. -/
structure LoginState (ι A : Type) where
  issued : Set (A × ι × String)
  outstanding : Set (A × ι × String)
  signed : Set Element
  logins : List (Login ι A)

namespace LoginState

variable {ι A : Type}

/-- The state before anything has happened. -/
def initial : LoginState ι A := ⟨∅, ∅, ∅, []⟩

/-- A request is issued for an agent, and is outstanding. -/
def request (s : LoginState ι A) (agent : A) (i : ι) (id : String) : LoginState ι A :=
  { s with
    issued := insert (agent, i, id) s.issued
    outstanding := insert (agent, i, id) s.outstanding }

/-- An element is signed. -/
def sign (s : LoginState ι A) (e : Element) : LoginState ι A := { s with signed := insert e s.signed }

/-- What the caller makes of a processed response: nothing of a rejection, and of an accepted one a login, for which
the expected request is discarded. -/
def receive (s : LoginState ι A) (i : ι) (agent : A) (expectedInResponseTo : Option String) :
    Py ParsedResponse → LoginState ι A
  | .error _ => s
  | .ok parsed =>
    { s with
      outstanding := s.outstanding \ {entry | ∃ request ∈ expectedInResponseTo, entry = (agent, i, request)}
      logins := s.logins ++ [⟨i, agent, expectedInResponseTo, parsed⟩] }

/-- The requests of a state as single-use tickets. -/
def ledger (s : LoginState ι A) : SingleUse.Ledger A (ι × String) :=
  ⟨s.issued, s.outstanding, s.logins.filterMap Login.redeemed⟩

end LoginState

section Runs

variable {env : Environment} {ι A : Type} (sps : ι → ServiceProvider env)

/-- The steps of the system. -/
inductive LoginStep : LoginState ι A → LoginState ι A → Prop
  /-- A service provider issues a request of a fresh ID for an agent. -/
  | request {s : LoginState ι A} (agent : A) (i : ι) (id : String) (hfresh : ∀ other, (other, i, id) ∉ s.issued) :
    LoginStep s (s.request agent i id)
  /-- An outstanding request is given up. -/
  | forget {s : LoginState ι A} (entry : A × ι × String) :
    LoginStep s { s with outstanding := s.outstanding \ {entry} }
  /-- The identity provider signs an element. -/
  | sign {s : LoginState ι A} (e : Element) : LoginStep s (s.sign e)
  /-- An agent delivers a text, in answer to one of its outstanding requests or unsolicited, and it is processed. -/
  | deliver {s : LoginState ι A} (agent : A) (i : ι) (samlResponseB64 : List CodePoint)
      (expectedInResponseTo : Option String) (now : DateTime)
      (houtstanding : ∀ request ∈ expectedInResponseTo, (agent, i, request) ∈ s.outstanding)
      (hbacked : ∀ responseXml, decodeResponse env samlResponseB64 = .ok responseXml →
        Backed env (sps i).idp s.signed responseXml) :
    LoginStep s
      (s.receive i agent expectedInResponseTo ((sps i).acceptedResponse samlResponseB64 expectedInResponseTo now))

/-- A state that the system reaches. -/
def Reachable (s : LoginState ι A) : Prop := Relation.ReflTransGen (LoginStep sps) LoginState.initial s

/-- A login goes back to a signed element that attests its service provider and its request; an unsolicited one was
allowed. -/
structure Login.Justified (signed : Set Element) (login : Login ι A) : Prop where
  signed : ∃ e ∈ signed, login.Uses e
  attests : ∀ e, login.Uses e →
    Attests e (sps login.sp).config.entityId (sps login.sp).config.acsUrl login.expectedInResponseTo
  allowed : login.expectedInResponseTo = none → (sps login.sp).config.allowIdpInitiated = true

variable {sps} {s s' : LoginState ι A}

/-- A step of the system is a step of its ledger, or none. -/
theorem LoginStep.ledger (h : LoginStep sps s s') : Relation.ReflGen SingleUse.Step s.ledger s'.ledger := by
  cases h with
  | request agent i id hfresh => exact .single (.issue agent (i, id) hfresh)
  | forget entry => exact .single (.drop entry)
  | sign e => exact .refl
  | deliver agent i samlResponseB64 expectedInResponseTo now houtstanding hbacked =>
    unfold LoginState.receive
    cases (sps i).acceptedResponse samlResponseB64 expectedInResponseTo now with
    | error e => exact .refl
    | ok parsed =>
      cases expectedInResponseTo with
      | none =>
        have hsame : (s.receive i agent none (.ok parsed)).ledger = s.ledger := by
          simp [LoginState.ledger, LoginState.receive, Login.redeemed]
        exact hsame ▸ .refl
      | some request =>
        have hredeemed : (s.receive i agent (some request) (.ok parsed)).ledger =
            { s.ledger with
              pending := s.ledger.pending \ {(agent, i, request)}
              redeemed := s.ledger.redeemed ++ [(agent, i, request)] } := by
          simp [LoginState.ledger, LoginState.receive, Login.redeemed]
        exact hredeemed ▸ .single (.redeem (agent, i, request) (houtstanding request rfl))

/-- A run of the system is a run of its ledger. -/
theorem ledger_of_reachable (h : Reachable sps s) :
    Relation.ReflTransGen SingleUse.Step SingleUse.Ledger.empty s.ledger := by
  induction h with
  | refl => exact .refl
  | tail _ hstep ih => exact ih.trans hstep.ledger.to_reflTransGen

/-- What justifies a login is not lost when more is signed. -/
theorem Login.Justified.mono {signed signed' : Set Element} {login : Login ι A} (h : login.Justified sps signed)
    (hsubset : signed ⊆ signed') : login.Justified sps signed' := by
  obtain ⟨e, he, huses⟩ := h.signed
  exact ⟨⟨e, hsubset he, huses⟩, h.attests, h.allowed⟩

/-- An accepted response makes for a justified login. -/
theorem justified_of_accepted
    (htimestamps : ∀ value, RaisesOnly (fun e => isTimestampError e = true) (env.fromisoformat value))
    {signed : Set Element} {agent : A} {i : ι} {samlResponseB64 : List CodePoint}
    {expectedInResponseTo : Option String} {now : DateTime} {parsed : ParsedResponse}
    (hbacked : ∀ responseXml, decodeResponse env samlResponseB64 = .ok responseXml →
      Backed env (sps i).idp signed responseXml)
    (h : (sps i).acceptedResponse samlResponseB64 expectedInResponseTo now = .ok parsed) :
    (⟨i, agent, expectedInResponseTo, parsed⟩ : Login ι A).Justified sps signed := by
  obtain ⟨responseXml, hdecode, hverified, hchecks⟩ := (ServiceProvider.acceptedResponse_ok_iff htimestamps).mp h
  obtain ⟨parsed', now', hverified', hclock, hconditions, hsubject⟩ := implementedChecks_ok_iff.mp hchecks
  obtain rfl : parsed = parsed' := Except.ok.inj (hverified.symm.trans hverified')
  obtain rfl : now = now' := Except.ok.inj hclock
  obtain ⟨path, htagged, _⟩ := sole_assertion_of_verified hverified
  have htag : parsed.assertion.tag = assertionTag := by
    have hmem : (⟨[path], parsed.assertion⟩ : Node) ∈ tagged parsed.root assertionTag := by simp [htagged]
    simpa using (List.mem_filter.mp hmem).2
  refine ⟨signed_of_verified hverified (hbacked responseXml hdecode), fun e huses => ?_, fun hnone => ?_⟩
  · exact attests_of_accepted htimestamps htag huses hconditions hsubject
  · obtain ⟨hallowed, _⟩ := addressed_of_validateSubjectConfirmation hsubject
    exact hallowed.resolve_left fun hsome => hsome hnone

/-- A step keeps every login justified. -/
theorem LoginStep.justified
    (htimestamps : ∀ value, RaisesOnly (fun e => isTimestampError e = true) (env.fromisoformat value))
    (h : LoginStep sps s s') (hjustified : ∀ login ∈ s.logins, login.Justified sps s.signed) :
    ∀ login ∈ s'.logins, login.Justified sps s'.signed := by
  cases h with
  | request agent i id hfresh => exact hjustified
  | forget entry => exact hjustified
  | sign e => exact fun login hlogin => (hjustified login hlogin).mono (Set.subset_insert e s.signed)
  | deliver agent i samlResponseB64 expectedInResponseTo now houtstanding hbacked =>
    cases haccepted : (sps i).acceptedResponse samlResponseB64 expectedInResponseTo now with
    | error e => exact hjustified
    | ok parsed =>
      simp only [LoginState.receive, List.forall_mem_append, List.forall_mem_singleton]
      exact ⟨hjustified, justified_of_accepted htimestamps hbacked haccepted⟩

/-- Every login of a reachable state is justified. -/
theorem justified_of_reachable
    (htimestamps : ∀ value, RaisesOnly (fun e => isTimestampError e = true) (env.fromisoformat value))
    (h : Reachable sps s) : ∀ login ∈ s.logins, login.Justified sps s.signed := by
  induction h with
  | refl => exact fun login hlogin => absurd hlogin List.not_mem_nil
  | tail _ hstep ih => exact hstep.justified htimestamps ih

/-- The requests that logins consume are consumed once. -/
theorem pairwise_redeemed (h : Reachable sps s) :
    s.logins.Pairwise fun login other =>
      ∀ request ∈ login.expectedInResponseTo, ¬ (other.sp = login.sp ∧ request ∈ other.expectedInResponseTo) := by
  have hnodup := (SingleUse.Ledger.Sound.of_run (ledger_of_reachable h)).tickets_nodup
  rw [LoginState.ledger, List.map_filterMap, List.nodup_iff_pairwise_ne, List.pairwise_filterMap] at hnodup
  refine hnodup.imp fun {login other} hne request hrequest hboth => ?_
  obtain ⟨hsp, hrequest'⟩ := hboth
  refine hne (login.sp, request) ?_ (other.sp, request) ?_ (by rw [hsp])
  · simp [Login.redeemed, Option.mem_def.mp hrequest]
  · simp [Login.redeemed, Option.mem_def.mp hrequest']

/-- A request, a signature and a delivery that is accepted make for a login. -/
theorem run_of_accepted {agent : A} {i : ι} {id : String} {e : Element} {samlResponseB64 : List CodePoint}
    {now : DateTime} {parsed : ParsedResponse} (hfresh : ∀ other, (other, i, id) ∉ s.issued)
    (hbacked : ∀ responseXml, decodeResponse env samlResponseB64 = .ok responseXml →
      Backed env (sps i).idp {e} responseXml)
    (haccepted : (sps i).acceptedResponse samlResponseB64 (some id) now = .ok parsed) :
    ∃ s', Relation.ReflTransGen (LoginStep sps) s s' ∧ s'.logins = s.logins ++ [⟨i, agent, some id, parsed⟩] ∧
      (agent, i, id) ∉ s'.outstanding ∧ s'.issued = insert (agent, i, id) s.issued ∧ s'.signed = insert e s.signed := by
  have hdeliver : LoginStep sps ((s.request agent i id).sign e)
      (((s.request agent i id).sign e).receive i agent (some id)
        ((sps i).acceptedResponse samlResponseB64 (some id) now)) := by
    refine .deliver agent i samlResponseB64 (some id) now ?_ fun responseXml hdecode => ?_
    · rintro _ ⟨rfl⟩
      exact Set.mem_insert _ _
    · exact (hbacked responseXml hdecode).mono (Set.singleton_subset_iff.mpr (Set.mem_insert _ _))
  rw [haccepted] at hdeliver
  have hrun := ((Relation.ReflTransGen.single (LoginStep.request agent i id hfresh)).tail (.sign e)).tail hdeliver
  exact ⟨_, hrun, rfl, by simp [LoginState.receive], rfl, rfl⟩

/-- In whatever order requests, signatures and deliveries come, every login goes back to a signed element that attests
this service provider, its endpoint and the expected request, the request was issued to this agent and to no other, an
unsolicited login was allowed, and no request is answered by two logins. -/
theorem logins_agree
    (htimestamps : ∀ value, RaisesOnly (fun e => isTimestampError e = true) (env.fromisoformat value))
    (h : Reachable sps s) :
    (∀ login ∈ s.logins,
      (∃ e ∈ s.signed, login.Uses e ∧
        Attests e (sps login.sp).config.entityId (sps login.sp).config.acsUrl login.expectedInResponseTo) ∧
      (∀ request ∈ login.expectedInResponseTo, (login.agent, login.sp, request) ∈ s.issued ∧
        ∀ other, (other, login.sp, request) ∈ s.issued → other = login.agent) ∧
      (login.expectedInResponseTo = none → (sps login.sp).config.allowIdpInitiated = true)) ∧
    s.logins.Pairwise fun login other =>
      ∀ request ∈ login.expectedInResponseTo, ¬ (other.sp = login.sp ∧ request ∈ other.expectedInResponseTo) := by
  have hsound := SingleUse.Ledger.Sound.of_run (ledger_of_reachable h)
  refine ⟨fun login hlogin => ?_, pairwise_redeemed h⟩
  obtain ⟨⟨e, he, huses⟩, hattests, hallowed⟩ := justified_of_reachable htimestamps h login hlogin
  refine ⟨⟨e, he, huses, hattests e huses⟩, fun request hrequest => ?_, hallowed⟩
  have hredeemed : (login.agent, login.sp, request) ∈ s.ledger.redeemed :=
    List.mem_filterMap.mpr ⟨login, hlogin, by simp [Login.redeemed, Option.mem_def.mp hrequest]⟩
  have hissued : (login.agent, login.sp, request) ∈ s.issued := hsound.redeemed_issued _ hredeemed
  exact ⟨hissued, fun other hother => hsound.holder_unique _ _ _ hother hissued⟩

/-- All that an element's bearer confirmations name is one recipient and one request. -/
def BoundTo (e : Element) (recipient request : String) : Prop :=
  ∀ subject ∈ e.findall subjectTag, ∀ confirmation ∈ subject.children, IsBearer confirmation →
    ∀ data ∈ confirmation.findall subjectConfirmationDataTag,
      data.get "Recipient" = some recipient ∧ data.get "InResponseTo" = some request

/-- What is attested by a bound element is its recipient and its request. -/
theorem Attests.eq_of_boundTo {e : Element} {audience acsUrl recipient request : String} {expected : Option String}
    (h : Attests e audience acsUrl expected) (hbound : BoundTo e recipient request) :
    acsUrl = recipient ∧ expected = some request := by
  obtain ⟨subject, hsubject, confirmation, hchild, hbearer, data, hdata, hrecipient, hrequest⟩ := h.confirmation
  obtain ⟨hrecipient', hrequest'⟩ := hbound subject (by simp [hsubject]) confirmation hchild hbearer data (by simp [hdata])
  exact ⟨Option.some_injective _ (hrecipient.symm.trans hrecipient'), hrequest.symm.trans hrequest'⟩

/-- Where the service providers have endpoints of their own, an assertion that is bound to one recipient and one request
is accepted at most once, over all service providers and all agents. -/
theorem assertion_accepted_once
    (htimestamps : ∀ value, RaisesOnly (fun e => isTimestampError e = true) (env.fromisoformat value))
    (hendpoints : ∀ i j, (sps i).config.acsUrl = (sps j).config.acsUrl → i = j)
    (h : Reachable sps s) {e : Element} {recipient request : String} (hbound : BoundTo e recipient request) :
    s.logins.Pairwise fun login other => ¬ (login.Uses e ∧ other.Uses e) := by
  have hnames (login : Login ι A) (hlogin : login ∈ s.logins) (huses : login.Uses e) :
      (sps login.sp).config.acsUrl = recipient ∧ login.expectedInResponseTo = some request :=
    ((justified_of_reachable htimestamps h login hlogin).attests e huses).eq_of_boundTo hbound
  refine (pairwise_redeemed h).imp_of_mem fun {login other} hlogin hother hdistinct huses => ?_
  obtain ⟨hrecipient, hrequest⟩ := hnames login hlogin huses.1
  obtain ⟨hrecipient', hrequest'⟩ := hnames other hother huses.2
  exact hdistinct request hrequest ⟨hendpoints _ _ (hrecipient'.trans hrecipient.symm), hrequest'⟩

end Runs

/-- The answers of the federation are accepted, each at its service provider. -/
theorem acceptedResponse_deployment (site : Site) :
    (deploymentServiceProviders site).acceptedResponse (posted site.responseXml) (some site.view.id) demoNow =
      .ok site.parsed := by
  have hchecks : implementedChecks deploymentEnvironment site.responseXml site.config demoIdp (.ok demoNow)
      (some site.view.id) = .ok () := by
    refine (implementedChecks_deployment_iff site).mpr ⟨?_, rfl, ?_⟩
    · cases site <;> rfl
    · cases site <;> decide
  exact (ServiceProvider.acceptedResponse_ok_iff timestampErrors_deployment).mpr
    ⟨site.responseXml, decodeResponse_answer site.choice site.view, verifiedResponse_deployment site, hchecks⟩

/-- Where its request is fresh, an agent can log in at a service provider of the federation. -/
theorem run_of_fresh {s : LoginState Site String} (site : Site) (agent : String)
    (hfresh : ∀ other, (other, site, site.view.id) ∉ s.issued) :
    ∃ s', Relation.ReflTransGen (LoginStep deploymentServiceProviders) s s' ∧
      s'.logins = s.logins ++ [⟨site, agent, some site.view.id, site.parsed⟩] ∧
      s'.issued = insert (agent, site, site.view.id) s.issued := by
  have hbacked (responseXml : String)
      (hdecode : decodeResponse deploymentEnvironment (posted site.responseXml) = .ok responseXml) :
      Backed deploymentEnvironment (deploymentServiceProviders site).idp {site.assertion} responseXml := by
    obtain rfl : site.responseXml = responseXml :=
      Except.ok.inj ((decodeResponse_answer site.choice site.view).symm.trans hdecode)
    exact backed_deployment site
  obtain ⟨s', hrun, hlogins, _, hissued, _⟩ := run_of_accepted hfresh hbacked (acceptedResponse_deployment site)
  exact ⟨s', hrun, hlogins, hissued⟩

/-- The logins of two agents, one at each service provider. -/
def twoLogins : List (Login Site String) :=
  [⟨.wiki, "bob", some "r2", Site.wiki.parsed⟩, ⟨.portal, "alice", some "r1", Site.portal.parsed⟩]

/-- Such a state is reached. -/
theorem reachable_twoLogins : ∃ s, Reachable deploymentServiceProviders s ∧ s.logins = twoLogins := by
  obtain ⟨s, hrun, hlogins, hissued⟩ := @run_of_fresh LoginState.initial .wiki "bob" fun _ => Set.notMem_empty _
  have hfresh (other : String) : (other, Site.portal, Site.portal.view.id) ∉ s.issued := by
    rw [hissued]
    simp [LoginState.initial]
  obtain ⟨s', hrun', hlogins', _⟩ := run_of_fresh .portal "alice" hfresh
  exact ⟨s', hrun.trans hrun', by rw [hlogins', hlogins]; rfl⟩

/-- Both logins answer their agents' own requests by signed assertions. -/
theorem logins_agree_deployment : ∃ s, Reachable deploymentServiceProviders s ∧ s.logins = twoLogins ∧
    ∀ login ∈ twoLogins, ∃ e ∈ s.signed, login.Uses e ∧
      Attests e login.sp.config.entityId login.sp.config.acsUrl login.expectedInResponseTo := by
  obtain ⟨s, hreachable, hlogins⟩ := reachable_twoLogins
  obtain ⟨hagree, _⟩ := logins_agree timestampErrors_deployment hreachable
  exact ⟨s, hreachable, hlogins, fun login hlogin => (hagree login (hlogins ▸ hlogin)).1⟩

/-- An answer's assertion is bound to the endpoint and the request that it is for. -/
theorem boundTo_answer (choice : AnswerChoice) (view : RequestView) :
    BoundTo (choice.assertion view) view.party.acsUrl view.id := by
  intro subject hsubject confirmation hconfirmation _ data hdata
  obtain rfl : subject = choice.subject view := List.mem_singleton.mp hsubject
  obtain rfl : confirmation = choice.confirmation view := List.mem_singleton.mp hconfirmation
  obtain rfl : data = choice.data view := List.mem_singleton.mp hdata
  exact ⟨rfl, rfl⟩

/-- Each of the two assertions is used by one of the logins, and by no other. -/
theorem assertion_accepted_once_deployment : ∃ s, Reachable deploymentServiceProviders s ∧ s.logins = twoLogins ∧
    ∀ site : Site, (∃ login ∈ twoLogins, login.Uses site.assertion) ∧
      twoLogins.Pairwise fun login other => ¬ (login.Uses site.assertion ∧ other.Uses site.assertion) := by
  have hendpoints : ∀ i j, (deploymentServiceProviders i).config.acsUrl = (deploymentServiceProviders j).config.acsUrl →
      i = j := by
    have hdistinct : demoConfig.acsUrl ≠ wikiConfig.acsUrl := by decide
    rintro (_ | _) (_ | _) h
    · rfl
    · exact absurd h hdistinct
    · exact absurd h.symm hdistinct
    · rfl
  obtain ⟨s, hreachable, hlogins⟩ := reachable_twoLogins
  refine ⟨s, hreachable, hlogins, fun site => ⟨?_, ?_⟩⟩
  · obtain ⟨e, rfl, huses⟩ := signed_of_verified (verifiedResponse_deployment site) (backed_deployment site)
    cases site with
    | portal => exact ⟨_, List.mem_cons_of_mem _ List.mem_cons_self, huses⟩
    | wiki => exact ⟨_, List.mem_cons_self, huses⟩
  · exact hlogins ▸ assertion_accepted_once timestampErrors_deployment hendpoints hreachable
      (boundTo_answer site.choice site.view)

end ApronSaml
