import ApronSaml.BearerSemantics
import ApronSaml.ConditionsSemantics
import ApronSaml.IdResolution
import ApronSaml.Library.CanonicalEvents

/-!
# What was signed is what is consumed

A signature covers the canonical events of the elements its references resolve to, without
the signature itself. The backend resolves a node by any ID-typed attribute, takes the
first signature below it and resolves that signature's references in the same way. In a
Response that passes the checks both resolutions end in the consumed assertion, so the
identity provider signed an element that states the same audience, recipient and request.
-/

namespace ApronSaml

open Raising Whitespace ElementTree Chronology

/-- An ID resolver may return the element for the ID. -/
def Resolves (n : Node) (id : String) : Prop := ∃ name ∈ idAttrs, ∃ value ∈ n.elem.get name, Matches value id

/-- The events of an element object without those of a signature object, where that lies in it. -/
def coveredEvents (n signature : Node) : List Event :=
  if n.path <+: signature.path then n.elem.eventsWithout (signature.path.drop n.path.length) else n.elem.events

/-- Every positive answer of the backend on a document goes back to the signer: the first signature below a node of
the asked ID covers, in each element that one of its ID references resolves to, the events of a signed element. -/
def Backed (env : Environment) (idp : IdPDescriptor env.tables) (signed : Set Element) (responseXml : String) : Prop :=
  ∀ root binary certBody nodeId, env.parseSafeXml true responseXml = .ok root → certBody ∈ idp.signingCertificates →
    env.verifySignature binary responseXml (pem certBody) assertionNodeName nodeId = .ok true →
      ∃ n ∈ root.nodes, Resolves n nodeId ∧ ∃ s ∈ (tagged n.elem signatureTag).head?,
        ∀ id, some ("#" ++ id) ∈ referenceUris s.elem → ∃ m ∈ root.nodes, Resolves m id ∧
          ∃ e ∈ signed, e.events = coveredEvents m ⟨n.path ++ s.path, s.elem⟩

/-- The more is signed, the more answers are backed. -/
theorem Backed.mono {env : Environment} {idp : IdPDescriptor env.tables} {signed signed' : Set Element}
    {responseXml : String} (h : Backed env idp signed responseXml) (hsubset : signed ⊆ signed') :
    Backed env idp signed' responseXml := by
  intro root binary certBody nodeId hroot hcert hanswer
  obtain ⟨n, hn, hresolves, s, hs, hcovers⟩ := h root binary certBody nodeId hroot hcert hanswer
  refine ⟨n, hn, hresolves, s, hs, fun id hid => ?_⟩
  obtain ⟨m, hm, hresolves', e, he, hevents⟩ := hcovers id hid
  exact ⟨m, hm, hresolves', e, hsubset he, hevents⟩

/-- What an identity provider states by an assertion: the audience in its conditions, and a bearer confirmation of its
subject for a recipient and a request. -/
structure Attests (e : Element) (audience acsUrl : String) (request : Option String) : Prop where
  tag : e.tag = assertionTag
  audience : ∃ conditions, e.findall conditionsTag = [conditions] ∧ AudienceNamed conditions audience
  confirmation : ∃ subject, e.findall subjectTag = [subject] ∧ ∃ confirmation ∈ subject.children, IsBearer confirmation ∧
    ∃ data, confirmation.findall subjectConfirmationDataTag = [data] ∧ data.get "Recipient" = some acsUrl ∧
      data.get "InResponseTo" = request

section Verified

variable {env : Environment} {responseXml : String} {idp : IdPDescriptor env.tables} {parsed : ParsedResponse}

/-- The consumed assertion, without its signature, has the events of an element that was signed. -/
theorem signed_of_verified (h : verifiedResponse env responseXml idp = .ok parsed) {signed : Set Element}
    (hbacked : Backed env idp signed responseXml) :
    ∃ e ∈ signed, e.events = wrap parsed.assertion (parsed.assertion.items fun c => c.tag != signatureTag) := by
  obtain ⟨hparse, hwrapping, _⟩ := verifiedResponse_ok_iff.mp h
  obtain ⟨_, hroot, _⟩ := parseResponse_ok_iff.mp hparse
  obtain ⟨hsole, hunique, _⟩ := rejectSignatureWrapping_ok_iff.mp hwrapping
  obtain ⟨i, signature, htagged, _, _, hreferences, _⟩ := sole_signature_of_verified h
  obtain ⟨binary, _, certBody, hcert, hanswer⟩ := certificate_of_verified h
  -- Every resolution of the assertion's ID is the assertion.
  have hresolved {n : Node} (hn : n ∈ parsed.root.nodes) (hid : Resolves n parsed.assertionId) :
      parsed.position = some n.path ∧ n.elem = parsed.assertion := by
    obtain ⟨name, hname, value, hvalue, hmatch⟩ := hid
    exact resolved_is_assertion hsole hunique hn hname hvalue hmatch
  obtain ⟨n, hn, hresolves, s, hs, hcovers⟩ := hbacked parsed.root binary certBody _ hroot hcert hanswer
  obtain ⟨hposition, helem⟩ := hresolved hn hresolves
  rw [helem, htagged, List.head?_cons, Option.mem_some_iff] at hs
  obtain rfl : ⟨[i], signature⟩ = s := hs
  obtain ⟨m, hm, hresolves', e, he, hevents⟩ := hcovers parsed.assertionId (by rw [hreferences]; exact List.mem_cons_self)
  obtain ⟨hposition', helem'⟩ := hresolved hm hresolves'
  have hpath : n.path = m.path := Option.some_injective _ (hposition.symm.trans hposition')
  have honly (j : ℕ) (c : Element) (hc : parsed.assertion.children[j]? = some c) : c.tag = signatureTag ↔ j = i := by
    constructor
    · intro htag
      have hmem : (⟨[j], c⟩ : Node) ∈ tagged parsed.assertion signatureTag :=
        List.mem_filter.mpr ⟨Element.mem_nodes.mpr (by rw [Element.at?_singleton, hc]), by simpa using htag⟩
      rw [htagged, List.mem_singleton, Node.mk.injEq] at hmem
      exact (List.cons.inj hmem.1).1
    · rintro rfl
      have hmem : (⟨[j], signature⟩ : Node) ∈ tagged parsed.assertion signatureTag := by simp [htagged]
      obtain ⟨hnode, htag⟩ := List.mem_filter.mp hmem
      rw [Element.mem_nodes, Element.at?_singleton, hc, Option.some.injEq] at hnode
      rw [hnode]
      simpa using htag
  rw [coveredEvents, hpath, if_pos (List.prefix_append _ _), List.drop_left, helem',
    Element.eventsWithout_singleton honly] at hevents
  exact ⟨e, he, hevents⟩

/-- Subject confirmation is only ever accepted at an instant with an offset, for a request that is not blank. -/
theorem callerContract_of_validateSubjectConfirmation {config : SamlConfig env.tables}
    {expectedInResponseTo : Option String} {now : DateTime}
    (h : validateSubjectConfirmation env parsed config expectedInResponseTo now = .ok ()) :
    now.Aware ∧ ∀ request ∈ expectedInResponseTo, strip request ≠ "" := by
  simp only [validateSubjectConfirmation, requireAware, bind_ok_iff, raiseIf_ok_iff, not_not, not_exists, not_and] at h
  obtain ⟨_, haware, _, hexpected, _⟩ := h
  exact ⟨haware, hexpected⟩

/-- Accepted conditions are one element that names the audience. -/
theorem audienceNamed_of_validateConditions {config : SamlConfig env.tables} {now : DateTime} (hnow : now.Aware)
    (h : validateConditions env parsed.assertion config.entityId now config.clockSkew = .ok ()) :
    ∃ conditions, parsed.assertion.findall conditionsTag = [conditions] ∧ AudienceNamed conditions config.entityId := by
  have hsole := h
  rw [validateConditions, requireAware_of_aware hnow, ok_bind] at hsole
  split at hsole
  · cases hsole
  · rename_i conditions hone
    exact ⟨conditions, hone, ((checkConditions_ok_iff config.entityId_ne hnow config.clockSkew_nonneg).mp hsole).2.1⟩
  · cases hsole

/-- The same events name the same audiences. -/
theorem AudienceNamed.of_events_eq {a b : Element} {audience : String} (hevents : a.events = b.events)
    (h : AudienceNamed b audience) : AudienceNamed a audience := by
  have htexts {c c' : Element} (hc : c.events = c'.events) : audienceTexts c = audienceTexts c' :=
    Element.map_eq_of_forall₂ (fun hsame => congrArg strip (Element.allText_of_events_eq hsame))
      (Element.findall_of_events_eq hc audienceTag)
  have hchildren := (Element.of_events_eq hevents).2.2
  rw [audienceNamed_iff] at h ⊢
  obtain ⟨⟨child', hchild', htag'⟩, hall⟩ := h
  constructor
  · obtain ⟨child, hchild, hsame⟩ := exists_partner hchildren hchild'
    exact ⟨child, hchild, (Element.of_events_eq hsame).1.trans htag'⟩
  · intro child hchild htag
    obtain ⟨other, hother, hsame⟩ := exists_partner hchildren.flip hchild
    rw [htexts hsame]
    exact hall other hother ((Element.of_events_eq hsame).1.symm.trans htag)

/-- Where an accepted Response's assertion has the events of an element but for its signature, that element attests
this service provider, this endpoint and the expected request. -/
theorem attests_of_accepted
    (htimestamps : ∀ value, RaisesOnly (fun e => isTimestampError e = true) (env.fromisoformat value))
    {config : SamlConfig env.tables} {expectedInResponseTo : Option String} {now : DateTime} {e : Element}
    (htag : parsed.assertion.tag = assertionTag)
    (hevents : e.events = wrap parsed.assertion (parsed.assertion.items fun c => c.tag != signatureTag))
    (hconditions : validateConditions env parsed.assertion config.entityId now config.clockSkew = .ok ())
    (hsubject : validateSubjectConfirmation env parsed config expectedInResponseTo now = .ok ()) :
    Attests e config.entityId config.acsUrl expectedInResponseTo := by
  obtain ⟨hsameTag, _, hfound⟩ := Element.of_events_eq_wrap hevents
  obtain ⟨hnow, hexpected⟩ := callerContract_of_validateSubjectConfirmation hsubject
  refine ⟨hsameTag.trans htag, ?_, ?_⟩
  · obtain ⟨conditions', hsole', haudience⟩ := audienceNamed_of_validateConditions hnow hconditions
    obtain ⟨conditions, hsole, hsame⟩ := Element.sole_of_forall₂ (hsole' ▸ hfound conditionsTag (by decide +kernel))
    exact ⟨conditions, hsole, haudience.of_events_eq hsame⟩
  · obtain ⟨_, subject', hsole', confirmation', hchild', hbearer, data', hdata', _, hrecipient, _, hrequest⟩ :=
      (validateSubjectConfirmation_ok_iff htimestamps hnow hexpected).mp hsubject
    obtain ⟨subject, hsole, hsame⟩ := Element.sole_of_forall₂ (hsole' ▸ hfound subjectTag (by decide +kernel))
    obtain ⟨confirmation, hchild, hsame'⟩ := exists_partner (Element.of_events_eq hsame).2.2 hchild'
    obtain ⟨htag', hget', _⟩ := Element.of_events_eq hsame'
    obtain ⟨data, hdata, hsame''⟩ :=
      Element.sole_of_forall₂ (hdata' ▸ Element.findall_of_events_eq hsame' subjectConfirmationDataTag)
    have hget := (Element.of_events_eq hsame'').2.1
    exact ⟨subject, hsole, confirmation, hchild, ⟨htag'.trans hbearer.1, hget' ▸ hbearer.2⟩, data, hdata,
      hget ▸ hrecipient, hget ▸ hrequest⟩

end Verified

end ApronSaml
