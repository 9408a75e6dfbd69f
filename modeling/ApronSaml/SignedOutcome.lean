import ApronSaml.Federation

/-!
# The outcome is that of the signed element

What the validators read of an assertion they read of its canonical events: attributes by
name, children by tag, the whole text of an audience. How a text is split, what stands
between the elements and what became of the signature makes no difference to them. So once
a Response is verified, what the remaining checks return or raise is what they would return
or raise if the element that was signed stood in the place of the assertion.
-/

namespace ApronSaml

open Raising Whitespace ElementTree Chronology

/-- Elements with the same canonical events. -/
abbrev SameEvents (a b : Element) : Prop := a.events = b.events

section Validators

variable {env : Environment} {a b : Element}

/-- Of corresponding lists both are empty or neither. -/
theorem isEmpty_of_sameEvents {found found' : List Element} (h : List.Forall₂ SameEvents found found') :
    found.isEmpty = found'.isEmpty := by
  cases h with
  | nil => rfl
  | cons _ _ => rfl

/-- The audiences of a restriction are read of its events. -/
theorem audienceValues_of_sameEvents (h : SameEvents a b) : audienceValues a = audienceValues b := by
  have htexts := Element.map_eq_of_forall₂ (f := fun e => strip e.allText)
    (fun hsame => congrArg strip (Element.allText_of_events_eq hsame)) (Element.findall_of_events_eq h audienceTag)
  rw [audienceValues, audienceValues, htexts]

/-- The audience check has the same outcome on the same events. -/
theorem requireAudience_of_sameEvents (h : SameEvents a b) (audience : String) :
    requireAudience a audience = requireAudience b audience := by
  have hrestrictions := Element.findall_of_events_eq h audienceRestrictionTag
  rw [requireAudience, requireAudience, isEmpty_of_sameEvents hrestrictions]
  refine congrArg _ (funext fun _ => forM_congr_outcomes (Element.map_eq_of_forall₂ (fun hsame => ?_) hrestrictions))
  rw [audienceValues_of_sameEvents hsame]

/-- The check for conditions that cannot be evaluated has the same outcome on the same events. -/
theorem rejectUnevaluableConditions_of_sameEvents (h : SameEvents a b) :
    rejectUnevaluableConditions a = rejectUnevaluableConditions b := by
  refine forM_congr_outcomes (Element.map_eq_of_forall₂ (fun hsame => ?_) (Element.of_events_eq h).2.2)
  rw [(Element.of_events_eq hsame).1]

/-- The checks on the conditions have the same outcome on the same events. -/
theorem checkConditions_of_sameEvents (h : SameEvents a b) (audience : String) (now : DateTime)
    (clockSkew : TimeDelta) :
    checkConditions env a audience now clockSkew = checkConditions env b audience now clockSkew := by
  have hget := (Element.of_events_eq h).2.1
  have hwindow : enforceValidityWindow env a now clockSkew = enforceValidityWindow env b now clockSkew := by
    simp only [enforceValidityWindow, enforceNotBefore, hget]
  rw [checkConditions, checkConditions, hwindow, requireAudience_of_sameEvents h,
    rejectUnevaluableConditions_of_sameEvents h]

/-- Assertions with corresponding conditions have their conditions validated with the same outcome. -/
theorem validateConditions_of_sameEvents
    (h : List.Forall₂ SameEvents (a.findall conditionsTag) (b.findall conditionsTag)) (audience : String)
    (now : DateTime) (clockSkew : TimeDelta) :
    validateConditions env a audience now clockSkew = validateConditions env b audience now clockSkew := by
  rw [validateConditions, validateConditions]
  generalize a.findall conditionsTag = found, b.findall conditionsTag = found' at h
  cases h with
  | nil => rfl
  | cons hsame hrest =>
    cases hrest with
    | nil => simp only [checkConditions_of_sameEvents hsame]
    | cons _ _ => rfl

/-- A bearer confirmation is checked with the same outcome on the same events. -/
theorem confirmBearer_of_sameEvents (h : SameEvents a b) (acsUrl : String) (expectedInResponseTo : Option String)
    (now : DateTime) (clockSkew : TimeDelta) :
    confirmBearer env acsUrl expectedInResponseTo now clockSkew a =
      confirmBearer env acsUrl expectedInResponseTo now clockSkew b := by
  have hdata := Element.findall_of_events_eq h subjectConfirmationDataTag
  rw [confirmBearer, confirmBearer]
  generalize a.findall subjectConfirmationDataTag = found, b.findall subjectConfirmationDataTag = found' at hdata
  cases hdata with
  | nil => rfl
  | cons hsame hrest =>
    cases hrest with
    | nil => simp only [(Element.of_events_eq hsame).2.1]
    | cons _ _ => rfl

/-- The bearer confirmations of subjects with the same events correspond. -/
theorem bearerOf_of_sameEvents (h : SameEvents a b) : List.Forall₂ SameEvents (bearerOf a) (bearerOf b) := by
  refine List.rel_filter (fun c d hsame => ?_) (Element.findall_of_events_eq h subjectConfirmationTag)
  show (c.get "Method" == some methodBearer) = true ↔ (d.get "Method" == some methodBearer) = true
  rw [(Element.of_events_eq hsame).2.1]

/-- In the same envelope, assertions with corresponding subjects have their subjects validated with the same outcome. -/
theorem validateSubjectConfirmation_of_sameEvents {parsed parsed' : ParsedResponse} (hroot : parsed.root = parsed'.root)
    (h : List.Forall₂ SameEvents (parsed.assertion.findall subjectTag) (parsed'.assertion.findall subjectTag))
    (config : SamlConfig env.tables) (expectedInResponseTo : Option String) (now : DateTime) :
    validateSubjectConfirmation env parsed config expectedInResponseTo now =
      validateSubjectConfirmation env parsed' config expectedInResponseTo now := by
  rw [validateSubjectConfirmation, validateSubjectConfirmation, hroot, bearerConfirmations, bearerConfirmations]
  generalize parsed.assertion.findall subjectTag = found, parsed'.assertion.findall subjectTag = found' at h
  cases h with
  | nil => rfl
  | cons hsame hrest =>
    cases hrest with
    | nil =>
      have hbearer := bearerOf_of_sameEvents hsame
      have hconfirm (c d : Element) (hsame : SameEvents c d) :
          confirmBearer env config.acsUrl expectedInResponseTo now config.clockSkew c =
            confirmBearer env config.acsUrl expectedInResponseTo now config.clockSkew d :=
        confirmBearer_of_sameEvents hsame _ _ _ _
      have houtcomes := Element.map_eq_of_forall₂ (fun hsame => hconfirm _ _ hsame) hbearer
      simp only [bind_assoc, ok_bind, isEmpty_of_sameEvents hbearer, firstSuccess_congr_outcomes houtcomes]
    | cons _ _ => rfl

end Validators

/-- The Response with an element from elsewhere in the place of its assertion. -/
def ParsedResponse.withAssertion (parsed : ParsedResponse) (e : Element) : ParsedResponse :=
  ⟨parsed.responseXml, e, parsed.root, none, fun _ hpath => absurd hpath (Option.not_mem_none _)⟩

/-- Once a Response is verified, every further outcome, errors included, is that of the same checks on an element that
was signed: for every configuration, every clock and every expected request. -/
theorem outcome_is_signed {env : Environment} {responseXml : String} {idp : IdPDescriptor env.tables}
    {parsed : ParsedResponse} {signed : Set Element} (h : verifiedResponse env responseXml idp = .ok parsed)
    (hbacked : Backed env idp signed responseXml) :
    ∃ e ∈ signed, ∀ config clock expectedInResponseTo,
      implementedChecks env responseXml config idp clock expectedInResponseTo = (do
        let now ← clock
        validateConditions env e config.entityId now config.clockSkew
        validateSubjectConfirmation env (parsed.withAssertion e) config expectedInResponseTo now) := by
  obtain ⟨e, he, hevents⟩ := signed_of_verified h hbacked
  obtain ⟨_, _, hfound⟩ := Element.of_events_eq_wrap hevents
  have hroot : (parsed.withAssertion e).root = parsed.root := rfl
  refine ⟨e, he, fun config clock expectedInResponseTo => ?_⟩
  have hconditions (now : DateTime) : validateConditions env parsed.assertion config.entityId now config.clockSkew =
      validateConditions env e config.entityId now config.clockSkew :=
    (validateConditions_of_sameEvents (hfound conditionsTag (by decide)) _ now _).symm
  have hsubject (now : DateTime) : validateSubjectConfirmation env parsed config expectedInResponseTo now =
      validateSubjectConfirmation env (parsed.withAssertion e) config expectedInResponseTo now :=
    (validateSubjectConfirmation_of_sameEvents hroot (hfound subjectTag (by decide)) config _ now).symm
  rw [implementedChecks, h, ok_bind]
  simp only [hconditions, hsubject]

/-- The portal's answer has the outcome of the checks on its assertion before it was signed, at the portal and, where it
is refused, at the wiki. -/
theorem outcome_is_signed_deployment :
    implementedChecks deploymentEnvironment Site.portal.responseXml wikiConfig demoIdp (.ok demoNow) (some "r1") = (do
      validateConditions deploymentEnvironment Site.portal.assertion wikiConfig.entityId demoNow wikiConfig.clockSkew
      validateSubjectConfirmation deploymentEnvironment (Site.portal.parsed.withAssertion Site.portal.assertion)
        wikiConfig (some "r1") demoNow) ∧
    implementedChecks deploymentEnvironment Site.portal.responseXml demoConfig demoIdp (.ok demoNow) (some "r1") = (do
      validateConditions deploymentEnvironment Site.portal.assertion demoConfig.entityId demoNow demoConfig.clockSkew
      validateSubjectConfirmation deploymentEnvironment (Site.portal.parsed.withAssertion Site.portal.assertion)
        demoConfig (some "r1") demoNow) := by
  obtain ⟨e, he, houtcome⟩ := outcome_is_signed (verifiedResponse_deployment .portal) (backed_deployment .portal)
  obtain rfl : e = Site.portal.assertion := he
  exact ⟨houtcome wikiConfig (.ok demoNow) (some "r1"), houtcome demoConfig (.ok demoNow) (some "r1")⟩

end ApronSaml
