import ApronSaml.Deployment

/-!
# What acceptance of a subject confirmation means

A Response is accepted when it is addressed to this endpoint in answer to the expected
request and one single bearer confirmation of its one subject carries everything that is
required. The first failure is reported when none does. Confirmations of other methods
take no part in either.
-/

namespace ApronSaml

open Raising Whitespace ElementTree Chronology

/-- The Response-level requirements: unsolicited responses only where they are allowed, and an addressing
that names this endpoint and the expected request. -/
def Addressed {tables : Url.Tables} (config : SamlConfig tables) (response : Element)
    (expectedInResponseTo : Option String) : Prop :=
  (expectedInResponseTo ≠ none ∨ config.allowIdpInitiated = true) ∧
    (∀ destination ∈ response.get "Destination", destination = config.acsUrl) ∧
      response.get "InResponseTo" = expectedInResponseTo

/-- A subject confirmation of the bearer method. -/
def IsBearer (confirmation : Element) : Prop :=
  confirmation.tag = subjectConfirmationTag ∧ confirmation.get "Method" = some methodBearer

/-- The bearer confirmations of a subject are its direct children of that kind. -/
theorem mem_bearerOf {subject confirmation : Element} :
    confirmation ∈ bearerOf subject ↔ confirmation ∈ subject.children ∧ IsBearer confirmation := by
  simp [bearerOf, IsBearer, and_assoc]

/-- The bearer confirmations of a subject, selected in one pass. -/
theorem bearerOf_eq (subject : Element) :
    bearerOf subject =
      subject.children.filter fun c => c.get "Method" == some methodBearer && c.tag == subjectConfirmationTag :=
  List.filter_filter

/-- A child that is no bearer confirmation is not among them, wherever it stands. -/
theorem bearerOf_insert {subject subject' : Element} {before after : List Element} {child : Element}
    (hchild : ¬ IsBearer child) (hchildren : subject.children = before ++ after)
    (hchildren' : subject'.children = before ++ child :: after) : bearerOf subject' = bearerOf subject := by
  have hdropped : ¬ (child.get "Method" == some methodBearer && child.tag == subjectConfirmationTag) = true := by
    rw [Bool.and_eq_true, beq_iff_eq, beq_iff_eq]
    exact fun h => hchild h.symm
  rw [bearerOf_eq, bearerOf_eq, hchildren, hchildren', List.filter_append, List.filter_append]
  exact congrArg _ (List.filter_cons_of_neg hdropped)

section Semantics

variable {env : Environment} {parsed : ParsedResponse} {config : SamlConfig env.tables}
  {expectedInResponseTo : Option String} {now : DateTime}

/-- For an aware current time and a request that is not blank, an addressed response is judged by its
bearer confirmations. -/
theorem validateSubjectConfirmation_of_addressed (hnow : now.Aware)
    (hexpected : ∀ request ∈ expectedInResponseTo, strip request ≠ "")
    (haddressed : Addressed config parsed.root expectedInResponseTo) :
    validateSubjectConfirmation env parsed config expectedInResponseTo now = (do
      let confirmations ← bearerConfirmations parsed.assertion
      firstSuccess PyError.isSamlError .indexError
        (confirmBearer env config.acsUrl expectedInResponseTo now config.clockSkew) confirmations) := by
  obtain ⟨hallowed, haddressing⟩ := haddressed
  have hblank : ¬ ∃ request ∈ expectedInResponseTo, strip request = "" := by
    intro h
    obtain ⟨request, hmem, hstrip⟩ := h
    exact hexpected request hmem hstrip
  have hunsolicited : ¬ (expectedInResponseTo = none ∧ config.allowIdpInitiated = false) := by
    intro h
    obtain ⟨hnone, hforbidden⟩ := h
    exact hallowed.elim (fun h => h hnone) (fun h => by simp [hforbidden] at h)
  rw [validateSubjectConfirmation, requireAware_of_aware hnow, ok_bind, raiseIf_bind_neg hblank,
    raiseIf_bind_neg hunsolicited, checkResponseAddressing_ok_iff.mpr haddressing, ok_bind]

/-- An accepted response is addressed. -/
theorem addressed_of_validateSubjectConfirmation
    (h : validateSubjectConfirmation env parsed config expectedInResponseTo now = .ok ()) :
    Addressed config parsed.root expectedInResponseTo := by
  simp only [validateSubjectConfirmation, bind_ok_iff, raiseIf_ok_iff, not_and, Bool.not_eq_false] at h
  obtain ⟨_, _, _, _, _, hallowed, _, haddressing, _⟩ := h
  refine ⟨?_, checkResponseAddressing_ok_iff.mp haddressing⟩
  by_cases hnone : expectedInResponseTo = none
  · exact Or.inr (hallowed hnone)
  · exact Or.inl hnone

/-- The requirements on a single bearer confirmation: one data element without `NotBefore` that names this
endpoint, an expiry that has not passed, and the expected request. -/
def Satisfied (env : Environment) (acsUrl : String) (expectedInResponseTo : Option String) (now : DateTime)
    (clockSkew : TimeDelta) (confirmation : Element) : Prop :=
  ∃ data, confirmation.findall subjectConfirmationDataTag = [data] ∧ data.get "NotBefore" = none ∧
    data.get "Recipient" = some acsUrl ∧
    (∃ expiry, (data.get "NotOnOrAfter").bind (instant? env) = some expiry ∧
      hasExpired now expiry clockSkew = .ok false) ∧
    data.get "InResponseTo" = expectedInResponseTo

/-- A bearer confirmation passes exactly when it is satisfied. -/
theorem confirmBearer_ok_iff_satisfied {acsUrl : String} {clockSkew : TimeDelta} {confirmation : Element} :
    confirmBearer env acsUrl expectedInResponseTo now clockSkew confirmation = .ok () ↔
      Satisfied env acsUrl expectedInResponseTo now clockSkew confirmation := by
  rw [confirmBearer_ok_iff]
  constructor
  · intro h
    obtain ⟨expiry, ⟨data, hdata, hnotBefore, hrecipient, hexpiry, hrequest⟩, hopen⟩ := h
    exact ⟨data, hdata, hnotBefore, hrecipient, ⟨expiry, hexpiry, hopen⟩, hrequest⟩
  · intro h
    obtain ⟨data, hdata, hnotBefore, hrecipient, ⟨expiry, hexpiry, hopen⟩, hrequest⟩ := h
    exact ⟨expiry, ⟨data, hdata, hnotBefore, hrecipient, hexpiry, hrequest⟩, hopen⟩

/-- Every failure of a bearer confirmation is caught by the loop over them. -/
theorem isSamlError_of_confirmBearer
    (htimestamps : ∀ value, RaisesOnly (fun e => isTimestampError e = true) (env.fromisoformat value))
    (hnow : now.Aware) (confirmation : Element) (e : PyError)
    (h : confirmBearer env config.acsUrl expectedInResponseTo now config.clockSkew confirmation = .error e) :
    e.isSamlError = true :=
  confirmBearer_raisesOnly htimestamps _ _ hnow config.clockSkew_nonneg confirmation e h

/-- A subject confirmation is accepted exactly when the response is addressed and a bearer confirmation of
its one subject is satisfied. -/
theorem validateSubjectConfirmation_ok_iff
    (htimestamps : ∀ value, RaisesOnly (fun e => isTimestampError e = true) (env.fromisoformat value))
    (hnow : now.Aware) (hexpected : ∀ request ∈ expectedInResponseTo, strip request ≠ "") :
    validateSubjectConfirmation env parsed config expectedInResponseTo now = .ok () ↔
      Addressed config parsed.root expectedInResponseTo ∧
      ∃ subject, parsed.assertion.findall subjectTag = [subject] ∧
        ∃ confirmation ∈ subject.children, IsBearer confirmation ∧
          Satisfied env config.acsUrl expectedInResponseTo now config.clockSkew confirmation := by
  have hcaught (c : Element) (e : PyError)
      (h : confirmBearer env config.acsUrl expectedInResponseTo now config.clockSkew c = .error e) :
      e.isSamlError = true := isSamlError_of_confirmBearer htimestamps hnow c e h
  constructor
  · intro h
    have haddressed := addressed_of_validateSubjectConfirmation h
    rw [validateSubjectConfirmation_of_addressed hnow hexpected haddressed, bind_ok_iff] at h
    obtain ⟨confirmations, hconfirmations, hloop⟩ := h
    obtain ⟨subject, hsole, rfl, _⟩ := bearerConfirmations_ok_iff.mp hconfirmations
    obtain ⟨confirmation, hmem, hpass⟩ := (firstSuccess_ok_iff fun c _ => hcaught c).mp hloop
    obtain ⟨hchild, hbearer⟩ := mem_bearerOf.mp hmem
    exact ⟨haddressed, subject, hsole, confirmation, hchild, hbearer, confirmBearer_ok_iff_satisfied.mp hpass⟩
  · intro h
    obtain ⟨haddressed, subject, hsole, confirmation, hchild, hbearer, hsatisfied⟩ := h
    have hmem := mem_bearerOf.mpr ⟨hchild, hbearer⟩
    rw [validateSubjectConfirmation_of_addressed hnow hexpected haddressed,
      bearerConfirmations_ok_iff.mpr ⟨subject, hsole, rfl, List.ne_nil_of_mem hmem⟩, ok_bind,
      firstSuccess_ok_iff fun c _ => hcaught c]
    exact ⟨confirmation, hmem, confirmBearer_ok_iff_satisfied.mpr hsatisfied⟩

/-- The confirmations of the one subject, where it has bearer confirmations, are those. -/
theorem bearerConfirmations_eq {assertion subject first : Element} {rest : List Element}
    (hsole : assertion.findall subjectTag = [subject]) (hbearer : bearerOf subject = first :: rest) :
    bearerConfirmations assertion = .ok (first :: rest) :=
  bearerConfirmations_ok_iff.mpr ⟨subject, hsole, hbearer.symm, List.cons_ne_nil first rest⟩

/-- The outcome depends on the subject only through its bearer confirmations. -/
theorem bearerConfirmations_congr {assertion assertion' subject subject' : Element}
    (hsole : assertion.findall subjectTag = [subject]) (hsole' : assertion'.findall subjectTag = [subject'])
    (hbearer : bearerOf subject' = bearerOf subject) :
    bearerConfirmations assertion' = bearerConfirmations assertion := by
  simp only [bearerConfirmations, hsole, hsole', hbearer]

end Semantics

/-- A subject confirmation is accepted exactly when the response is addressed and one single bearer
confirmation of its one subject is satisfied by itself. When the response is addressed and every bearer
confirmation fails, the error is the one of the first in document order. Children of the subject that are
no bearer confirmations change nothing. -/
theorem validateSubjectConfirmation_exact {env : Environment}
    (htimestamps : ∀ value, RaisesOnly (fun e => isTimestampError e = true) (env.fromisoformat value))
    (config : SamlConfig env.tables) {expectedInResponseTo : Option String} {now : DateTime} (hnow : now.Aware)
    (hexpected : ∀ request ∈ expectedInResponseTo, strip request ≠ "") :
    (∀ parsed, validateSubjectConfirmation env parsed config expectedInResponseTo now = .ok () ↔
      Addressed config parsed.root expectedInResponseTo ∧
      ∃ subject, parsed.assertion.findall subjectTag = [subject] ∧
        ∃ confirmation ∈ subject.children, IsBearer confirmation ∧
          Satisfied env config.acsUrl expectedInResponseTo now config.clockSkew confirmation) ∧
    (∀ parsed subject first rest e, Addressed config parsed.root expectedInResponseTo →
      parsed.assertion.findall subjectTag = [subject] → bearerOf subject = first :: rest →
      (∀ confirmation ∈ first :: rest,
        ¬ Satisfied env config.acsUrl expectedInResponseTo now config.clockSkew confirmation) →
      confirmBearer env config.acsUrl expectedInResponseTo now config.clockSkew first = .error e →
      validateSubjectConfirmation env parsed config expectedInResponseTo now = .error e) ∧
    (∀ parsed parsed' : ParsedResponse, ∀ subject subject', parsed'.root.attrib = parsed.root.attrib →
      parsed.assertion.findall subjectTag = [subject] → parsed'.assertion.findall subjectTag = [subject'] →
      (bearerOf subject' = bearerOf subject ∨
        ∃ before child after, ¬ IsBearer child ∧ subject.children = before ++ after ∧
          subject'.children = before ++ child :: after) →
      validateSubjectConfirmation env parsed' config expectedInResponseTo now =
        validateSubjectConfirmation env parsed config expectedInResponseTo now) := by
  refine ⟨fun parsed => validateSubjectConfirmation_ok_iff htimestamps hnow hexpected,
    fun parsed subject first rest e haddressed hsole hbearer hfail hfirst => ?_,
    fun parsed parsed' subject subject' hattrib hsole hsole' hbearer => ?_⟩
  · rw [validateSubjectConfirmation_of_addressed hnow hexpected haddressed, bearerConfirmations_eq hsole hbearer,
      ok_bind]
    refine firstSuccess_of_failure (fun c _ => isSamlError_of_confirmBearer htimestamps hnow c)
      (fun c hc hpass => ?_) hfirst
    exact hfail c hc (confirmBearer_ok_iff_satisfied.mp hpass)
  · have hsame : bearerOf subject' = bearerOf subject := by
      rcases hbearer with hsame | ⟨before, child, after, hchild, hchildren, hchildren'⟩
      · exact hsame
      · exact bearerOf_insert hchild hchildren hchildren'
    have hget (name : String) : parsed'.root.get name = parsed.root.get name := by simp only [Element.get, hattrib]
    simp only [validateSubjectConfirmation, checkResponseAddressing, hget,
      bearerConfirmations_congr hsole hsole' hsame]

/-- The demonstration Response is addressed, and its one confirmation is satisfied. -/
theorem validateSubjectConfirmation_exact_demo :
    Addressed demoConfig demoParsed.root (some "r1") ∧
    ∃ subject, demoParsed.assertion.findall subjectTag = [subject] ∧
      ∃ confirmation ∈ subject.children, IsBearer confirmation ∧
        Satisfied demoEnvironment demoAcsUrl (some "r1") demoNow defaultClockSkew confirmation :=
  have htimestamps := timestampErrors_tableEnvironment
    [(demoResponseXml demoIssuer, minimalResponse (some "r1") (demoAssertion demoIssuer))]
    [] [("2030-01-01T00:00:00Z", demoExpiry)] fun _ => none
  ((validateSubjectConfirmation_exact htimestamps demoConfig (by decide) (by decide)).1 demoParsed).mp
    (by decide +kernel)

end ApronSaml
