import ApronSaml.Response
import ApronSaml.Timestamps

/-!
# Bearer subject confirmation

The Response's own addressing is checked first. Then the bearer confirmations of the one
subject are tried in document order: the first that satisfies every requirement ends the
loop, the failures of the others are kept, and the first failure is raised when none does.
-/

namespace ApronSaml

open Raising Whitespace ElementTree Chronology

/-- The tag of the subject of an assertion. -/
def subjectTag : String := qname samlNs "Subject"

/-- The tag of a subject confirmation. -/
def subjectConfirmationTag : String := qname samlNs "SubjectConfirmation"

/-- The tag of the data of a subject confirmation. -/
def subjectConfirmationDataTag : String := qname samlNs "SubjectConfirmationData"

/-- The confirmation method of bearer assertions. -/
def methodBearer : String := "urn:oasis:names:tc:SAML:2.0:cm:bearer"

/-- `_check_in_response_to(actual, expected, element=…)`. -/
def checkInResponseTo (actual expected : Option String) (element : String) : Py Unit :=
  match expected with
  | none =>
    raiseIf (actual ≠ none)
      (.saml .inResponseToError (element ++ " carries InResponseTo but the response is unsolicited"))
  | some request => do
    let answered ← required actual
      (.saml .inResponseToError
        (element ++ " has no InResponseTo but the response must answer an outstanding request"))
    raiseIf (answered ≠ request)
      (.saml .inResponseToError
        (element ++ " InResponseTo does not match the outstanding authentication request"))

/-- `_check_response_addressing(response, acs_url=…, expected_in_response_to=…)`. -/
def checkResponseAddressing (response : Element) (acsUrl : String) (expectedInResponseTo : Option String) :
    Py Unit := do
  raiseIf (∃ destination ∈ response.get "Destination", destination ≠ acsUrl)
    (.saml .recipientMismatchError
      "SAML Response Destination is not this service provider's assertion consumer URL")
  checkInResponseTo (response.get "InResponseTo") expectedInResponseTo "SAML Response"

/-- `_confirm_bearer(confirmation, acs_url=…, expected_in_response_to=…, now=…, clock_skew=…)`. -/
def confirmBearer (env : Environment) (acsUrl : String) (expectedInResponseTo : Option String) (now : DateTime)
    (clockSkew : TimeDelta) (confirmation : Element) : Py Unit :=
  match confirmation.findall subjectConfirmationDataTag with
  | [data] => do
    raiseIf (data.get "NotBefore" ≠ none)
      (.malformedResponse "bearer SubjectConfirmationData must not carry NotBefore")
    let recipient ← required (data.get "Recipient")
      (.saml .recipientMismatchError "bearer SubjectConfirmationData has no Recipient")
    raiseIf (recipient ≠ acsUrl)
      (.saml .recipientMismatchError
        "bearer SubjectConfirmationData Recipient is not this service provider's assertion consumer URL")
    let notOnOrAfter ← required (data.get "NotOnOrAfter")
      (.malformedResponse "bearer SubjectConfirmationData has no NotOnOrAfter, so its validity is unbounded")
    let expiry ← parseInstant env notOnOrAfter "bearer SubjectConfirmationData NotOnOrAfter"
    let expired ← hasExpired now expiry clockSkew
    raiseIf (expired = true) (.saml .assertionExpiredError "bearer subject confirmation has expired")
    checkInResponseTo (data.get "InResponseTo") expectedInResponseTo "bearer SubjectConfirmationData"
  | _ =>
    .error (.malformedResponse "bearer SubjectConfirmation does not carry exactly one SubjectConfirmationData")

/-- The bearer confirmations of a subject, in document order. -/
def bearerOf (subject : Element) : List Element :=
  (subject.findall subjectConfirmationTag).filter fun c => c.get "Method" == some methodBearer

/-- `_bearer_confirmations(assertion)`. -/
def bearerConfirmations (assertion : Element) : Py (List Element) :=
  match assertion.findall subjectTag with
  | [] => .error (.malformedResponse "assertion has no Subject")
  | [subject] => do
    let bearer := bearerOf subject
    raiseIf (bearer.isEmpty = true) (.malformedResponse "assertion Subject has no bearer SubjectConfirmation")
    .ok bearer
  | _ => .error (.malformedResponse "assertion carries more than one Subject")

/-- `validate_subject_confirmation(parsed, config, expected_in_response_to=…, now=…)`. -/
def validateSubjectConfirmation (env : Environment) (parsed : ParsedResponse) (config : SamlConfig env.tables)
    (expectedInResponseTo : Option String) (now : DateTime) : Py Unit := do
  requireAware now
  raiseIf (∃ request ∈ expectedInResponseTo, strip request = "")
    (.valueError
      "expected_in_response_to must be a non-blank request ID, or None for an unsolicited response")
  raiseIf (expectedInResponseTo = none ∧ config.allowIdpInitiated = false)
    (.saml .inResponseToError
      "response answers no outstanding authentication request and IdP-initiated SSO is not allowed")
  checkResponseAddressing parsed.root config.acsUrl expectedInResponseTo
  let confirmations ← bearerConfirmations parsed.assertion
  firstSuccess PyError.isSamlError .indexError
    (confirmBearer env config.acsUrl expectedInResponseTo now config.clockSkew) confirmations

/-- The response-to check passes exactly when the value is the expected one, or absent with it. -/
@[simp] theorem checkInResponseTo_ok_iff {actual expected : Option String} {element : String} :
    checkInResponseTo actual expected element = .ok () ↔ actual = expected := by
  cases expected with
  | none => simp [checkInResponseTo]
  | some request => simp [checkInResponseTo, bind_ok_iff]

/-- The response-to check fails only by its own kind of error. -/
theorem checkInResponseTo_raisesOnly (actual expected : Option String) (element : String) :
    RaisesOnly (fun e => PyError.isSamlError e = true) (checkInResponseTo actual expected element) := by
  cases expected with
  | none => exact RaisesOnly.raiseIf rfl
  | some request => exact RaisesOnly.bind (RaisesOnly.required rfl) fun _ _ => RaisesOnly.raiseIf rfl

/-- The addressing check passes exactly when `Destination` is absent or this endpoint and
`InResponseTo` is the expected one. -/
theorem checkResponseAddressing_ok_iff {response : Element} {acsUrl : String} {expected : Option String} :
    checkResponseAddressing response acsUrl expected = .ok () ↔
      (∀ destination ∈ response.get "Destination", destination = acsUrl) ∧
        response.get "InResponseTo" = expected := by
  rw [checkResponseAddressing, raiseIf_bind_ok_iff, checkInResponseTo_ok_iff]
  simp

/-- What a bearer confirmation must carry, the current time apart: one data element without
`NotBefore`, addressed to this endpoint, answering the request, with a parseable expiry. -/
def BearerExpiry (env : Environment) (acsUrl : String) (expected : Option String) (confirmation : Element)
    (expiry : DateTime) : Prop :=
  ∃ data, confirmation.findall subjectConfirmationDataTag = [data] ∧ data.get "NotBefore" = none ∧
    data.get "Recipient" = some acsUrl ∧ (data.get "NotOnOrAfter").bind (instant? env) = some expiry ∧
      data.get "InResponseTo" = expected

/-- The expiry of a confirmation has an offset. -/
theorem BearerExpiry.aware {env : Environment} {acsUrl : String} {expected : Option String} {confirmation : Element}
    {expiry : DateTime} (h : BearerExpiry env acsUrl expected confirmation expiry) : expiry.Aware := by
  obtain ⟨data, _, _, _, hexpiry, _⟩ := h
  obtain ⟨raw, _, hraw⟩ := Option.bind_eq_some_iff.mp hexpiry
  exact aware_of_instant hraw

/-- The expiry of a confirmation is determined by it. -/
theorem BearerExpiry.unique {env : Environment} {acsUrl : String} {expected : Option String} {confirmation : Element}
    {expiry expiry' : DateTime} (h : BearerExpiry env acsUrl expected confirmation expiry)
    (h' : BearerExpiry env acsUrl expected confirmation expiry') : expiry = expiry' := by
  obtain ⟨data, hdata, _, _, hexpiry, _⟩ := h
  obtain ⟨data', hdata', _, _, hexpiry', _⟩ := h'
  obtain rfl : data = data' := by simpa [hdata] using hdata'
  exact Option.some_injective _ (hexpiry.symm.trans hexpiry')

/-- A bearer confirmation is satisfied exactly when it carries what it must and has not expired. -/
theorem confirmBearer_ok_iff {env : Environment} {acsUrl : String} {expected : Option String} {now : DateTime}
    {clockSkew : TimeDelta} {confirmation : Element} :
    confirmBearer env acsUrl expected now clockSkew confirmation = .ok () ↔
      ∃ expiry, BearerExpiry env acsUrl expected confirmation expiry ∧
        hasExpired now expiry clockSkew = .ok false := by
  unfold confirmBearer BearerExpiry
  constructor
  · intro h
    split at h
    · rename_i data hdata
      simp only [bind_ok_iff, raiseIf_ok_iff, required_ok_iff, parseInstant_eq_ok_iff_instant,
        checkInResponseTo_ok_iff, not_not, Bool.not_eq_true] at h
      obtain ⟨_, hnotBefore, recipient, hrecipient, _, rfl, raw, hraw, expiry, hexpiry, expired, hexpired, _, rfl,
        hrequest⟩ := h
      exact ⟨expiry, ⟨data, hdata, hnotBefore, hrecipient, by simp [hraw, hexpiry], hrequest⟩, hexpired⟩
    · cases h
  · intro h
    obtain ⟨expiry, ⟨data, hdata, hnotBefore, hrecipient, hexpiry, hrequest⟩, hexpired⟩ := h
    obtain ⟨raw, hraw, hinstant⟩ := Option.bind_eq_some_iff.mp hexpiry
    simp only [hdata, bind_ok_iff, raiseIf_ok_iff, required_ok_iff, parseInstant_eq_ok_iff_instant,
      checkInResponseTo_ok_iff, not_not, Bool.not_eq_true]
    exact ⟨(), hnotBefore, acsUrl, hrecipient, (), rfl, raw, hraw, expiry, hinstant, false, hexpired, (), rfl,
      hrequest⟩

/-- With a timestamp parser that fails as documented, a bearer confirmation fails by a `SamlError`. -/
theorem confirmBearer_raisesOnly {env : Environment}
    (htimestamps : ∀ value, RaisesOnly (fun e => isTimestampError e = true) (env.fromisoformat value))
    (acsUrl : String) (expected : Option String) {now : DateTime} (hnow : now.Aware) {clockSkew : TimeDelta}
    (hskew : 0 ≤ clockSkew.micros) (confirmation : Element) :
    RaisesOnly (fun e => PyError.isSamlError e = true)
      (confirmBearer env acsUrl expected now clockSkew confirmation) := by
  unfold confirmBearer
  split
  · refine RaisesOnly.bind (RaisesOnly.raiseIf rfl) fun _ _ => ?_
    refine RaisesOnly.bind (RaisesOnly.required rfl) fun recipient _ => ?_
    refine RaisesOnly.bind (RaisesOnly.raiseIf rfl) fun _ _ => ?_
    refine RaisesOnly.bind (RaisesOnly.required rfl) fun raw _ => ?_
    refine RaisesOnly.bind (parseInstant_raisesOnly htimestamps raw _) fun expiry hexpiry => ?_
    have haware := (parseInstant_ok_iff.mp hexpiry).2
    rw [hasExpired_of_aware hnow haware hskew, ok_bind]
    exact RaisesOnly.bind (RaisesOnly.raiseIf rfl) fun _ _ => checkInResponseTo_raisesOnly _ _ _
  · exact RaisesOnly.error rfl

/-- The bearer confirmations are those of the one subject, and there is one. -/
theorem bearerConfirmations_ok_iff {assertion : Element} {confirmations : List Element} :
    bearerConfirmations assertion = .ok confirmations ↔
      ∃ subject, assertion.findall subjectTag = [subject] ∧ confirmations = bearerOf subject ∧
        confirmations ≠ [] := by
  unfold bearerConfirmations
  constructor
  · intro h
    split at h
    · cases h
    · rename_i subject hone
      simp only [raiseIf_bind_ok_iff, Except.ok.injEq, List.isEmpty_iff] at h
      obtain ⟨hne, rfl⟩ := h
      exact ⟨subject, hone, rfl, hne⟩
    · cases h
  · intro h
    obtain ⟨subject, hone, rfl, hne⟩ := h
    simp [hone, raiseIf_bind_ok_iff, hne]

end ApronSaml
