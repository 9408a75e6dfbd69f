import ApronSaml.BearerSemantics
import ApronSaml.DecodedFormat
import ApronSaml.Federation

/-!
# Every rejection is a SAML error

When the packages under the library fail only as they document, every error that leaves
the library on an input is a `SamlError`: each step either raises its own, translates what
it catches, or cannot fail. The exception is a run that passes everything that is
implemented, which ends in `NotImplementedError`.
-/

namespace ApronSaml

open Raising Whitespace ElementTree Chronology TextEncoding

/-- The error is a `SamlError`. -/
abbrev IsRejection (e : PyError) : Prop := e.isSamlError = true

/-- A `SamlError` is one of a kind, with a message. -/
theorem IsRejection.exists_saml {e : PyError} (h : IsRejection e) : ∃ kind message, e = .saml kind message := by
  cases e with
  | saml kind message => exact ⟨kind, message, rfl⟩
  | _ => cases h

/-- A `SamlError` is no `NotImplementedError`. -/
theorem IsRejection.ne_notImplemented {e : PyError} (h : IsRejection e) : e ≠ .notImplementedError := by
  rintro rfl
  cases h

/-- The packages fail only as they document: the XML parser by a `ParseError` or a `ValueError`, the
timestamp parser by a `ValueError` or an `OverflowError`, the inflater by its own error, the signature
backend by its two rejections. The schema and the backend's binary are installed, and the namespace
scan and the validator may raise anything but the library's own `SchemaBundleError`. -/
structure FailsAsDocumented (env : Environment) : Prop where
  parser : ∀ forbidDtd text, RaisesOnly (fun e => e = .parseError ∨ e.isValueError = true)
    (env.parseSafeXml forbidDtd text)
  timestamps : ∀ value, RaisesOnly (fun e => isTimestampError e = true) (env.fromisoformat value)
  inflate : ∀ raw cap, RaisesOnly (fun e => e = .zlibError) (env.decompress raw cap)
  schema : env.xmlSchema = .ok ()
  namespaces : ∀ text, RaisesOnly (fun e => e ≠ .schemaBundleError) (env.startNs text)
  validator : ∀ text namespaces, RaisesOnly (fun e => e ≠ .schemaBundleError) (env.isValid text namespaces)
  binary : ∃ binary, env.getXmlsecBinary = .ok binary
  backend : ∀ binary text certFile nodeName nodeId,
    RaisesOnly (fun e => isBackendRejection e = true) (env.verifySignature binary text certFile nodeName nodeId)

section Steps

variable {env : Environment} (hdocumented : FailsAsDocumented env)

/-- The sole-assertion check rejects by a `SamlError`. -/
theorem requireSoleConsumedAssertion_raisesOnly (parsed : ParsedResponse) :
    RaisesOnly IsRejection (requireSoleConsumedAssertion parsed) := by
  refine RaisesOnly.bind (RaisesOnly.raiseIf rfl) fun _ _ => ?_
  split
  · exact RaisesOnly.raiseIf rfl
  · exact RaisesOnly.error rfl

/-- The ID scan rejects by a `SamlError`. -/
theorem rejectAmbiguousIds_raisesOnly (parsed : ParsedResponse) :
    RaisesOnly IsRejection (rejectAmbiguousIds parsed) := by
  intro e h
  obtain ⟨_, rfl⟩ := rejectAmbiguousIds_error_iff.mp h
  rfl

/-- The location of the assertion rejects by a `SamlError`. -/
theorem locateAssertion_raisesOnly (responseXml : String) (response : Element) :
    RaisesOnly IsRejection (locateAssertion responseXml response) := by
  unfold locateAssertion
  split
  · exact RaisesOnly.ok _
  · exact RaisesOnly.error rfl

/-- The selection of the bearer confirmations rejects by a `SamlError`. -/
theorem bearerConfirmations_raisesOnly (assertion : Element) :
    RaisesOnly IsRejection (bearerConfirmations assertion) := by
  unfold bearerConfirmations
  split
  · exact RaisesOnly.error rfl
  · exact RaisesOnly.bind (RaisesOnly.raiseIf rfl) fun _ _ => RaisesOnly.ok _
  · exact RaisesOnly.error rfl

include hdocumented

/-- Parsing rejects by a `SamlError`. -/
theorem parseResponse_raisesOnly (responseXml : String) :
    RaisesOnly IsRejection (parseResponse env responseXml) := by
  refine RaisesOnly.bind (RaisesOnly.reraise (hdocumented.parser true responseXml) ?_) fun response _ => ?_
  · rintro e (rfl | he)
    · rfl
    · cases e <;> first | rfl | cases he
  refine RaisesOnly.bind (RaisesOnly.raiseIf rfl) fun _ _ => ?_
  refine RaisesOnly.bind (RaisesOnly.required rfl) fun statusCode _ => ?_
  exact RaisesOnly.bind (RaisesOnly.raiseIf rfl) fun _ _ => locateAssertion_raisesOnly responseXml response

/-- The schema step rejects by a `SamlError`: whatever the validator raises is translated. -/
theorem rejectSchemaInvalidAssertion_raisesOnly (parsed : ParsedResponse) :
    RaisesOnly IsRejection (rejectSchemaInvalidAssertion env parsed) := by
  have hschema : assertionSchema env = .ok () := by rw [assertionSchema, hdocumented.schema]; rfl
  refine RaisesOnly.bind (RaisesOnly.reraise (Q := fun e => e ≠ .schemaBundleError) ?_ fun e he => ?_)
    fun valid _ => ?_
  · refine RaisesOnly.bind (RaisesOnly.bind (hdocumented.namespaces _) fun _ _ => RaisesOnly.ok _)
      fun namespaces _ => ?_
    rw [hschema, ok_bind]
    exact hdocumented.validator _ _
  · rw [if_neg he]
    rfl
  · exact RaisesOnly.raiseIf rfl

/-- The hardening rejects by a `SamlError`. -/
theorem rejectSignatureWrapping_raisesOnly (parsed : ParsedResponse) :
    RaisesOnly IsRejection (rejectSignatureWrapping env parsed) := by
  refine RaisesOnly.bind (requireSoleConsumedAssertion_raisesOnly parsed) fun _ _ => ?_
  refine RaisesOnly.bind (rejectAmbiguousIds_raisesOnly parsed) fun _ _ => ?_
  exact RaisesOnly.bind (RaisesOnly.raiseIf rfl) fun _ _ =>
    rejectSchemaInvalidAssertion_raisesOnly hdocumented parsed

/-- Signature verification rejects by a `SamlError`: its own `SignatureError`. -/
theorem isRejection_of_verifyAssertionSignature (parsed : ParsedResponse) (idp : IdPDescriptor env.tables) :
    RaisesOnly IsRejection (verifyAssertionSignature env parsed idp) := by
  obtain ⟨binary, hbinary⟩ := hdocumented.binary
  refine (verifyAssertionSignature_raisesOnly hbinary (fun certFile nodeId => ?_) idp).mono ?_
  · exact hdocumented.backend binary parsed.responseXml certFile assertionNodeName nodeId
  · rintro _ ⟨message, rfl⟩
    rfl

end Steps

section Validators

variable {env : Environment}
  (htimestamps : ∀ value, RaisesOnly (fun e => isTimestampError e = true) (env.fromisoformat value))
  {now : DateTime} (hnow : now.Aware) {clockSkew : TimeDelta} (hskew : 0 ≤ clockSkew.micros)
include htimestamps hnow

section Conditions

include hskew

/-- The start check rejects by a `SamlError`: on instants with offsets its comparisons cannot fail. -/
theorem enforceNotBefore_raisesOnly (conditions : Element) {expiry : DateTime} (hexpiry : expiry.Aware) :
    RaisesOnly IsRejection (enforceNotBefore env conditions expiry now clockSkew) := by
  unfold enforceNotBefore
  split
  · exact RaisesOnly.ok ()
  refine RaisesOnly.bind (parseInstant_raisesOnly htimestamps _ _) fun notBefore hparse => ?_
  have haware := (parseInstant_ok_iff.mp hparse).2
  rw [DateTime.ge_of_aware haware hexpiry, liftTime_ok, ok_bind, isNotYetValid_of_aware hnow haware hskew]
  exact RaisesOnly.bind (RaisesOnly.raiseIf rfl) fun _ _ => RaisesOnly.raiseIf rfl

/-- The window check rejects by a `SamlError`. -/
theorem enforceValidityWindow_raisesOnly (conditions : Element) :
    RaisesOnly IsRejection (enforceValidityWindow env conditions now clockSkew) := by
  refine RaisesOnly.bind (RaisesOnly.required rfl) fun raw _ => ?_
  refine RaisesOnly.bind (parseInstant_raisesOnly htimestamps raw _) fun expiry hparse => ?_
  have haware := (parseInstant_ok_iff.mp hparse).2
  refine RaisesOnly.bind (enforceNotBefore_raisesOnly htimestamps hnow hskew conditions haware) fun _ _ => ?_
  rw [hasExpired_of_aware hnow haware hskew]
  exact RaisesOnly.raiseIf rfl

/-- Validation of the conditions rejects by a `SamlError`. -/
theorem validateConditions_raisesOnly (assertion : Element) (audience : String) :
    RaisesOnly IsRejection (validateConditions env assertion audience now clockSkew) := by
  rw [validateConditions, requireAware_of_aware hnow, ok_bind]
  split
  · exact RaisesOnly.error rfl
  · refine RaisesOnly.bind (enforceValidityWindow_raisesOnly htimestamps hnow hskew _) fun _ _ => ?_
    refine RaisesOnly.bind ?_ fun _ _ => RaisesOnly.forM fun _ _ => RaisesOnly.raiseIf rfl
    exact RaisesOnly.bind (RaisesOnly.raiseIf rfl) fun _ _ => RaisesOnly.forM fun _ _ => RaisesOnly.raiseIf rfl
  · exact RaisesOnly.error rfl

end Conditions

/-- Validation of the subject confirmation rejects by a `SamlError`: the loop runs over at least one
confirmation and catches all of their failures. -/
theorem validateSubjectConfirmation_raisesOnly {expectedInResponseTo : Option String}
    (hexpected : ∀ request ∈ expectedInResponseTo, strip request ≠ "") (parsed : ParsedResponse)
    (config : SamlConfig env.tables) :
    RaisesOnly IsRejection (validateSubjectConfirmation env parsed config expectedInResponseTo now) := by
  have hblank : ¬ ∃ request ∈ expectedInResponseTo, strip request = "" := by
    intro h
    obtain ⟨request, hmem, hstrip⟩ := h
    exact hexpected request hmem hstrip
  rw [validateSubjectConfirmation, requireAware_of_aware hnow, ok_bind, raiseIf_bind_neg hblank]
  refine RaisesOnly.bind (RaisesOnly.raiseIf rfl) fun _ _ => ?_
  refine RaisesOnly.bind ?_ fun _ _ => ?_
  · exact RaisesOnly.bind (RaisesOnly.raiseIf rfl) fun _ _ => checkInResponseTo_raisesOnly _ _ _
  refine RaisesOnly.bind (bearerConfirmations_raisesOnly parsed.assertion) fun confirmations hconfirmations => ?_
  obtain ⟨_, _, _, hne⟩ := bearerConfirmations_ok_iff.mp hconfirmations
  exact RaisesOnly.firstSuccess hne (fun _ he => he) fun confirmation _ =>
    confirmBearer_raisesOnly htimestamps _ _ hnow config.clockSkew_nonneg confirmation

end Validators

section Frontier

variable {env : Environment}
  (htimestamps : ∀ value, RaisesOnly (fun e => isTimestampError e = true) (env.fromisoformat value))

include htimestamps

/-- Validation of the conditions is implemented, whatever the clock. -/
theorem validateConditions_ne_notImplemented (assertion : Element) (audience : String) (now : DateTime)
    {clockSkew : TimeDelta} (hskew : 0 ≤ clockSkew.micros) :
    RaisesOnly (fun e => e ≠ .notImplementedError) (validateConditions env assertion audience now clockSkew) := by
  by_cases hnow : now.Aware
  · exact (validateConditions_raisesOnly htimestamps hnow hskew assertion audience).mono
      fun _ => IsRejection.ne_notImplemented
  · rw [validateConditions, requireAware, raiseIf_bind_pos hnow]
    exact RaisesOnly.error (by simp)

/-- Validation of the subject confirmation is implemented, whatever the clock and the expected request. -/
theorem validateSubjectConfirmation_ne_notImplemented (parsed : ParsedResponse) (config : SamlConfig env.tables)
    (expectedInResponseTo : Option String) (now : DateTime) :
    RaisesOnly (fun e => e ≠ .notImplementedError)
      (validateSubjectConfirmation env parsed config expectedInResponseTo now) := by
  by_cases hnow : now.Aware
  · by_cases hblank : ∃ request ∈ expectedInResponseTo, strip request = ""
    · rw [validateSubjectConfirmation, requireAware_of_aware hnow, ok_bind, raiseIf_bind_pos hblank]
      exact RaisesOnly.error (by simp)
    · have hexpected : ∀ request ∈ expectedInResponseTo, strip request ≠ "" :=
        fun request hmem hstrip => hblank ⟨request, hmem, hstrip⟩
      exact (validateSubjectConfirmation_raisesOnly htimestamps hnow hexpected parsed config).mono
        fun _ => IsRejection.ne_notImplemented
  · rw [validateSubjectConfirmation, requireAware, raiseIf_bind_pos hnow]
    exact RaisesOnly.error (by simp)

/-- Once a response is verified, no check ends in `NotImplementedError`. -/
theorem implementedChecks_ne_notImplemented {responseXml : String} {config : SamlConfig env.tables}
    {idp : IdPDescriptor env.tables} {parsed : ParsedResponse}
    (hverified : verifiedResponse env responseXml idp = .ok parsed) (now : DateTime)
    (expectedInResponseTo : Option String) :
    RaisesOnly (fun e => e ≠ .notImplementedError)
      (implementedChecks env responseXml config idp (.ok now) expectedInResponseTo) := by
  rw [implementedChecks, hverified, ok_bind, ok_bind]
  refine RaisesOnly.bind (validateConditions_ne_notImplemented htimestamps _ _ now config.clockSkew_nonneg)
    fun _ _ => ?_
  exact validateSubjectConfirmation_ne_notImplemented htimestamps parsed config expectedInResponseTo now

end Frontier

section Pipeline

variable {env : Environment} (hdocumented : FailsAsDocumented env) {now : DateTime} (hnow : now.Aware)
  {expectedInResponseTo : Option String} (hexpected : ∀ request ∈ expectedInResponseTo, strip request ≠ "")
include hdocumented hnow hexpected

/-- The implemented checks reject by a `SamlError`. -/
theorem implementedChecks_raisesOnly (responseXml : String) (config : SamlConfig env.tables)
    (idp : IdPDescriptor env.tables) :
    RaisesOnly IsRejection (implementedChecks env responseXml config idp (.ok now) expectedInResponseTo) := by
  refine RaisesOnly.bind ?_ fun parsed _ => ?_
  · refine RaisesOnly.bind (parseResponse_raisesOnly hdocumented responseXml) fun parsed _ => ?_
    refine RaisesOnly.bind (rejectSignatureWrapping_raisesOnly hdocumented parsed) fun _ _ => ?_
    exact RaisesOnly.bind (isRejection_of_verifyAssertionSignature hdocumented parsed idp) fun _ _ =>
      RaisesOnly.ok parsed
  rw [ok_bind]
  refine RaisesOnly.bind (validateConditions_raisesOnly hdocumented.timestamps hnow config.clockSkew_nonneg _ _)
    fun _ _ => ?_
  exact validateSubjectConfirmation_raisesOnly hdocumented.timestamps hnow hexpected parsed config

/-- Processing a response ends in a `SamlError`, or in `NotImplementedError` after every implemented check
has passed. -/
theorem processResponse_rejects_by_samlError (sp : ServiceProvider env) (hclock : sp.clock = .ok now)
    (samlResponseB64 : List CodePoint) :
    (∃ kind message, sp.processResponse samlResponseB64 expectedInResponseTo = .error (.saml kind message)) ∨
      ∃ responseXml, decodeResponse env samlResponseB64 = .ok responseXml ∧
        implementedChecks env responseXml sp.config sp.idp sp.clock expectedInResponseTo = .ok () ∧
        sp.processResponse samlResponseB64 expectedInResponseTo = .error .notImplementedError := by
  cases hdecode : decodeResponse env samlResponseB64 with
  | error e =>
    obtain ⟨message, rfl⟩ := decodeResponse_raisesOnly hdocumented.inflate samlResponseB64 e hdecode
    exact Or.inl ⟨_, message, by rw [ServiceProvider.processResponse, hdecode, error_bind]; rfl⟩
  | ok responseXml =>
    rw [ServiceProvider.processResponse, hdecode, ok_bind, validateAndExtract_eq, hclock]
    cases hchecks : implementedChecks env responseXml sp.config sp.idp (.ok now) expectedInResponseTo with
    | error e =>
      have hrejection := implementedChecks_raisesOnly hdocumented hnow hexpected responseXml sp.config sp.idp e hchecks
      obtain ⟨kind, message, rfl⟩ := IsRejection.exists_saml hrejection
      exact Or.inl ⟨kind, message, rfl⟩
    | ok u => exact Or.inr ⟨responseXml, rfl, hchecks, rfl⟩

end Pipeline

/-- The federation fails as the packages it stands for do. -/
theorem failsAsDocumented_deployment : FailsAsDocumented deploymentEnvironment where
  parser _ _ := RaisesOnly.required (Or.inl rfl)
  timestamps := timestampErrors_deployment
  inflate :=
    have hformat : Inflate.Contract Deflate.inflate (fun e => e = .zlibError) deploymentEnvironment.decompress :=
      Inflate.ofFormat_contract Deflate.inflate rfl
    hformat.raises
  schema := rfl
  namespaces _ := RaisesOnly.ok _
  validator _ _ := RaisesOnly.ok true
  binary := ⟨_, rfl⟩
  backend := backendErrors_deployment

/-- The portal's answer is verified at the wiki too, where its audience is not the party, and a `SamlError` rejects
it. -/
theorem processResponse_rejects_by_samlError_deployment :
    ∃ kind message, (deploymentServiceProviders .wiki).processResponse (posted Site.portal.responseXml) (some "r1") =
      .error (.saml kind message) := by
  have hnow : demoNow.Aware := by decide
  have hrequest : ∀ request ∈ some "r1", strip request ≠ "" := by decide +kernel
  rcases processResponse_rejects_by_samlError failsAsDocumented_deployment hnow hrequest
    (deploymentServiceProviders .wiki) rfl (posted Site.portal.responseXml) with hsaml | ⟨responseXml, hdecoded, hpassed, _⟩
  · exact hsaml
  · have hanswer : Site.portal.responseXml = responseXml :=
      Except.ok.inj ((decodeResponse_answer Site.portal.choice Site.portal.view).symm.trans hdecoded)
    have hparty : wikiConfig.party = Site.portal.view.party :=
      ((implementedChecks_deployment_iff .portal).mp (hanswer ▸ hpassed)).1
    exact absurd hparty (by decide +kernel)

end ApronSaml
