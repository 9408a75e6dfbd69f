import ApronSaml.Conditions
import ApronSaml.Signatures
import ApronSaml.SubjectConfirmation

/-!
# The validation pipeline

The checks on a decoded Response in trust order. Two prefixes of the pipeline have names:
the part up to a verified signature, and everything that is implemented. Replay prevention
and assembly of an identity are not, so a run that passes ends in `NotImplementedError`.
-/

namespace ApronSaml

open Raising ElementTree Chronology

/-- `validate_and_extract(response_xml, config, idp, clock=…, expected_in_response_to=…)`; the replay
store is not consulted yet. -/
def validateAndExtract (env : Environment) (responseXml : String) (config : SamlConfig env.tables)
    (idp : IdPDescriptor env.tables) (clock : Py DateTime) (expectedInResponseTo : Option String) :
    Py SamlIdentity := do
  let parsed ← parseResponse env responseXml
  rejectSignatureWrapping env parsed
  verifyAssertionSignature env parsed idp
  let now ← clock
  validateConditions env parsed.assertion config.entityId now config.clockSkew
  validateSubjectConfirmation env parsed config expectedInResponseTo now
  .error .notImplementedError

/-- The pipeline up to a verified signature. -/
def verifiedResponse (env : Environment) (responseXml : String) (idp : IdPDescriptor env.tables) :
    Py ParsedResponse := do
  let parsed ← parseResponse env responseXml
  rejectSignatureWrapping env parsed
  verifyAssertionSignature env parsed idp
  .ok parsed

/-- Every implemented check. -/
def implementedChecks (env : Environment) (responseXml : String) (config : SamlConfig env.tables)
    (idp : IdPDescriptor env.tables) (clock : Py DateTime) (expectedInResponseTo : Option String) : Py Unit := do
  let parsed ← verifiedResponse env responseXml idp
  let now ← clock
  validateConditions env parsed.assertion config.entityId now config.clockSkew
  validateSubjectConfirmation env parsed config expectedInResponseTo now

section Pipeline

variable {env : Environment} {responseXml : String} {config : SamlConfig env.tables} {idp : IdPDescriptor env.tables}
  {clock : Py DateTime} {expectedInResponseTo : Option String}

/-- The pipeline is its implemented checks, and what is not implemented after them. -/
theorem validateAndExtract_eq :
    validateAndExtract env responseXml config idp clock expectedInResponseTo =
      implementedChecks env responseXml config idp clock expectedInResponseTo >>=
        fun _ => .error .notImplementedError := by
  simp only [validateAndExtract, implementedChecks, verifiedResponse, bind_assoc, ok_bind]

/-- A verified response was parsed, passed the hardening, and its signature verified. -/
theorem verifiedResponse_ok_iff {parsed : ParsedResponse} :
    verifiedResponse env responseXml idp = .ok parsed ↔
      parseResponse env responseXml = .ok parsed ∧ rejectSignatureWrapping env parsed = .ok () ∧
        verifyAssertionSignature env parsed idp = .ok () := by
  simp only [verifiedResponse, bind_ok_iff, Except.ok.injEq]
  constructor
  · intro h
    obtain ⟨parsed', hparse, _, hwrapping, _, hverify, rfl⟩ := h
    exact ⟨hparse, hwrapping, hverify⟩
  · intro h
    obtain ⟨hparse, hwrapping, hverify⟩ := h
    exact ⟨parsed, hparse, (), hwrapping, (), hverify, rfl⟩

/-- The implemented checks pass exactly when a response is verified, the clock answers, and both
validators accept. -/
theorem implementedChecks_ok_iff :
    implementedChecks env responseXml config idp clock expectedInResponseTo = .ok () ↔
      ∃ parsed now, verifiedResponse env responseXml idp = .ok parsed ∧ clock = .ok now ∧
        validateConditions env parsed.assertion config.entityId now config.clockSkew = .ok () ∧
        validateSubjectConfirmation env parsed config expectedInResponseTo now = .ok () := by
  simp only [implementedChecks, bind_ok_iff]
  constructor
  · intro h
    obtain ⟨parsed, hverified, now, hclock, _, hconditions, hsubject⟩ := h
    exact ⟨parsed, now, hverified, hclock, hconditions, hsubject⟩
  · intro h
    obtain ⟨parsed, now, hverified, hclock, hconditions, hsubject⟩ := h
    exact ⟨parsed, hverified, now, hclock, (), hconditions, hsubject⟩

end Pipeline

end ApronSaml
