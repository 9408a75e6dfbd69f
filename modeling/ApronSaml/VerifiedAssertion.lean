import ApronSaml.Deployment

/-!
# The verified assertion is the consumed one

Five scans look at a Response on its way to a verified signature: for direct-child
assertions, for assertions anywhere, for signatures anywhere in the assertion, for
direct-child signatures, and for references. Together they leave one assertion and one
signature: the element that the validators read is the element the backend verified.
-/

namespace ApronSaml

open Raising ElementTree Chronology

/-- Where a subtree carries a tag once and a direct child carries it, that child is the occurrence. -/
theorem tagged_eq_of_findall {e c : Element} {tag : String} {node : Node} (htagged : tagged e tag = [node])
    (hfindall : e.findall tag = [c]) : ∃ i, tagged e tag = [⟨[i], c⟩] := by
  have hchild : c ∈ e.children ∧ c.tag = tag := Element.mem_findall.mp (by simp [hfindall])
  obtain ⟨i, hi, hget⟩ := List.getElem_of_mem hchild.1
  have hnode : (⟨[i], c⟩ : Node) ∈ tagged e tag :=
    List.mem_filter.mpr ⟨Element.mem_nodes.mpr (by simp [List.getElem?_eq_getElem hi, hget]), by simpa using hchild.2⟩
  rw [htagged, List.mem_singleton] at hnode
  exact ⟨i, by rw [htagged, hnode]⟩

variable {env : Environment} {responseXml : String} {idp : IdPDescriptor env.tables} {parsed : ParsedResponse}

/-- The assertion of a verified response is the only assertion of the document, and a direct child. -/
theorem sole_assertion_of_verified (h : verifiedResponse env responseXml idp = .ok parsed) :
    ∃ i, tagged parsed.root assertionTag = [⟨[i], parsed.assertion⟩] ∧ parsed.position = some [i] := by
  obtain ⟨hparse, hwrapping, _⟩ := verifiedResponse_ok_iff.mp h
  obtain ⟨_, _, _, _, i, _, hposition⟩ := parseResponse_ok_iff.mp hparse
  obtain ⟨hsoleOk, _⟩ := rejectSignatureWrapping_ok_iff.mp hwrapping
  obtain ⟨_, path, hpath, hsole⟩ := requireSoleConsumedAssertion_ok_iff.mp hsoleOk
  obtain rfl : [i] = path := Option.some_injective _ (hposition.symm.trans hpath)
  exact ⟨i, hsole, hposition⟩

/-- The signature of a verified response is the only signature in the assertion, a direct child of it,
strong, and refers to the assertion's ID alone. -/
theorem sole_signature_of_verified (h : verifiedResponse env responseXml idp = .ok parsed) :
    ∃ i signature, tagged parsed.assertion signatureTag = [⟨[i], signature⟩] ∧
      locateAssertionSignature parsed = .ok (signature, parsed.assertionId) ∧
      requireStrongAlgorithms signature = .ok () ∧
      referenceUris signature = [some ("#" ++ parsed.assertionId)] ∧ parsed.assertionId ≠ "" := by
  obtain ⟨_, hwrapping, hverify⟩ := verifiedResponse_ok_iff.mp h
  obtain ⟨_, _, hcount, _⟩ := rejectSignatureWrapping_ok_iff.mp hwrapping
  obtain ⟨node, hnode⟩ := requireSoleAssertionSignature_ok_iff.mp hcount
  obtain ⟨signature, hlocate, hstrong, _⟩ := verifyAssertionSignature_ok_iff.mp hverify
  obtain ⟨_, hid, hfindall, hreferences⟩ := locateAssertionSignature_ok_iff.mp hlocate
  obtain ⟨i, htagged⟩ := tagged_eq_of_findall hnode hfindall
  exact ⟨i, signature, htagged, hlocate, hstrong, hreferences, hid⟩

/-- Some configured certificate made the backend accept the response text for the assertion's ID. -/
theorem certificate_of_verified (h : verifiedResponse env responseXml idp = .ok parsed) :
    ∃ binary, env.getXmlsecBinary = .ok binary ∧ ∃ certBody ∈ idp.signingCertificates,
      env.verifySignature binary responseXml (pem certBody) assertionNodeName parsed.assertionId = .ok true := by
  obtain ⟨hparse, _, hverify⟩ := verifiedResponse_ok_iff.mp h
  obtain ⟨hxml, _⟩ := parseResponse_ok_iff.mp hparse
  obtain ⟨_, _, _, binary, hbinary, hany⟩ := verifyAssertionSignature_ok_iff.mp hverify
  obtain ⟨certBody, hcert, hanswer⟩ := exists_of_anyTrue hany
  exact ⟨binary, hbinary, certBody, hcert, hxml ▸ hanswer⟩

/-- Every run goes through signature verification first. One that gets past it reads one element object: the document's
only assertion, a direct child of the Response, whose only signature is the direct child that was checked, refers to
its ID alone, and was accepted by the backend for that ID in this very text. -/
theorem verified_element_is_consumed_element (h : verifiedResponse env responseXml idp = .ok parsed) :
    (∀ responseXml config idp clock expectedInResponseTo,
      validateAndExtract env responseXml config idp clock expectedInResponseTo = do
        let parsed ← verifiedResponse env responseXml idp
        let now ← clock
        validateConditions env parsed.assertion config.entityId now config.clockSkew
        validateSubjectConfirmation env parsed config expectedInResponseTo now
        .error .notImplementedError) ∧
    env.parseSafeXml true responseXml = .ok parsed.root ∧ parsed.root.tag = qname samlpNs "Response" ∧
    (∃ i, tagged parsed.root assertionTag = [⟨[i], parsed.assertion⟩] ∧ parsed.position = some [i]) ∧
    (∀ config clock expectedInResponseTo,
      validateAndExtract env responseXml config idp clock expectedInResponseTo = do
        let now ← clock
        validateConditions env parsed.assertion config.entityId now config.clockSkew
        validateSubjectConfirmation env parsed config expectedInResponseTo now
        .error .notImplementedError) ∧
    (∃ i signature, tagged parsed.assertion signatureTag = [⟨[i], signature⟩] ∧
      locateAssertionSignature parsed = .ok (signature, parsed.assertionId) ∧
      requireStrongAlgorithms signature = .ok () ∧
      referenceUris signature = [some ("#" ++ parsed.assertionId)]) ∧
    parsed.assertionId ≠ "" ∧
    ∃ binary, env.getXmlsecBinary = .ok binary ∧ ∃ certBody ∈ idp.signingCertificates,
      env.verifySignature binary responseXml (pem certBody) assertionNodeName parsed.assertionId = .ok true := by
  obtain ⟨hparse, hwrapping, hverify⟩ := verifiedResponse_ok_iff.mp h
  obtain ⟨_, hroot, htag, _⟩ := parseResponse_ok_iff.mp hparse
  obtain ⟨i, signature, htagged, hlocate, hstrong, hreferences, hid⟩ := sole_signature_of_verified h
  have hpipeline (responseXml : String) (config : SamlConfig env.tables) (idp : IdPDescriptor env.tables)
      (clock : Py DateTime) (expectedInResponseTo : Option String) :
      validateAndExtract env responseXml config idp clock expectedInResponseTo = (do
        let parsed ← verifiedResponse env responseXml idp
        let now ← clock
        validateConditions env parsed.assertion config.entityId now config.clockSkew
        validateSubjectConfirmation env parsed config expectedInResponseTo now
        .error .notImplementedError) := by
    simp only [validateAndExtract, verifiedResponse, bind_assoc, ok_bind]
  refine ⟨hpipeline, hroot, htag, sole_assertion_of_verified h, fun config clock expectedInResponseTo => ?_,
    ⟨i, signature, htagged, hlocate, hstrong, hreferences⟩, hid, certificate_of_verified h⟩
  rw [hpipeline, h, ok_bind]

/-- The demonstration Response is such a run. -/
theorem verified_element_is_consumed_element_demo :
    (∃ i, tagged demoParsed.root assertionTag = [⟨[i], demoParsed.assertion⟩]) ∧
      ∃ certBody ∈ demoIdp.signingCertificates, demoEnvironment.verifySignature "/usr/bin/xmlsec1"
        (demoResponseXml demoIssuer) (pem certBody) assertionNodeName demoParsed.assertionId = .ok true := by
  obtain ⟨_, _, _, ⟨i, hsole, _⟩, _, _, _, binary, hbinary, hcert⟩ :=
    verified_element_is_consumed_element verifiedResponse_demo
  obtain rfl : "/usr/bin/xmlsec1" = binary := by simpa [demoEnvironment, singleDocument, tableEnvironment] using hbinary
  exact ⟨⟨i, hsole⟩, hcert⟩

end ApronSaml
