import ApronSaml.Wrapping

/-!
# Verification of the assertion's signature

The enveloped signature is located, its algorithms are held to an allowlist, and the
backend is asked about every configured certificate in turn until one verifies the
response text for the assertion's ID.
-/

namespace ApronSaml

open Raising Whitespace ElementTree

/-- Signature algorithms strong enough to trust. -/
def allowedSignatureAlgorithms : List String :=
  ["http://www.w3.org/2001/04/xmldsig-more#rsa-sha256",
   "http://www.w3.org/2001/04/xmldsig-more#rsa-sha384",
   "http://www.w3.org/2001/04/xmldsig-more#rsa-sha512",
   "http://www.w3.org/2001/04/xmldsig-more#ecdsa-sha256",
   "http://www.w3.org/2001/04/xmldsig-more#ecdsa-sha384",
   "http://www.w3.org/2001/04/xmldsig-more#ecdsa-sha512"]

/-- Digest algorithms strong enough to trust. -/
def allowedDigestAlgorithms : List String :=
  ["http://www.w3.org/2001/04/xmlenc#sha256",
   "http://www.w3.org/2001/04/xmldsig-more#sha384",
   "http://www.w3.org/2001/04/xmlenc#sha512"]

/-- The element has an `Algorithm` attribute from the allowlist. -/
def AlgorithmIn (allowed : List String) (method : Element) : Prop :=
  ∃ algorithm ∈ method.get "Algorithm", algorithm ∈ allowed

instance (allowed : List String) (method : Element) : Decidable (AlgorithmIn allowed method) :=
  inferInstanceAs (Decidable (∃ algorithm ∈ method.get "Algorithm", algorithm ∈ allowed))

/-- `_require_strong_algorithms(signature)`. -/
def requireStrongAlgorithms (signature : Element) : Py Unit := do
  raiseIf (¬ ∃ method ∈ signature.find [qname dsNs "SignedInfo", qname dsNs "SignatureMethod"],
      AlgorithmIn allowedSignatureAlgorithms method)
    (.signature "assertion signature uses a disallowed or missing signature algorithm")
  forM (signature.iterfind [qname dsNs "SignedInfo", qname dsNs "Reference", qname dsNs "DigestMethod"]) fun digest =>
    raiseIf (¬ AlgorithmIn allowedDigestAlgorithms digest)
      (.signature "assertion signature uses a disallowed or missing digest algorithm")

/-- The `URI` attributes of the references of a signature. -/
def referenceUris (signature : Element) : List (Option String) :=
  (signature.iterfind [qname dsNs "SignedInfo", qname dsNs "Reference"]).map fun ref => ref.get "URI"

/-- `_locate_assertion_signature(parsed)`. -/
def locateAssertionSignature (parsed : ParsedResponse) : Py (Element × String) := do
  let assertionId := parsed.assertionId
  raiseIf (assertionId = "") (.signature "assertion has no ID for its signature to cover")
  match parsed.assertion.findall signatureTag with
  | [signature] => do
    raiseIf (referenceUris signature ≠ [some ("#" ++ assertionId)])
      (.signature "assertion signature does not cover the assertion element")
    .ok (signature, assertionId)
  | _ => .error (.signature "assertion does not carry exactly one signature")

/-- The element name under which the backend looks for the signed node. -/
def assertionNodeName : String := "urn:oasis:names:tc:SAML:2.0:assertion:Assertion"

/-- The slices of at most 64 characters a certificate body is broken into. -/
def pemLines (certBody : String) : List String :=
  (List.range ((certBody.toList.length + 63) / 64)).map fun i =>
    String.ofList ((certBody.toList.drop (64 * i)).take 64)

/-- `_pem(cert_body)`. -/
def pem (certBody : String) : String :=
  "-----BEGIN CERTIFICATE-----\n" ++ "\n".intercalate (pemLines certBody) ++ "\n-----END CERTIFICATE-----\n"

/-- The two backend errors that mean a certificate did not verify the signature. -/
def isBackendRejection (e : PyError) : Bool := e == .backendSignatureError || e == .xmlsecError

/-- `verify_assertion_signature(parsed, idp)`. -/
def verifyAssertionSignature (env : Environment) (parsed : ParsedResponse) (idp : IdPDescriptor env.tables) :
    Py Unit := do
  let (signature, assertionId) ← locateAssertionSignature parsed
  requireStrongAlgorithms signature
  raiseIf (idp.signingCertificates = [])
    (.signature "no configured IdP certificate to verify the assertion signature")
  let binary ← env.getXmlsecBinary
  let verified ← anyTrue isBackendRejection
    (fun certBody => env.verifySignature binary parsed.responseXml (pem certBody) assertionNodeName assertionId)
    idp.signingCertificates
  raiseIf (verified = false)
    (.signature "assertion signature did not verify against the configured IdP certificate")

/-- A located signature is the one direct-child signature of the assertion, and its references are
one reference to the assertion's ID. -/
theorem locateAssertionSignature_ok_iff {parsed : ParsedResponse} {signature : Element} {assertionId : String} :
    locateAssertionSignature parsed = .ok (signature, assertionId) ↔
      assertionId = parsed.assertionId ∧ assertionId ≠ "" ∧ parsed.assertion.findall signatureTag = [signature] ∧
        referenceUris signature = [some ("#" ++ assertionId)] := by
  rw [locateAssertionSignature, raiseIf_bind_ok_iff]
  constructor
  · intro h
    obtain ⟨hne, h⟩ := h
    split at h
    · rename_i signature' hone
      simp only [raiseIf_bind_ok_iff, not_not, Except.ok.injEq, Prod.mk.injEq] at h
      obtain ⟨hreferences, rfl, rfl⟩ := h
      exact ⟨rfl, hne, hone, hreferences⟩
    · cases h
  · intro h
    obtain ⟨rfl, hne, hone, hreferences⟩ := h
    refine ⟨hne, ?_⟩
    simp only [hone, raiseIf_bind_ok_iff, not_not]
    exact ⟨hreferences, trivial⟩

/-- Verification passes exactly when the located signature is strong and the backend says yes about
some configured certificate before it raises anything but a rejection. -/
theorem verifyAssertionSignature_ok_iff {env : Environment} {parsed : ParsedResponse}
    {idp : IdPDescriptor env.tables} :
    verifyAssertionSignature env parsed idp = .ok () ↔
      ∃ signature, locateAssertionSignature parsed = .ok (signature, parsed.assertionId) ∧
        requireStrongAlgorithms signature = .ok () ∧ ∃ binary, env.getXmlsecBinary = .ok binary ∧
          anyTrue isBackendRejection (fun certBody =>
            env.verifySignature binary parsed.responseXml (pem certBody) assertionNodeName parsed.assertionId)
            idp.signingCertificates = .ok true := by
  simp only [verifyAssertionSignature, bind_ok_iff, raiseIf_ok_iff, Bool.not_eq_false]
  constructor
  · intro h
    obtain ⟨⟨signature, assertionId⟩, hlocate, _, hstrong, _, _, binary, hbinary, verified, hverified, rfl⟩ := h
    obtain ⟨rfl, _⟩ := locateAssertionSignature_ok_iff.mp hlocate
    exact ⟨signature, hlocate, hstrong, binary, hbinary, hverified⟩
  · intro h
    obtain ⟨signature, hlocate, hstrong, binary, hbinary, hverified⟩ := h
    refine ⟨(signature, parsed.assertionId), hlocate, (), hstrong, (), ?_, binary, hbinary, true, hverified, rfl⟩
    intro hnone
    simp [hnone, anyTrue] at hverified

/-- The error is a `SignatureError`. -/
def IsSignatureError (e : PyError) : Prop := ∃ message, e = .signature message

/-- The location of the signature fails by a `SignatureError`. -/
theorem locateAssertionSignature_raisesOnly (parsed : ParsedResponse) :
    RaisesOnly IsSignatureError (locateAssertionSignature parsed) := by
  refine RaisesOnly.bind (RaisesOnly.raiseIf ⟨_, rfl⟩) fun _ _ => ?_
  split
  · exact RaisesOnly.bind (RaisesOnly.raiseIf ⟨_, rfl⟩) fun _ _ => RaisesOnly.ok _
  · exact RaisesOnly.error ⟨_, rfl⟩

/-- The algorithm check fails by a `SignatureError`. -/
theorem requireStrongAlgorithms_raisesOnly (signature : Element) :
    RaisesOnly IsSignatureError (requireStrongAlgorithms signature) :=
  RaisesOnly.bind (RaisesOnly.raiseIf ⟨_, rfl⟩) fun _ _ => RaisesOnly.forM fun _ _ => RaisesOnly.raiseIf ⟨_, rfl⟩

/-- Verification fails by a `SignatureError` where the backend is there and only rejects: a rejection counts
as a negative answer. -/
theorem verifyAssertionSignature_raisesOnly {env : Environment} {parsed : ParsedResponse} {binary : String}
    (hbinary : env.getXmlsecBinary = .ok binary)
    (hbackend : ∀ certFile nodeId, RaisesOnly (fun e => isBackendRejection e = true)
      (env.verifySignature binary parsed.responseXml certFile assertionNodeName nodeId))
    (idp : IdPDescriptor env.tables) : RaisesOnly IsSignatureError (verifyAssertionSignature env parsed idp) := by
  refine RaisesOnly.bind (locateAssertionSignature_raisesOnly parsed) fun located _ => ?_
  refine RaisesOnly.bind (requireStrongAlgorithms_raisesOnly located.1) fun _ _ => ?_
  refine RaisesOnly.bind (RaisesOnly.raiseIf ⟨_, rfl⟩) fun _ _ => ?_
  rw [hbinary, ok_bind, anyTrue_eq_of_caught fun certBody _ => hbackend _ _, ok_bind]
  exact RaisesOnly.raiseIf ⟨_, rfl⟩

end ApronSaml
