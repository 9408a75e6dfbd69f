import ApronSaml.Deployment

/-!
# Verification against a set of certificates

The backend is asked about the configured certificates one after the other until one
verifies the signature. Where all it can do besides answering is to reject, the loop is an
any-of: order, repetition and the failures of other certificates do not matter. What
reaches the backend is the certificate as a PEM file, whose lines carry the body.
-/

namespace ApronSaml

open Raising

/-- Consecutive slices of a list, joined, are what they were cut from. -/
theorem flatten_slices {A : Type} (n count : ℕ) (items : List A) :
    ((List.range count).map fun i => (items.drop (n * i)).take n).flatten = items.take (n * count) := by
  induction count with
  | zero => simp
  | succ count ih =>
    rw [List.range_succ, List.map_append, List.flatten_append, ih, Nat.mul_succ, List.take_add]
    simp

/-- The slices of a certificate body, joined, are the body. -/
theorem join_pemLines (certBody : String) : String.join (pemLines certBody) = certBody := by
  rw [← String.toList_inj, String.toList_join, pemLines, List.flatMap_map]
  simp only [String.toList_ofList]
  rw [List.flatMap_def, flatten_slices, List.take_of_length_le (by omega)]

/-- A slice has at most 64 characters. -/
theorem length_le_of_mem_pemLines {certBody line : String} (h : line ∈ pemLines certBody) : line.length ≤ 64 := by
  obtain ⟨i, _, rfl⟩ := List.mem_map.mp h
  rw [String.length_ofList]
  exact List.length_take_le 64 _

/-- The lines between the BEGIN and END lines of a certificate file. -/
def bodyLines (certBody : String) : List String := if pemLines certBody = [] then [""] else pemLines certBody

/-- The lines of a certificate file; nothing follows the last line break. -/
def fileLines (certBody : String) : List String :=
  "-----BEGIN CERTIFICATE-----" :: (bodyLines certBody ++ ["-----END CERTIFICATE-----", ""])

/-- There is a line between the two, if only an empty one. -/
theorem bodyLines_ne_nil (certBody : String) : bodyLines certBody ≠ [] := by
  unfold bodyLines
  split
  · exact List.cons_ne_nil _ _
  · assumption

/-- An empty line in place of no line changes no text. -/
theorem intercalate_bodyLines (sep certBody : String) :
    sep.intercalate (bodyLines certBody) = sep.intercalate (pemLines certBody) := by
  unfold bodyLines
  split
  · rename_i hempty
    rw [hempty, String.intercalate_singleton, String.intercalate_nil]
  · rfl

/-- A text between a first and a last line, with a final line break, is its lines. -/
theorem intercalate_framed (sep first last : String) {lines : List String} (hne : lines ≠ []) :
    sep.intercalate (first :: (lines ++ [last, ""])) = first ++ sep ++ sep.intercalate lines ++ (sep ++ last ++ sep) := by
  have hrest : lines ++ [last, ""] ≠ [] := by simp
  have hframe : [last, ""] ≠ [] := by simp
  rw [String.intercalate_cons_of_ne_nil hrest, String.intercalate_append_of_ne_nil hne hframe,
    String.intercalate_cons_cons, String.intercalate_singleton]
  simp only [String.append_assoc, String.append_empty]

/-- The certificate file consists of its lines. -/
theorem pem_eq (certBody : String) : pem certBody = "\n".intercalate (fileLines certBody) := by
  have hfirst : "-----BEGIN CERTIFICATE-----\n" = "-----BEGIN CERTIFICATE-----" ++ "\n" := by simp
  have hlast : "\n-----END CERTIFICATE-----\n" = "\n" ++ "-----END CERTIFICATE-----" ++ "\n" := by simp
  unfold pem
  rw [hfirst, hlast, fileLines, intercalate_framed _ _ _ (bodyLines_ne_nil certBody), intercalate_bodyLines]

/-- The lines of the body, joined, are the body, and none is longer than 64 characters. -/
theorem bodyLines_spec (certBody : String) :
    String.join (bodyLines certBody) = certBody ∧ ∀ line ∈ bodyLines certBody, line.length ≤ 64 := by
  have hjoin := join_pemLines certBody
  unfold bodyLines
  split
  · rename_i hempty
    rw [hempty] at hjoin
    exact ⟨hjoin, by simp⟩
  · exact ⟨hjoin, fun line hline => length_le_of_mem_pemLines hline⟩

/-- A certificate body without line breaks is found again in the lines of its file. -/
theorem splitOn_pem {certBody : String} (h : '\n' ∉ certBody.toList) :
    (pem certBody).toList.splitOn '\n' = (fileLines certBody).map String.toList := by
  have hbreak : "\n".toList = ['\n'] := rfl
  rw [pem_eq, String.toList_intercalate, hbreak]
  refine List.splitOn_intercalate '\n' ?_ (by simp [fileLines])
  intro chars hchars
  obtain ⟨line, hline, rfl⟩ := List.mem_map.mp hchars
  have hframe : '\n' ∉ "-----BEGIN CERTIFICATE-----".toList ∧ '\n' ∉ "-----END CERTIFICATE-----".toList := by
    decide +kernel
  rw [fileLines, List.mem_cons, List.mem_append, List.mem_pair] at hline
  rcases hline with rfl | hbody | rfl | rfl
  · exact hframe.1
  · intro hmem
    apply h
    rw [← (bodyLines_spec certBody).1, String.toList_join]
    exact List.mem_flatMap.mpr ⟨line, hbody, hmem⟩
  · exact hframe.2
  · simp

section AnyOf

variable {env : Environment} {parsed : ParsedResponse} {binary : String}
  (hbinary : env.getXmlsecBinary = .ok binary)
  (hbackend : ∀ certFile nodeId, RaisesOnly (fun e => isBackendRejection e = true)
    (env.verifySignature binary parsed.responseXml certFile assertionNodeName nodeId))
include hbinary hbackend

/-- Verification passes exactly when the structure and the algorithms do and the backend accepts the response
text under some configured certificate. -/
theorem verifyAssertionSignature_ok_iff_exists {idp : IdPDescriptor env.tables} :
    verifyAssertionSignature env parsed idp = .ok () ↔
      (∃ signature, locateAssertionSignature parsed = .ok (signature, parsed.assertionId) ∧
        requireStrongAlgorithms signature = .ok ()) ∧
      ∃ certBody ∈ idp.signingCertificates,
        env.verifySignature binary parsed.responseXml (pem certBody) assertionNodeName parsed.assertionId = .ok true := by
  rw [verifyAssertionSignature_ok_iff]
  constructor
  · intro h
    obtain ⟨signature, hlocate, hstrong, other, hother, hany⟩ := h
    obtain rfl : binary = other := Except.ok.inj (hbinary.symm.trans hother)
    exact ⟨⟨signature, hlocate, hstrong⟩, exists_of_anyTrue hany⟩
  · intro h
    obtain ⟨⟨signature, hlocate, hstrong⟩, hcert⟩ := h
    refine ⟨signature, hlocate, hstrong, binary, hbinary, ?_⟩
    exact (anyTrue_ok_true_iff fun certBody _ => hbackend _ _).mpr hcert

/-- More certificates keep whatever was accepted. -/
theorem verifyAssertionSignature_mono {idp idp' : IdPDescriptor env.tables}
    (hsubset : idp.signingCertificates ⊆ idp'.signingCertificates)
    (h : verifyAssertionSignature env parsed idp = .ok ()) : verifyAssertionSignature env parsed idp' = .ok () := by
  rw [verifyAssertionSignature_ok_iff_exists hbinary hbackend] at h ⊢
  obtain ⟨hstructure, certBody, hcert, hanswer⟩ := h
  exact ⟨hstructure, certBody, hsubset hcert, hanswer⟩

/-- With a backend that answers or rejects, verification is an any-of over the configured certificates: it passes
exactly when the structure and the algorithms do and some certificate is answered yes, and fails by a
`SignatureError` otherwise; only the set of the certificates matters, and more of them never hurt. Every
certificate file consists of its BEGIN line, of lines of at most 64 characters that make up the body, and of its
END line. -/
theorem verifyAssertionSignature_anyOf :
    (∀ idp : IdPDescriptor env.tables, verifyAssertionSignature env parsed idp = .ok () ↔
      (∃ signature, locateAssertionSignature parsed = .ok (signature, parsed.assertionId) ∧
        requireStrongAlgorithms signature = .ok ()) ∧
      ∃ certBody ∈ idp.signingCertificates,
        env.verifySignature binary parsed.responseXml (pem certBody) assertionNodeName parsed.assertionId = .ok true) ∧
    (∀ (idp : IdPDescriptor env.tables) (e : PyError), verifyAssertionSignature env parsed idp = .error e →
      ∃ message, e = .signature message) ∧
    (∀ idp idp' : IdPDescriptor env.tables,
      (∀ certBody, certBody ∈ idp.signingCertificates ↔ certBody ∈ idp'.signingCertificates) →
      (verifyAssertionSignature env parsed idp = .ok () ↔ verifyAssertionSignature env parsed idp' = .ok ())) ∧
    (∀ idp idp' : IdPDescriptor env.tables, idp.signingCertificates ⊆ idp'.signingCertificates →
      verifyAssertionSignature env parsed idp = .ok () → verifyAssertionSignature env parsed idp' = .ok ()) ∧
    ∀ certBody : String, ∃ lines, String.join lines = certBody ∧ (∀ line ∈ lines, line.length ≤ 64) ∧
      pem certBody = "\n".intercalate
        ("-----BEGIN CERTIFICATE-----" :: (lines ++ ["-----END CERTIFICATE-----", ""])) ∧
      ('\n' ∉ certBody.toList → (pem certBody).toList.splitOn '\n' =
        ("-----BEGIN CERTIFICATE-----" :: (lines ++ ["-----END CERTIFICATE-----", ""])).map String.toList) := by
  refine ⟨fun _ => verifyAssertionSignature_ok_iff_exists hbinary hbackend,
    verifyAssertionSignature_raisesOnly hbinary hbackend, fun idp idp' hsame => ?_,
    fun _ _ => verifyAssertionSignature_mono hbinary hbackend, fun certBody => ?_⟩
  · constructor
    · exact verifyAssertionSignature_mono hbinary hbackend fun certBody => (hsame certBody).mp
    · exact verifyAssertionSignature_mono hbinary hbackend fun certBody => (hsame certBody).mpr
  · obtain ⟨hjoin, hlength⟩ := bodyLines_spec certBody
    exact ⟨bodyLines certBody, hjoin, hlength, pem_eq certBody, splitOn_pem⟩

end AnyOf

/-- The identity provider of the deployment while it changes certificates. -/
def rolloverIdp : IdPDescriptor ⟨id, fun _ => false⟩ :=
  ⟨demoIssuer, demoLocation, ["MIIBnewer", knownCertificate], demoIdp.ssoUrl_ok⟩

/-- The demonstration Response is verified under the second of two certificates. -/
theorem verifyAssertionSignature_anyOf_rollover :
    verifyAssertionSignature demoEnvironment demoParsed rolloverIdp = .ok () := by
  have hlocate : locateAssertionSignature demoParsed = .ok (demoSignature "a1", demoParsed.assertionId) :=
    locateAssertionSignature_ok_iff.mpr ⟨rfl, by decide +kernel, rfl, by decide +kernel⟩
  refine ((verifyAssertionSignature_anyOf rfl fun _ _ => backendErrors_tableEnvironment _ _ _ _ _ _ _ _ _).1
    rolloverIdp).mpr ⟨⟨_, hlocate, by decide +kernel⟩, knownCertificate, by simp [rolloverIdp], ?_⟩
  simp [tableEnvironment]

end ApronSaml
