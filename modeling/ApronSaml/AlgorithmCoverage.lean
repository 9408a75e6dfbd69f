import ApronSaml.Deployment

/-!
# Which algorithms the strength check covers

The check of a located signature looks up its first signature method and loops over every
digest method it has. A second signature method is never looked at, and a reference
without a digest method gives the loop nothing to look at. The signatures whose every
algorithm is on the allowlist are therefore those that pass and have neither.
-/

namespace ApronSaml

open Raising ElementTree

/-- The tag of a digest method. -/
def digestMethodTag : String := qname dsNs "DigestMethod"

/-- The signature methods under the SignedInfo children of a signature, in document order. -/
def signatureMethods (signature : Element) : List Element :=
  signature.iterfind [qname dsNs "SignedInfo", qname dsNs "SignatureMethod"]

/-- The references under the SignedInfo children of a signature, in document order. -/
def references (signature : Element) : List Element :=
  signature.iterfind [qname dsNs "SignedInfo", qname dsNs "Reference"]

/-- Every signature and digest algorithm a backend could read from the signature is on its allowlist, and none
is missing. -/
structure EveryAlgorithmAllowed (signature : Element) : Prop where
  signed : signatureMethods signature ≠ []
  methods : ∀ method ∈ signatureMethods signature, AlgorithmIn allowedSignatureAlgorithms method
  digested : ∀ reference ∈ references signature, reference.findall digestMethodTag ≠ []
  digests : ∀ reference ∈ references signature, ∀ digest ∈ reference.findall digestMethodTag,
    AlgorithmIn allowedDigestAlgorithms digest

/-- The check passes nothing over: no signature method after the first is off the allowlist, and the only
reference has a digest method. -/
def NothingPassedOver (signature : Element) : Prop :=
  (∀ method ∈ (signatureMethods signature).tail, AlgorithmIn allowedSignatureAlgorithms method) ∧
    ∃ reference, references signature = [reference] ∧ reference.findall digestMethodTag ≠ []

/-- The digest methods of a signature are those of its references. -/
theorem iterfind_digestMethods (signature : Element) :
    signature.iterfind [qname dsNs "SignedInfo", qname dsNs "Reference", qname dsNs "DigestMethod"] =
      (references signature).flatMap fun reference => reference.findall digestMethodTag := by
  simp only [references, Element.iterfind, List.flatMap_assoc, digestMethodTag, List.flatMap_singleton']

/-- The strength check passes exactly when the first signature method and every digest method are allowed. -/
theorem requireStrongAlgorithms_ok_iff {signature : Element} :
    requireStrongAlgorithms signature = .ok () ↔
      (∃ method ∈ (signatureMethods signature).head?, AlgorithmIn allowedSignatureAlgorithms method) ∧
        ∀ reference ∈ references signature, ∀ digest ∈ reference.findall digestMethodTag,
          AlgorithmIn allowedDigestAlgorithms digest := by
  rw [requireStrongAlgorithms, raiseIf_bind_ok_iff, not_not, forM_ok_iff, iterfind_digestMethods, Element.find,
    ← signatureMethods]
  simp only [raiseIf_ok_iff, not_not]
  exact and_congr_right' List.forall_mem_flatMap

/-- A located signature has one reference. -/
theorem exists_reference_of_locate {parsed : ParsedResponse} {signature : Element} {assertionId : String}
    (h : locateAssertionSignature parsed = .ok (signature, assertionId)) :
    ∃ reference, references signature = [reference] := by
  obtain ⟨_, _, _, huris⟩ := locateAssertionSignature_ok_iff.mp h
  obtain ⟨reference, hreference, _⟩ := List.map_eq_singleton_iff.mp huris
  exact ⟨reference, hreference⟩

/-- In a located signature that passes the strength check every algorithm is on its allowlist exactly when the
check passed nothing over: no further signature method off the allowlist, no reference without a digest method. -/
theorem everyAlgorithmAllowed_iff {parsed : ParsedResponse} {signature : Element} {assertionId : String}
    (hlocate : locateAssertionSignature parsed = .ok (signature, assertionId))
    (hstrong : requireStrongAlgorithms signature = .ok ()) :
    EveryAlgorithmAllowed signature ↔ NothingPassedOver signature := by
  obtain ⟨⟨first, hfirst, hallowed⟩, hdigests⟩ := requireStrongAlgorithms_ok_iff.mp hstrong
  obtain ⟨rest, hmethods⟩ := List.head?_eq_some_iff.mp hfirst
  obtain ⟨reference, hreference⟩ := exists_reference_of_locate hlocate
  rw [NothingPassedOver, hmethods, List.tail_cons]
  constructor
  · intro h
    refine ⟨fun method hmethod => h.methods method ?_, reference, hreference, h.digested reference ?_⟩
    · rw [hmethods]
      exact List.mem_cons_of_mem _ hmethod
    · rw [hreference]
      exact List.mem_singleton_self reference
  · intro h
    obtain ⟨hrest, other, hother, hdigest⟩ := h
    refine ⟨?_, ?_, ?_, hdigests⟩
    · rw [hmethods]
      exact List.cons_ne_nil _ _
    · rw [hmethods, List.forall_mem_cons]
      exact ⟨hallowed, hrest⟩
    · rw [hother, List.forall_mem_singleton]
      exact hdigest

/-- In the demonstration assertion nothing is passed over, and every algorithm is allowed. -/
theorem everyAlgorithmAllowed_iff_demo : EveryAlgorithmAllowed (demoSignature "a1") := by
  have hlocate : locateAssertionSignature demoParsed = .ok (demoSignature "a1", "a1") :=
    locateAssertionSignature_ok_iff.mpr ⟨by decide +kernel, by decide, rfl, by decide +kernel⟩
  have hstrong : requireStrongAlgorithms (demoSignature "a1") = .ok () := by decide +kernel
  refine (everyAlgorithmAllowed_iff hlocate hstrong).mpr ⟨by decide +kernel, _, rfl, ?_⟩
  exact List.cons_ne_nil _ _

/-- A signature over `a1` by a strong algorithm, with further signature methods and the given digest methods. -/
def variedSignature (moreMethods digestMethods : List Element) : Element :=
  ⟨signatureTag, [], none, [
    ⟨qname dsNs "SignedInfo", [], none,
      ⟨qname dsNs "SignatureMethod", [("Algorithm", "http://www.w3.org/2001/04/xmldsig-more#rsa-sha256")],
        none, [], none⟩ :: moreMethods ++ [
      ⟨qname dsNs "Reference", [("URI", "#a1")], none, digestMethods, none⟩], none⟩], none⟩

/-- A signature method by RSA with SHA-1. -/
def sha1Method : Element :=
  ⟨qname dsNs "SignatureMethod", [("Algorithm", "http://www.w3.org/2000/09/xmldsig#rsa-sha1")], none, [], none⟩

/-- A digest method by SHA-256. -/
def sha256Digest : Element :=
  ⟨digestMethodTag, [("Algorithm", "http://www.w3.org/2001/04/xmlenc#sha256")], none, [], none⟩

/-- A Response around an assertion that consists of its signature. -/
def signedParsed (signature : Element) : ParsedResponse :=
  minimalParsed "" none ⟨assertionTag, [("ID", "a1")], none, [signature], none⟩

/-- A signature whose second signature method is by SHA-1, and one whose reference has no digest method, are
located and pass the strength check. -/
theorem algorithms_escape_requireStrongAlgorithms :
    (locateAssertionSignature (signedParsed (variedSignature [sha1Method] [sha256Digest])) =
        .ok (variedSignature [sha1Method] [sha256Digest], "a1") ∧
      requireStrongAlgorithms (variedSignature [sha1Method] [sha256Digest]) = .ok () ∧
      ¬ EveryAlgorithmAllowed (variedSignature [sha1Method] [sha256Digest])) ∧
    (locateAssertionSignature (signedParsed (variedSignature [] [])) = .ok (variedSignature [] [], "a1") ∧
      requireStrongAlgorithms (variedSignature [] []) = .ok () ∧ ¬ EveryAlgorithmAllowed (variedSignature [] [])) := by
  refine ⟨⟨?_, by decide +kernel, fun h => ?_⟩, ?_, by decide +kernel, fun h => ?_⟩
  · exact locateAssertionSignature_ok_iff.mpr ⟨by decide +kernel, by decide, rfl, by decide +kernel⟩
  · have hmethod : sha1Method ∈ signatureMethods (variedSignature [sha1Method] [sha256Digest]) :=
      List.mem_cons_of_mem _ List.mem_cons_self
    exact absurd (h.methods sha1Method hmethod) (by decide +kernel)
  · exact locateAssertionSignature_ok_iff.mpr ⟨by decide +kernel, by decide, rfl, by decide +kernel⟩
  · exact h.digested _ List.mem_cons_self rfl

end ApronSaml
