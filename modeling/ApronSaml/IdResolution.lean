import ApronSaml.VerifiedAssertion

/-!
# ID resolution stays within the consumed assertion

Three comparisons of IDs meet: the ID scan compares values after collapsing Unicode
blanks, the signature step strips the assertion's ID, and a resolver in the backend may
compare values literally or after collapsing XML blanks. The scan's comparison is the
coarsest, so whatever a resolver matches with the stripped ID is the consumed assertion.
-/

namespace ApronSaml

open Raising Whitespace ElementTree

/-- The XML whitespace normalization of an ID value: its XML blanks stripped and collapsed. -/
def xmlNormalize (value : String) : String := collapse isXmlSpace value

/-- A resolver's two ways to match an attribute value with an ID. -/
def Matches (value id : String) : Prop :=
  value = id ∨ xmlNormalize value = id ∨ xmlNormalize value = xmlNormalize id

/-- Whatever a resolver matches, the scan's comparison identifies. -/
theorem normalizeId_eq_of_matches {value id : String} (h : Matches value id) :
    normalizeId value = normalizeId id := by
  have hcollapse (text : String) : normalizeId (xmlNormalize text) = normalizeId text := collapse_xmlCollapse text
  rcases h with rfl | rfl | h
  · rfl
  · exact (hcollapse value).symm
  · rw [← hcollapse value, h, hcollapse id]

/-- The consumed assertion carries its own stripped ID, in the scan's comparison. -/
theorem carriesId_assertionId {parsed : ParsedResponse} (h : parsed.assertionId ≠ "") :
    CarriesId parsed.assertion (normalizeId parsed.assertionId) := by
  cases hget : parsed.assertion.get "ID" with
  | none =>
    rw [ParsedResponse.assertionId, hget] at h
    exact absurd (by decide) h
  | some value =>
    refine ⟨"ID", by simp [idAttrs], value, hget, ?_⟩
    rw [ParsedResponse.assertionId, hget, Option.getD_some]
    exact (collapse_strip value).symm

/-- Once the sole-assertion check and the ID scan have passed, an element with an ID-typed value that
a resolver matches with the assertion's ID is the consumed assertion. -/
theorem resolved_is_assertion {parsed : ParsedResponse} (hsole : requireSoleConsumedAssertion parsed = .ok ())
    (hunique : rejectAmbiguousIds parsed = .ok ()) {n : Node} (hn : n ∈ parsed.root.nodes) {name value : String}
    (hname : name ∈ idAttrs) (hvalue : n.elem.get name = some value) (hmatch : Matches value parsed.assertionId) :
    parsed.position = some n.path ∧ n.elem = parsed.assertion := by
  obtain ⟨hid, path, hposition, hfound⟩ := requireSoleConsumedAssertion_ok_iff.mp hsole
  have hassertion : (⟨path, parsed.assertion⟩ : Node) ∈ parsed.root.nodes :=
    Element.mem_nodes.mpr (parsed.position_spec path hposition)
  have hcarries : CarriesId n.elem (normalizeId parsed.assertionId) :=
    ⟨name, hname, value, hvalue, normalizeId_eq_of_matches hmatch⟩
  have hpath : n.path = path :=
    rejectAmbiguousIds_ok_iff.mp hunique n hn _ hassertion _ hcarries (carriesId_assertionId hid)
  exact ⟨by rw [hpath, hposition], congrArg Node.elem (Element.eq_of_mem_nodes hn hassertion hpath)⟩

/-- The ID scan raises exactly when two elements share an ID-typed value, and when it and the
sole-assertion check pass, the ID that the signature step derives resolves to the consumed assertion
alone, under any of the ID-typed names and either comparison. -/
theorem id_resolution_stays_in_assertion (parsed : ParsedResponse) :
    ((∃ e, rejectAmbiguousIds parsed = .error e) ↔
      ∃ n ∈ parsed.root.nodes, ∃ m ∈ parsed.root.nodes, n.path ≠ m.path ∧
        ∃ name ∈ idAttrs, ∃ value ∈ n.elem.get name, ∃ name' ∈ idAttrs, ∃ value' ∈ m.elem.get name',
          normalizeId value = normalizeId value') ∧
    (requireSoleConsumedAssertion parsed = .ok () → rejectAmbiguousIds parsed = .ok () →
      (∀ signature id, locateAssertionSignature parsed = .ok (signature, id) → id = parsed.assertionId) ∧
      ∀ n ∈ parsed.root.nodes, ∀ name ∈ idAttrs, ∀ value ∈ n.elem.get name,
        (value = parsed.assertionId ∨ xmlNormalize value = parsed.assertionId ∨
          xmlNormalize value = xmlNormalize parsed.assertionId) →
        parsed.position = some n.path ∧ n.elem = parsed.assertion) := by
  refine ⟨?_, fun hsole hunique => ⟨fun signature id hlocate => ?_, ?_⟩⟩
  · simp only [rejectAmbiguousIds_error_iff, exists_and_left, exists_eq', and_true]
    constructor
    · intro h
      obtain ⟨n, hn, m, hm, hne, id, ⟨name, hname, value, hvalue, hid⟩, name', hname', value', hvalue', hid'⟩ := h
      exact ⟨n, hn, m, hm, hne, name, hname, value, hvalue, name', hname', value', hvalue', hid.trans hid'.symm⟩
    · intro h
      obtain ⟨n, hn, m, hm, hne, name, hname, value, hvalue, name', hname', value', hvalue', hid⟩ := h
      exact ⟨n, hn, m, hm, hne, normalizeId value, ⟨name, hname, value, hvalue, rfl⟩,
        name', hname', value', hvalue', hid.symm⟩
  · exact (locateAssertionSignature_ok_iff.mp hlocate).1
  · intro n hn name hname value hvalue hmatch
    exact resolved_is_assertion hsole hunique hn hname hvalue hmatch

/-- The demonstration Response passes both checks, and only its assertion answers to its ID. -/
theorem id_resolution_stays_in_assertion_demo :
    ∀ n ∈ demoParsed.root.nodes, ∀ value ∈ n.elem.get "ID", value = demoParsed.assertionId →
      demoParsed.position = some n.path ∧ n.elem = demoParsed.assertion := by
  have hwrapping := rejectSignatureWrapping_ok_iff.mp (verifiedResponse_ok_iff.mp verifiedResponse_demo).2.1
  intro n hn value hvalue heq
  exact ((id_resolution_stays_in_assertion demoParsed).2 hwrapping.1 hwrapping.2.1).2 n hn "ID" (by decide)
    value hvalue (Or.inl heq)

end ApronSaml
