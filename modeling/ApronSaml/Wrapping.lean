import ApronSaml.Response
import ApronSaml.Library.Ownership

/-!
# Signature-wrapping hardening

Four checks bind the assertion the application consumes to the element the signature
backend verifies: it is the only assertion of the document, no ID of the document is
ambiguous, its subtree carries one signature, and it conforms to the assertion schema.
Each check is characterized by what it requires of the parsed tree.
-/

namespace ApronSaml

open Raising Whitespace ElementTree Ownership

/-- The tag of an XML signature. -/
def signatureTag : String := qname dsNs "Signature"

/-- The ID of the consumed assertion without surrounding blanks; empty when there is none. -/
def ParsedResponse.assertionId (parsed : ParsedResponse) : String := strip ((parsed.assertion.get "ID").getD "")

/-- The element objects with a tag in a subtree, in document order. -/
def tagged (e : Element) (tag : String) : List Node := e.nodes.filter fun n => n.elem.tag == tag

/-- `_require_sole_consumed_assertion(parsed)`. -/
def requireSoleConsumedAssertion (parsed : ParsedResponse) : Py Unit := do
  raiseIf (parsed.assertionId = "") (.malformedResponse "assertion has no ID")
  match tagged parsed.root assertionTag with
  | [found] =>
    raiseIf (parsed.isAssertion found = false)
      (.malformedResponse "SAML Response does not carry exactly one, unambiguous assertion")
  | _ => .error (.malformedResponse "SAML Response does not carry exactly one, unambiguous assertion")

/-- Attribute names an ID resolver may treat as ID-typed. -/
def idAttrs : List String := ["ID", "Id", qname "http://www.w3.org/XML/1998/namespace" "id"]

/-- `_normalize_id(value)`. -/
def normalizeId (value : String) : String := collapse isSpace value

/-- `_reject_ambiguous_ids(parsed)`. -/
def rejectAmbiguousIds (parsed : ParsedResponse) : Py Unit := do
  let _ ← parsed.root.nodes.foldlM (fun owners node =>
    idAttrs.foldlM (fun owners name =>
      match node.elem.get name with
      | none => .ok owners
      | some value =>
        claim (.malformedResponse "SAML Response reuses an element ID") owners (normalizeId value) node.path)
      owners) (∅ : Owners String (List ℕ))
  .ok ()

/-- `_require_sole_assertion_signature(parsed)`. -/
def requireSoleAssertionSignature (parsed : ParsedResponse) : Py Unit :=
  raiseIf ((tagged parsed.assertion signatureTag).length ≠ 1)
    (.malformedResponse "assertion does not carry exactly one signature in its subtree")

/-- `_assertion_schema()`. -/
def assertionSchema (env : Environment) : Py Unit := reraise (fun _ => some .schemaBundleError) env.xmlSchema

/-- `_document_namespaces(response_xml)`: the first binding of each prefix wins. -/
def documentNamespaces (env : Environment) (responseXml : String) : Py NamespaceMap := do
  let events ← env.startNs responseXml
  .ok (events.foldl (fun namespaces event =>
    if event.1 ∈ namespaces then namespaces else namespaces.insert event.1 event.2) ∅)

/-- `_reject_schema_invalid_assertion(parsed)`. -/
def rejectSchemaInvalidAssertion (env : Environment) (parsed : ParsedResponse) : Py Unit := do
  let valid ← reraise
    (fun e => if e = .schemaBundleError then none
      else some (.malformedResponse "assertion does not conform to the SAML assertion schema"))
    (do
      let namespaces ← documentNamespaces env parsed.responseXml
      assertionSchema env
      env.isValid parsed.responseXml (namespaces.insert "saml" samlNs))
  raiseIf (valid = false) (.malformedResponse "assertion does not conform to the SAML assertion schema")

/-- `reject_signature_wrapping(parsed)`. -/
def rejectSignatureWrapping (env : Environment) (parsed : ParsedResponse) : Py Unit := do
  requireSoleConsumedAssertion parsed
  rejectAmbiguousIds parsed
  requireSoleAssertionSignature parsed
  rejectSchemaInvalidAssertion env parsed

/-- The sole-assertion check passes exactly when the assertion has an ID and is the one assertion of
the whole tree. -/
theorem requireSoleConsumedAssertion_ok_iff {parsed : ParsedResponse} :
    requireSoleConsumedAssertion parsed = .ok () ↔
      parsed.assertionId ≠ "" ∧
        ∃ path, parsed.position = some path ∧ tagged parsed.root assertionTag = [⟨path, parsed.assertion⟩] := by
  rw [requireSoleConsumedAssertion, raiseIf_bind_ok_iff]
  refine and_congr_right fun _ => ?_
  constructor
  · intro h
    split at h
    · rename_i found hfound
      rw [raiseIf_ok_iff, Bool.not_eq_false, ParsedResponse.isAssertion, beq_iff_eq] at h
      have hmem : found ∈ tagged parsed.root assertionTag := by simp [hfound]
      have hat := Element.mem_nodes.mp (List.mem_filter.mp hmem).1
      have helem : parsed.assertion = found.elem := by
        simpa [parsed.position_spec found.path h] using hat
      exact ⟨found.path, h, by rw [hfound, helem]⟩
    · cases h
  · intro h
    obtain ⟨path, hposition, hfound⟩ := h
    simp [hfound, ParsedResponse.isAssertion, hposition]

/-- The ID-typed values of the elements of a tree, normalized, each with the position of its element. -/
def typedIds (root : Element) : List (String × List ℕ) :=
  root.nodes.flatMap fun node => idAttrs.filterMap fun name =>
    (node.elem.get name).map fun value => (normalizeId value, node.path)

/-- An element carries an ID-typed attribute of this normalized value. -/
def CarriesId (e : Element) (id : String) : Prop := ∃ name ∈ idAttrs, ∃ value ∈ e.get name, normalizeId value = id

/-- The scan lists a value at a position when the element there carries it. -/
theorem mem_typedIds {root : Element} {id : String} {path : List ℕ} :
    (id, path) ∈ typedIds root ↔ ∃ node ∈ root.nodes, node.path = path ∧ CarriesId node.elem id := by
  simp only [typedIds, List.mem_flatMap, List.mem_filterMap, Option.map_eq_some_iff, Prod.mk.injEq, CarriesId]
  constructor
  · intro h
    obtain ⟨node, hnode, name, hname, value, hvalue, hid, hpath⟩ := h
    exact ⟨node, hnode, hpath, name, hname, value, hvalue, hid⟩
  · intro h
    obtain ⟨node, hnode, hpath, name, hname, value, hvalue, hid⟩ := h
    exact ⟨node, hnode, name, hname, value, hvalue, hid, hpath⟩

/-- The two nested loops are one scan over the listed values. -/
theorem rejectAmbiguousIds_eq (parsed : ParsedResponse) :
    rejectAmbiguousIds parsed =
      claimAll (.malformedResponse "SAML Response reuses an element ID") ∅ (typedIds parsed.root) >>=
        fun _ => .ok () := by
  rw [rejectAmbiguousIds, typedIds, claimAll_flatMap]
  congr 2
  funext owners node
  rw [claimAll_filterMap]
  congr 1
  funext owners name
  cases node.elem.get name <;> rfl

/-- The ID scan raises exactly when two elements of the tree carry one ID-typed value. -/
theorem rejectAmbiguousIds_error_iff {parsed : ParsedResponse} {e : PyError} :
    rejectAmbiguousIds parsed = .error e ↔
      (∃ n ∈ parsed.root.nodes, ∃ m ∈ parsed.root.nodes, n.path ≠ m.path ∧
        ∃ id, CarriesId n.elem id ∧ CarriesId m.elem id) ∧
        .malformedResponse "SAML Response reuses an element ID" = e := by
  simp only [rejectAmbiguousIds_eq, bind_error_iff, claimAll_error_iff, reduceCtorEq, and_false, exists_false, or_false]
  refine and_congr_left fun _ => ?_
  constructor
  · intro h
    obtain ⟨⟨id, p⟩, hc, ⟨id', p'⟩, hc', rfl, hne⟩ := h
    obtain ⟨n, hn, rfl, hid⟩ := mem_typedIds.mp hc
    obtain ⟨m, hm, rfl, hid'⟩ := mem_typedIds.mp hc'
    exact ⟨n, hn, m, hm, hne, id, hid, hid'⟩
  · intro h
    obtain ⟨n, hn, m, hm, hne, id, hid, hid'⟩ := h
    exact ⟨(id, n.path), mem_typedIds.mpr ⟨n, hn, rfl, hid⟩, (id, m.path), mem_typedIds.mpr ⟨m, hm, rfl, hid'⟩,
      rfl, hne⟩

/-- The ID scan passes exactly when each ID-typed value belongs to one element. -/
theorem rejectAmbiguousIds_ok_iff {parsed : ParsedResponse} :
    rejectAmbiguousIds parsed = .ok () ↔
      ∀ n ∈ parsed.root.nodes, ∀ m ∈ parsed.root.nodes, ∀ id, CarriesId n.elem id → CarriesId m.elem id →
        n.path = m.path := by
  constructor
  · intro hok n hn m hm id hid hid'
    by_contra hne
    have herror := rejectAmbiguousIds_error_iff.mpr ⟨⟨n, hn, m, hm, hne, id, hid, hid'⟩, rfl⟩
    simp [hok] at herror
  · intro hunique
    cases hrun : rejectAmbiguousIds parsed with
    | ok u => rfl
    | error e =>
      obtain ⟨⟨n, hn, m, hm, hne, id, hid, hid'⟩, _⟩ := rejectAmbiguousIds_error_iff.mp hrun
      exact absurd (hunique n hn m hm id hid hid') hne

/-- The signature count passes exactly when the subtree of the assertion carries one signature. -/
theorem requireSoleAssertionSignature_ok_iff {parsed : ParsedResponse} :
    requireSoleAssertionSignature parsed = .ok () ↔ ∃ node, tagged parsed.assertion signatureTag = [node] := by
  rw [requireSoleAssertionSignature, raiseIf_ok_iff, not_not, List.length_eq_one_iff]

/-- The schema step passes exactly when the namespaces could be read, the schema was built and the
validator answered yes. -/
theorem rejectSchemaInvalidAssertion_ok_iff {env : Environment} {parsed : ParsedResponse} :
    rejectSchemaInvalidAssertion env parsed = .ok () ↔
      ∃ namespaces, documentNamespaces env parsed.responseXml = .ok namespaces ∧ assertionSchema env = .ok () ∧
        env.isValid parsed.responseXml (namespaces.insert "saml" samlNs) = .ok true := by
  simp only [rejectSchemaInvalidAssertion, bind_ok_iff, reraise_ok_iff, raiseIf_ok_iff, Bool.not_eq_false]
  constructor
  · intro h
    obtain ⟨valid, ⟨namespaces, hnamespaces, _, hschema, hvalid⟩, rfl⟩ := h
    exact ⟨namespaces, hnamespaces, hschema, hvalid⟩
  · intro h
    obtain ⟨namespaces, hnamespaces, hschema, hvalid⟩ := h
    exact ⟨true, ⟨namespaces, hnamespaces, (), hschema, hvalid⟩, rfl⟩

/-- The hardening passes exactly when its four checks do. -/
theorem rejectSignatureWrapping_ok_iff {env : Environment} {parsed : ParsedResponse} :
    rejectSignatureWrapping env parsed = .ok () ↔
      requireSoleConsumedAssertion parsed = .ok () ∧ rejectAmbiguousIds parsed = .ok () ∧
        requireSoleAssertionSignature parsed = .ok () ∧ rejectSchemaInvalidAssertion env parsed = .ok () := by
  simp only [rejectSignatureWrapping, bind_ok_iff]
  exact ⟨fun ⟨_, h1, _, h2, _, h3, h4⟩ => ⟨h1, h2, h3, h4⟩, fun ⟨h1, h2, h3, h4⟩ => ⟨(), h1, (), h2, (), h3, h4⟩⟩

end ApronSaml
