import ApronSaml.Deployment
import ApronSaml.Library.Scoping

/-!
# The namespaces the schema engine is handed

The parser has dropped the namespace declarations, so the schema step collects them again,
into one table for the whole document: of every prefix the first declaration, and `saml`
for the selection of the assertion. The engine reads the type names in attributes by that
table, and the document means what is in scope where they stand. Both are the same exactly
when no prefix is declared twice with different namespaces, and `saml` with no other.
-/

namespace ApronSaml

open Raising Scoping

variable {env : Environment} {text : String}

/-- The collected table has the first declaration of every prefix. -/
theorem documentNamespaces_ok_iff {namespaces : NamespaceMap} :
    documentNamespaces env text = .ok namespaces ↔
      ∃ events, env.startNs text = .ok events ∧ firstOf events = namespaces := by
  simp only [documentNamespaces, bind_ok_iff, Except.ok.injEq, firstOf]

/-- The table of the schema engine has the first declaration of every prefix but `saml`. -/
theorem lookup_insert_firstOf (events : List (String × String)) (pre : String) :
    ((firstOf events).insert "saml" samlNs).lookup pre =
      if pre = "saml" then some samlNs else events.lookup pre := by
  split
  · rename_i hsaml
    rw [hsaml, AList.lookup_insert]
  · rename_i hother
    rw [AList.lookup_insert_ne hother, lookup_firstOf]

/-- No prefix is declared with two namespaces, and `saml` with none but that of assertions. -/
def DeclaredUniformly (declarations : List (String × String)) : Prop :=
  (∀ d ∈ declarations, ∀ d' ∈ declarations, d.1 = d'.1 → d.2 = d'.2) ∧ ∀ d ∈ declarations, d.1 = "saml" → d.2 = samlNs

/-- The table of the schema engine gives every prefix, at every place of the document, the namespace that is in scope
there exactly when the document declares its prefixes uniformly. -/
theorem namespaces_scoped_iff {document : Scope String String} (hevents : env.startNs text = .ok document.declarations) :
    ∃ namespaces, documentNamespaces env text = .ok namespaces ∧
      ((∀ path t, document.at? path = some t → ∀ pre uri, document.inScope path pre = some uri →
          (namespaces.insert "saml" samlNs).lookup pre = some uri) ↔ DeclaredUniformly document.declarations) := by
  refine ⟨_, documentNamespaces_ok_iff.mpr ⟨_, hevents, rfl⟩, ?_⟩
  rw [Scope.agrees_iff]
  simp only [lookup_insert_firstOf]
  constructor
  · intro h
    refine ⟨fun d hd d' hd' hname => ?_, fun d hd hname => ?_⟩
    · have hvalue := h d hd
      rw [hname, h d' hd', Option.some.injEq] at hvalue
      exact hvalue.symm
    · have hvalue := h d hd
      rw [if_pos hname, Option.some.injEq] at hvalue
      exact hvalue.symm
  · intro h d hd
    obtain ⟨huniform, hsaml⟩ := h
    split
    · rename_i hname
      rw [hsaml d hd hname]
    · exact lookup_eq_iff.mpr huniform d hd

/-- The scopes of the demonstration Response: it declares the protocol, its assertion the assertions, and the signature
there its own namespace. -/
def demoScopes : Scope String String :=
  .node (.singleton "samlp" samlpNs) [.node (.singleton "saml" samlNs) [.node (.singleton "ds" dsNs) []]]

/-- In the demonstration Response the engine reads every prefix as it is in scope. -/
theorem namespaces_scoped_iff_demo : ∃ namespaces, documentNamespaces demoEnvironment (demoResponseXml demoIssuer) =
    .ok namespaces ∧ (∀ path t, demoScopes.at? path = some t → ∀ pre uri, demoScopes.inScope path pre = some uri →
      (namespaces.insert "saml" samlNs).lookup pre = some uri) := by
  have hevents : demoEnvironment.startNs (demoResponseXml demoIssuer) = .ok demoScopes.declarations := rfl
  obtain ⟨namespaces, hnamespaces, hiff⟩ := namespaces_scoped_iff hevents
  exact ⟨namespaces, hnamespaces, hiff.mpr ⟨by decide +kernel, by decide +kernel⟩⟩

end ApronSaml
