import ApronSaml.Validation

/-!
# Responses that carry nothing but an assertion

The Response built from an assertion alone: no `Destination`, the expected `InResponseTo`,
one success status and the assertion. Every element object of it is one of the three
elements around the assertion, which carry no ID, or an object of the assertion's subtree.
-/

namespace ApronSaml

open Raising ElementTree

/-- The status code of a successful Response. -/
def successStatusCode : Element := ⟨qname samlpNs "StatusCode", [("Value", statusSuccess)], none, [], none⟩

/-- The status element of a successful Response. -/
def successStatus : Element := ⟨qname samlpNs "Status", [], none, [successStatusCode], none⟩

/-- The `InResponseTo` attribute of an answer to a request, absent without a request. -/
def inResponseToAttrib (expectedInResponseTo : Option String) : List (String × String) :=
  (expectedInResponseTo.map fun request => ("InResponseTo", request)).toList

/-- A Response that consists of a success status and an assertion. -/
def minimalResponse (expectedInResponseTo : Option String) (assertion : Element) : Element :=
  ⟨qname samlpNs "Response", inResponseToAttrib expectedInResponseTo, none, [successStatus, assertion], none⟩

variable {expected : Option String} {assertion : Element}

/-- The minimal Response answers the expected request. -/
@[simp] theorem get_inResponseTo_minimalResponse :
    (minimalResponse expected assertion).get "InResponseTo" = expected := by
  cases expected <;> simp [minimalResponse, inResponseToAttrib, Element.get]

/-- The minimal Response has no other attribute. -/
theorem get_minimalResponse {name : String} (hname : name ≠ "InResponseTo") :
    (minimalResponse expected assertion).get name = none := by
  cases expected <;> simp [minimalResponse, inResponseToAttrib, Element.get, hname]

/-- The objects of the minimal Response are the three around the assertion and those of its subtree. -/
theorem mem_nodes_minimalResponse {n : Node} :
    n ∈ (minimalResponse expected assertion).nodes ↔
      n = ⟨[], minimalResponse expected assertion⟩ ∨ n = ⟨[0], successStatus⟩ ∨ n = ⟨[0, 0], successStatusCode⟩ ∨
        ∃ m ∈ assertion.nodes, n = ⟨1 :: m.path, m.elem⟩ := by
  have hscan : (minimalResponse expected assertion).nodes =
      ⟨[], minimalResponse expected assertion⟩ :: ⟨[0], successStatus⟩ :: ⟨[0, 0], successStatusCode⟩ ::
        (assertion.nodesAt [1] ++ []) := rfl
  rw [hscan, List.append_nil, List.mem_cons, List.mem_cons, List.mem_cons, Element.mem_nodesAt_iff_mem_nodes]
  rfl

/-- The assertion of the minimal Response is its second child. -/
theorem at?_minimalResponse (path : List ℕ) :
    (minimalResponse expected assertion).at? (1 :: path) = assertion.at? path := by
  simp [minimalResponse]

/-- The minimal Response as it is parsed from a text. -/
def minimalParsed (responseXml : String) (expected : Option String) (assertion : Element) : ParsedResponse :=
  ⟨responseXml, assertion, minimalResponse expected assertion, some [1], by
    rintro _ ⟨rfl⟩
    exact (at?_minimalResponse []).trans (Element.at?_nil assertion)⟩

/-- A text the XML parser reads as the minimal Response is parsed with its assertion located. -/
theorem parseResponse_minimalResponse {env : Environment} {responseXml : String} (htag : assertion.tag = assertionTag)
    (hparse : env.parseSafeXml true responseXml = .ok (minimalResponse expected assertion)) :
    parseResponse env responseXml = .ok (minimalParsed responseXml expected assertion) := by
  have hstatus : (minimalResponse expected assertion).findall (qname samlpNs "Status") = [successStatus] := by
    have hother : (assertion.tag == qname samlpNs "Status") = false := by
      rw [htag]
      decide +kernel
    simp [Element.findall, minimalResponse, successStatus, hother]
  have hchildren : assertionChildren (minimalResponse expected assertion) = [⟨[1], assertion⟩] := by
    have hother : (successStatus.tag == assertionTag) = false := by decide +kernel
    simp [assertionChildren, Element.childNodes, minimalResponse, htag, hother]
  refine parseResponse_ok_iff.mpr ⟨rfl, hparse, rfl, ⟨successStatusCode, ?_, rfl⟩, 1, hchildren, rfl⟩
  rw [Element.find, Element.iterfind, minimalParsed, hstatus]
  simp [successStatus, successStatusCode, Element.findall]

end ApronSaml
