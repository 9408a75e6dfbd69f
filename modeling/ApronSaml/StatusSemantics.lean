import ApronSaml.Deployment

/-!
# Which statuses let a Response be parsed

The Response itself is not checked against a schema, so it may carry any number of
top-level status codes. The assertions are counted over all matches, but of the status
codes only the first is read: a failure is seen exactly when it comes first. Nothing else
in the tree has a say in the outcome.
-/

namespace ApronSaml

open Raising ElementTree

/-- The status codes that are direct children of direct-child Status elements, in document order. -/
def topLevelStatusCodes (response : Element) : List Element :=
  response.iterfind [qname samlpNs "Status", qname samlpNs "StatusCode"]

/-- The value of a status code is the success value. -/
def Succeeds (statusCode : Element) : Prop := statusCode.get "Value" = some statusSuccess

/-- The one assertion among the direct-child ones. -/
def soleAssertion : List Element → Py Element
  | [assertion] => .ok assertion
  | _ => .error (.malformedResponse "SAML Response does not carry exactly one assertion")

/-- The outcome of parsing a Response, from the values of its top-level status codes and its direct-child
assertions alone. -/
def parseOutcome (values : List (Option String)) (assertions : List Element) : Py Element := do
  let value ← required values.head? (.malformedResponse "SAML Response has no top-level Status")
  raiseIf (value ≠ some statusSuccess) (.saml .statusError "SAML Response carried a non-success status")
  soleAssertion assertions

/-- The assertion is there exactly when it is the only one. -/
theorem soleAssertion_ok_iff {assertions : List Element} {assertion : Element} :
    soleAssertion assertions = .ok assertion ↔ assertions = [assertion] := by
  unfold soleAssertion
  split
  · simp
  · rename_i hmany
    exact ⟨fun h => (nomatch h), fun h => absurd h (hmany assertion)⟩

/-- The outcome is an assertion exactly when the first status code reports success and the assertion is the
only one. -/
theorem parseOutcome_ok_iff {values : List (Option String)} {assertions : List Element} {assertion : Element} :
    parseOutcome values assertions = .ok assertion ↔
      values.head? = some (some statusSuccess) ∧ assertions = [assertion] := by
  simp only [parseOutcome, bind_ok_iff, required_ok_iff, raiseIf_ok_iff, not_not, soleAssertion_ok_iff]
  constructor
  · intro h
    obtain ⟨value, hhead, _, rfl, hassertions⟩ := h
    exact ⟨hhead, hassertions⟩
  · intro h
    exact ⟨_, h.1, (), rfl, h.2⟩

/-- Behind a first status code that reports success nothing is a status error. -/
theorem parseOutcome_ne_of_success {values : List (Option String)} (hhead : values.head? = some (some statusSuccess))
    (assertions : List Element) (message : String) :
    parseOutcome values assertions ≠ .error (.saml .statusError message) := by
  rw [parseOutcome, hhead, required, ok_bind, raiseIf_bind_neg (not_not_intro rfl)]
  unfold soleAssertion
  split <;> simp [PyError.malformedResponse]

/-- A first status code that reports a failure is a status error. -/
theorem parseOutcome_of_failure {values : List (Option String)} {value : Option String}
    (hhead : values.head? = some value) (hfailure : value ≠ some statusSuccess) (assertions : List Element) :
    parseOutcome values assertions = .error (.saml .statusError "SAML Response carried a non-success status") := by
  rw [parseOutcome, hhead]
  exact raiseIf_bind_pos hfailure _ _

/-- The located direct-child assertions are those `findall` lists. -/
theorem map_elem_assertionChildren (response : Element) :
    (assertionChildren response).map Node.elem = response.findall assertionTag := by
  rw [assertionChildren, Element.childNodes, List.filter_map, List.map_map, Element.findall]
  conv_rhs => rw [← List.zipIdx_map_fst 0 response.children, List.filter_map]
  rfl

/-- Locating the assertion looks at nothing but the direct-child assertions. -/
theorem map_assertion_locateAssertion (responseXml : String) (response : Element) :
    (locateAssertion responseXml response).map ParsedResponse.assertion =
      soleAssertion (response.findall assertionTag) := by
  have hchildren := map_elem_assertionChildren response
  unfold locateAssertion
  split
  · rename_i assertion hone
    rw [hone] at hchildren
    rw [← hchildren]
    rfl
  · rename_i hmany
    cases hlist : assertionChildren response with
    | nil =>
      rw [hlist] at hchildren
      rw [← hchildren]
      rfl
    | cons first rest =>
      cases rest with
      | nil => exact absurd hlist (hmany first)
      | cons second rest =>
        rw [hlist] at hchildren
        rw [← hchildren]
        rfl

section Document

variable {env : Environment} {responseXml : String} {response : Element}
  (hparse : env.parseSafeXml true responseXml = .ok response) (htag : response.tag = qname samlpNs "Response")
include hparse htag

/-- Parsing a well-formed Response has the stated outcome. -/
theorem map_assertion_parseResponse :
    (parseResponse env responseXml).map ParsedResponse.assertion =
      parseOutcome ((topLevelStatusCodes response).map fun code => code.get "Value")
        (response.findall assertionTag) := by
  rw [parseResponse, hparse]
  simp only [reraise, ok_bind]
  rw [raiseIf_bind_neg (not_not_intro htag), Element.find, ← topLevelStatusCodes, parseOutcome, List.head?_map,
    ← map_assertion_locateAssertion responseXml]
  cases (topLevelStatusCodes response).head? with
  | none => rfl
  | some code =>
    simp only [required, ok_bind, Option.map_some]
    by_cases hsuccess : code.get "Value" = some statusSuccess
    · rw [raiseIf_bind_neg (not_not_intro hsuccess), raiseIf_bind_neg (not_not_intro hsuccess)]
    · rw [raiseIf_bind_pos hsuccess, raiseIf_bind_pos hsuccess]
      rfl

/-- A Response is parsed exactly with one direct-child assertion and a first status code that reports success. -/
theorem parseResponse_returns_iff :
    (∃ parsed, parseResponse env responseXml = .ok parsed) ↔
      (∃ first ∈ (topLevelStatusCodes response).head?, Succeeds first) ∧
        ∃ assertion, response.findall assertionTag = [assertion] := by
  have hmap := map_assertion_parseResponse hparse htag
  have hreturns : (∃ parsed, parseResponse env responseXml = .ok parsed) ↔
      ∃ assertion, (parseResponse env responseXml).map ParsedResponse.assertion = .ok assertion := by
    simp only [map_ok_iff]
    exact ⟨fun ⟨parsed, hparsed⟩ => ⟨_, parsed, hparsed, rfl⟩, fun ⟨_, parsed, hparsed, _⟩ => ⟨parsed, hparsed⟩⟩
  rw [hreturns, hmap]
  simp only [parseOutcome_ok_iff, List.head?_map, Option.map_eq_some_iff, exists_and_left]
  rfl

/-- A first status code that reports a failure is a status error. -/
theorem parseResponse_of_failure (h : ∃ first ∈ (topLevelStatusCodes response).head?, ¬ Succeeds first) :
    parseResponse env responseXml =
      .error (.saml .statusError "SAML Response carried a non-success status") := by
  obtain ⟨first, hfirst, hfailure⟩ := h
  rw [← map_error_iff (f := ParsedResponse.assertion), map_assertion_parseResponse hparse htag]
  refine parseOutcome_of_failure ?_ hfailure _
  rw [List.head?_map, hfirst, Option.map_some]

end Document

/-- Only wholly successful, unambiguous Responses are parsed: success in every top-level status code, of which
there is one at least, and one direct-child assertion, the one returned; and any other status is an error. -/
structure ParsesWhollySuccessful (env : Environment) (responseXml : String) (response : Element) : Prop where
  returns : (∃ parsed, parseResponse env responseXml = .ok parsed) ↔
    topLevelStatusCodes response ≠ [] ∧ (∀ code ∈ topLevelStatusCodes response, Succeeds code) ∧
      ∃ assertion, response.findall assertionTag = [assertion]
  located : ∀ parsed, parseResponse env responseXml = .ok parsed →
    ∃ i, assertionChildren response = [⟨[i], parsed.assertion⟩] ∧ parsed.position = some [i]
  fails : (∃ code ∈ topLevelStatusCodes response, ¬ Succeeds code) →
    ∃ message, parseResponse env responseXml = .error (.saml .statusError message)

/-- A failure among the top-level status codes comes first. -/
def FailureComesFirst (response : Element) : Prop :=
  (∃ code ∈ topLevelStatusCodes response, ¬ Succeeds code) →
    ∃ first ∈ (topLevelStatusCodes response).head?, ¬ Succeeds first

/-- Where a failure comes first, the first status code speaks for all of them. -/
theorem FailureComesFirst.succeeds_iff {response : Element} (h : FailureComesFirst response) :
    (∃ first ∈ (topLevelStatusCodes response).head?, Succeeds first) ↔
      topLevelStatusCodes response ≠ [] ∧ ∀ code ∈ topLevelStatusCodes response, Succeeds code := by
  unfold FailureComesFirst at h
  cases hcodes : topLevelStatusCodes response with
  | nil => simp
  | cons first rest =>
    simp only [hcodes, List.head?_cons, Option.mem_some_iff, exists_eq_left'] at h ⊢
    constructor
    · intro hfirst
      exact ⟨List.cons_ne_nil _ _, fun code hcode => not_not.mp fun hfailure => h ⟨code, hcode, hfailure⟩ hfirst⟩
    · intro hall
      exact hall.2 first List.mem_cons_self

/-- A well-formed Response is parsed as a wholly successful one or refused, exactly when a failure among its
top-level status codes comes first; and status codes and assertions elsewhere in the tree make no difference. -/
theorem parsesWhollySuccessful_iff {env : Environment} {responseXml : String} {response : Element}
    (hparse : env.parseSafeXml true responseXml = .ok response) (htag : response.tag = qname samlpNs "Response") :
    (ParsesWhollySuccessful env responseXml response ↔ FailureComesFirst response) ∧
    ∀ responseXml' response', env.parseSafeXml true responseXml' = .ok response' →
      response'.tag = qname samlpNs "Response" →
      (topLevelStatusCodes response').map (fun code => code.get "Value") =
        (topLevelStatusCodes response).map (fun code => code.get "Value") →
      response'.findall assertionTag = response.findall assertionTag →
      (parseResponse env responseXml').map ParsedResponse.assertion =
        (parseResponse env responseXml).map ParsedResponse.assertion := by
  constructor
  · constructor
    · intro h hfailure
      obtain ⟨message, herror⟩ := h.fails hfailure
      obtain ⟨code, hcode, _⟩ := hfailure
      obtain ⟨first, rest, hcodes⟩ := List.exists_cons_of_ne_nil (List.ne_nil_of_mem hcode)
      have hfirst : (topLevelStatusCodes response).head? = some first := by rw [hcodes, List.head?_cons]
      refine ⟨first, hfirst, fun hsuccess => ?_⟩
      rw [← map_error_iff (f := ParsedResponse.assertion), map_assertion_parseResponse hparse htag] at herror
      refine parseOutcome_ne_of_success ?_ _ message herror
      rw [List.head?_map, hfirst, Option.map_some, hsuccess]
    · intro h
      refine ⟨?_, fun parsed hparsed => ?_, fun hfailure => ⟨_, parseResponse_of_failure hparse htag (h hfailure)⟩⟩
      · rw [parseResponse_returns_iff hparse htag, h.succeeds_iff, and_assoc]
      · obtain ⟨_, hroot, _, _, hlocated⟩ := parseResponse_ok_iff.mp hparsed
        obtain rfl : response = parsed.root := Except.ok.inj (hparse.symm.trans hroot)
        exact hlocated
  · intro responseXml' response' hparse' htag' hvalues hassertions
    rw [map_assertion_parseResponse hparse htag, map_assertion_parseResponse hparse' htag', hvalues, hassertions]

/-- A Response with a success status, a failure status and an assertion. -/
def mixedResponse : Element :=
  ⟨qname samlpNs "Response", [], none, [successStatus,
    ⟨qname samlpNs "Status", [], none, [
      ⟨qname samlpNs "StatusCode", [("Value", "urn:oasis:names:tc:SAML:2.0:status:Responder")], none, [], none⟩], none⟩,
    demoAssertion demoIssuer], none⟩

/-- The text of the Response with two statuses. -/
def mixedResponseXml : String :=
  "<samlp:Response xmlns:samlp=\"urn:oasis:names:tc:SAML:2.0:protocol\">" ++
  "<samlp:Status><samlp:StatusCode Value=\"urn:oasis:names:tc:SAML:2.0:status:Success\"/></samlp:Status>" ++
  "<samlp:Status><samlp:StatusCode Value=\"urn:oasis:names:tc:SAML:2.0:status:Responder\"/></samlp:Status>" ++
  "<saml:Assertion xmlns:saml=\"urn:oasis:names:tc:SAML:2.0:assertion\" ID=\"a1\" Version=\"2.0\" " ++
  "IssueInstant=\"2024-05-01T00:00:00Z\"><saml:Issuer>" ++ (demoIssuer ++ demoClosingXml)

/-- The demonstration Response has one status code, a success. -/
theorem parsesWhollySuccessful_iff_demo :
    ParsesWhollySuccessful demoEnvironment (demoResponseXml demoIssuer)
      (minimalResponse (some "r1") (demoAssertion demoIssuer)) := by
  refine (parsesWhollySuccessful_iff (parseSafeXml_singleDocument _ _ true) rfl).1.mpr fun h => ?_
  have hcodes : topLevelStatusCodes (minimalResponse (some "r1") (demoAssertion demoIssuer)) = [successStatusCode] := rfl
  obtain ⟨code, hcode, hfailure⟩ := h
  rw [hcodes, List.mem_singleton] at hcode
  rw [hcode] at hfailure
  exact absurd rfl hfailure

/-- A Response whose second status is a failure is parsed, where it should be refused. -/
theorem failing_status_is_parsed :
    (∃ parsed, parseResponse (singleDocument mixedResponseXml mixedResponse) mixedResponseXml = .ok parsed) ∧
      ¬ ParsesWhollySuccessful (singleDocument mixedResponseXml mixedResponse) mixedResponseXml mixedResponse := by
  have hparsed : ∃ parsed, parseResponse (singleDocument mixedResponseXml mixedResponse) mixedResponseXml = .ok parsed :=
    (parseResponse_returns_iff (parseSafeXml_singleDocument _ _ true) rfl).mpr ⟨⟨_, rfl, rfl⟩, _, rfl⟩
  refine ⟨hparsed, fun h => ?_⟩
  obtain ⟨_, hall, _⟩ := h.returns.mp hparsed
  have hsuccess := hall _ (List.mem_cons_of_mem _ List.mem_cons_self)
  unfold Succeeds at hsuccess
  exact absurd hsuccess (by decide +kernel)

end ApronSaml
