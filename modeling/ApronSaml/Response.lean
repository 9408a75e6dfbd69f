import ApronSaml.Environment
import ApronSaml.Library.Base64

/-!
# Decoding and parsing a Response

The transport encoding of a Response is undone first: base64, and DEFLATE unless the bytes
already are XML text. The document is then parsed, its top-level status checked, and its
one direct-child assertion located.
-/

namespace ApronSaml

open Raising Whitespace ElementTree TextEncoding

/-- The one top-level status that admits an assertion. -/
def statusSuccess : String := "urn:oasis:names:tc:SAML:2.0:status:Success"

/-- Characters that may precede the root element of a decoded XML document. -/
def xmlPrologue : List Char := ['\ufeff', ' ', '\t', '\r', '\n']

/-- Upper bound on the inflated size of a compressed Response. -/
def maxInflatedBytes : ℕ := 5 * 1024 * 1024

/-- The tag of a SAML assertion. -/
def assertionTag : String := qname samlNs "Assertion"

/-- `base64.b64decode(text, validate=True)`, with the exceptions it raises. -/
def b64decode (text : List CodePoint) : Py (List UInt8) :=
  (Base64.b64decode text).mapError fun
    | .nonAscii => .valueError "string argument should contain only ASCII characters"
    | .malformed => .binasciiError

/-- `raw.decode("utf-8")`, with the exception it raises. -/
def decodeUtf8 (raw : List UInt8) : Py String :=
  match utf8Decode raw with
  | some text => .ok text
  | none => .error .unicodeDecodeError

/-- `text.lstrip(_XML_PROLOGUE).startswith("<")`. -/
def looksLikeXml (text : String) : Bool := (text.toList.dropWhile xmlPrologue.contains).head? == some '<'

/-- Python's blanks among the code points of a string. -/
def blankCode (c : CodePoint) : Bool := isSpaceCode c.val

/-- The text of a raw DEFLATE payload, inflated under the size cap. -/
def inflatePayload (env : Environment) (raw : List UInt8) : Py String := do
  let inflated ← reraise
    (fun e => if e = .zlibError then
      some (.malformedResponse "SAML Response is neither an XML document nor a DEFLATE-compressed one") else none)
    (env.decompress raw maxInflatedBytes)
  raiseIf (inflated.unconsumedTail ≠ []) (.malformedResponse "SAML Response exceeds the maximum decoded size")
  raiseIf (inflated.eof = false ∨ inflated.unusedData ≠ [])
    (.malformedResponse "SAML Response is not a single complete DEFLATE stream")
  reraise
    (fun e => if e = .unicodeDecodeError then
      some (.malformedResponse "SAML Response did not decode to UTF-8 text") else none)
    (decodeUtf8 inflated.data)

/-- The text of a payload: the bytes themselves when they are XML text, and otherwise what they inflate to. -/
def decodePayload (env : Environment) (raw : List UInt8) : Py String := do
  let text ← recover (fun e => e == .unicodeDecodeError) "" (decodeUtf8 raw)
  if looksLikeXml text then .ok text else inflatePayload env raw

/-- `decode_response(saml_response_b64)`. -/
def decodeResponse (env : Environment) (samlResponseB64 : List CodePoint) : Py String := do
  raiseIf (stripBlanks blankCode samlResponseB64 = []) (.malformedResponse "SAML Response is empty")
  let raw ← reraise
    (fun e => if e.isValueError then some (.malformedResponse "SAML Response is not valid base64") else none)
    (b64decode (splitBlanks blankCode samlResponseB64).flatten)
  decodePayload env raw

/-- A decoded Response and its located assertion. The assertion is one object of the tree below
`root`, at `position`, or an object outside it. -/
@[ext]
structure ParsedResponse where
  responseXml : String
  assertion : Element
  root : Element
  position : Option (List ℕ)
  position_spec : ∀ path ∈ position, root.at? path = some assertion

/-- `node is parsed.assertion`, for an element object of the tree below the root. -/
def ParsedResponse.isAssertion (parsed : ParsedResponse) (node : Node) : Bool := parsed.position == some node.path

/-- The direct-child assertions of a Response, as element objects. -/
def assertionChildren (response : Element) : List Node :=
  response.childNodes.filter fun n => n.elem.tag == assertionTag

/-- The direct-child assertion a Response carries must be exactly one; it is the one located. -/
def locateAssertion (responseXml : String) (response : Element) : Py ParsedResponse :=
  match h : assertionChildren response with
  | [assertion] =>
    .ok ⟨responseXml, assertion.elem, response, some assertion.path, by
      rintro _ ⟨rfl⟩
      have hmem : assertion ∈ assertionChildren response := by simp [h]
      exact Element.mem_nodes.mp (Element.mem_nodes_of_mem_childNodes (List.mem_filter.mp hmem).1)⟩
  | _ => .error (.malformedResponse "SAML Response does not carry exactly one assertion")

/-- `parse_response(response_xml)`. -/
def parseResponse (env : Environment) (responseXml : String) : Py ParsedResponse := do
  let response ← reraise
    (fun e =>
      if e = .parseError then some (.malformedResponse "SAML Response is not well-formed XML")
      else if e.isValueError then
        some (.malformedResponse "SAML Response contains a disallowed DTD or entity declaration")
      else none)
    (env.parseSafeXml true responseXml)
  raiseIf (response.tag ≠ qname samlpNs "Response")
    (.malformedResponse "SAML Response root element is not a Response")
  let statusCode ← required (response.find [qname samlpNs "Status", qname samlpNs "StatusCode"])
    (.malformedResponse "SAML Response has no top-level Status")
  raiseIf (statusCode.get "Value" ≠ some statusSuccess)
    (.saml .statusError "SAML Response carried a non-success status")
  locateAssertion responseXml response

/-- A first top-level status code is there and reports success. -/
def StatusSucceeds (response : Element) : Prop :=
  ∃ statusCode, response.find [qname samlpNs "Status", qname samlpNs "StatusCode"] = some statusCode ∧
    statusCode.get "Value" = some statusSuccess

/-- A direct-child assertion sits at one child index. -/
theorem exists_index_of_mem_assertionChildren {response : Element} {node : Node}
    (h : node ∈ assertionChildren response) : ∃ i, node.path = [i] := by
  obtain ⟨i, hpath, _⟩ := Element.mem_childNodes.mp (List.mem_filter.mp h).1
  exact ⟨i, hpath⟩

/-- The located assertion is the only direct-child one, at its child index. -/
theorem locateAssertion_ok_iff {responseXml : String} {response : Element} {parsed : ParsedResponse} :
    locateAssertion responseXml response = .ok parsed ↔
      parsed.responseXml = responseXml ∧ parsed.root = response ∧
        ∃ i, assertionChildren response = [⟨[i], parsed.assertion⟩] ∧ parsed.position = some [i] := by
  unfold locateAssertion
  constructor
  · intro h
    split at h
    · rename_i assertion hchildren
      have hmem : assertion ∈ assertionChildren response := by simp [hchildren]
      obtain ⟨i, hpath⟩ := exists_index_of_mem_assertionChildren hmem
      rw [Except.ok.injEq] at h
      subst h
      exact ⟨rfl, rfl, i, by simp only [hchildren, ← hpath], congrArg some hpath⟩
    · cases h
  · intro h
    obtain ⟨hxml, hroot, i, hchildren, hposition⟩ := h
    split
    · rename_i assertion hone
      rw [hone, List.singleton_inj] at hchildren
      rw [Except.ok.injEq]
      apply ParsedResponse.ext <;> simp [hxml, hroot, hposition, hchildren]
    · rename_i hnone
      exact absurd hchildren (hnone _)

/-- A parsed Response is the tree the XML parser built from the given text: a Response of success
status whose one direct-child assertion is the one located. -/
theorem parseResponse_ok_iff {env : Environment} {responseXml : String} {parsed : ParsedResponse} :
    parseResponse env responseXml = .ok parsed ↔
      parsed.responseXml = responseXml ∧ env.parseSafeXml true responseXml = .ok parsed.root ∧
        parsed.root.tag = qname samlpNs "Response" ∧ StatusSucceeds parsed.root ∧
        ∃ i, assertionChildren parsed.root = [⟨[i], parsed.assertion⟩] ∧ parsed.position = some [i] := by
  simp only [parseResponse, bind_ok_iff, reraise_ok_iff, raiseIf_ok_iff, required_ok_iff, not_not, StatusSucceeds]
  constructor
  · intro h
    obtain ⟨response, hparse, _, htag, statusCode, hstatus, _, hsuccess, hlocate⟩ := h
    obtain ⟨hxml, rfl, hlocated⟩ := locateAssertion_ok_iff.mp hlocate
    exact ⟨hxml, hparse, htag, ⟨statusCode, hstatus, hsuccess⟩, hlocated⟩
  · intro h
    obtain ⟨hxml, hparse, htag, ⟨statusCode, hstatus, hsuccess⟩, hlocated⟩ := h
    exact ⟨parsed.root, hparse, (), htag, statusCode, hstatus, (), hsuccess,
      locateAssertion_ok_iff.mpr ⟨hxml, rfl, hlocated⟩⟩

/-- The located assertion is one by its tag. -/
theorem tag_of_parseResponse {env : Environment} {responseXml : String} {parsed : ParsedResponse}
    (h : parseResponse env responseXml = .ok parsed) : parsed.assertion.tag = assertionTag := by
  obtain ⟨_, _, _, _, i, hchildren, _⟩ := parseResponse_ok_iff.mp h
  have hchild : (⟨[i], parsed.assertion⟩ : Node) ∈ assertionChildren parsed.root := by simp [hchildren]
  simpa using (List.mem_filter.mp hchild).2

end ApronSaml
