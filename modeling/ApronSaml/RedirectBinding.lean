import ApronSaml.AuthnRequest
import ApronSaml.Deployment
import ApronSaml.Library.Deflate

/-!
# What a redirect URL keeps and carries

The query of the destination is read, extended and encoded again. Encoding loses nothing,
so the message parameters are found in the rebuilt URL whatever the destination carries;
but the reading drops the parameters without a value, so a destination keeps its query
exactly when it has none of these.
-/

namespace ApronSaml

open Raising TextEncoding Query

/-- The query of the rebuilt URL. -/
def redirectQuery (deflate : List UInt8 → List UInt8) (request : AuthnRequest) (parts : Url.SplitResult) : List Char :=
  urlencode (parseQsl false parts.query ++ request.params deflate)

section Split

variable {tables : Url.Tables} {request : AuthnRequest} {parts : Url.SplitResult}
  (hsplit : Url.urlsplit tables request.destination = .ok parts) (deflate : List UInt8 → List UInt8)
include hsplit

/-- The redirect URL is the destination with the new query. -/
theorem redirectUrl_eq : request.redirectUrl tables deflate =
    .ok (Url.urlunsplit { parts with query := redirectQuery deflate request parts }) := by
  rw [AuthnRequest.redirectUrl, urlsplit, hsplit]
  rfl

/-- The redirect URL is split into the parts of the destination, with the path as it is written, and a query
from which the kept pairs and the message parameters are read. -/
theorem urlsplit_redirectUrl :
    Url.urlsplit tables (Url.urlunsplit { parts with query := redirectQuery deflate request parts }) =
      .ok { parts with query := redirectQuery deflate request parts, path := parts.writtenPath } := by
  have hchars := forall_mem_urlencode (parseQsl false parts.query ++ request.params deflate)
  apply Url.urlsplit_urlunsplit_of_ok hsplit
  · exact urlencode_ne_nil (by simp [AuthnRequest.params])
  · intro c hc
    exact Url.isKept_of_holds (fun d => isQuotedChar d = true ∨ d = '&' ∨ d = '=') (by decide) (hchars c hc)
  · intro hmem
    exact absurd (hchars '#' hmem) (by decide)

end Split

/-- The pairs read from the query of the redirect URL. -/
theorem parseQsl_redirectQuery (deflate : List UInt8 → List UInt8) (request : AuthnRequest) (parts : Url.SplitResult) :
    parseQsl true (redirectQuery deflate request parts) = parseQsl false parts.query ++ request.params deflate :=
  parseQsl_urlencode _

/-- The redirect URL goes where the destination does, with the destination's own parameters in order, the request
and, exactly when there is one, the relay state. -/
def KeepsDestination (tables : Url.Tables) (deflate : List UInt8 → List UInt8) (request : AuthnRequest) : Prop :=
  ∃ url parts rebuilt, request.redirectUrl tables deflate = .ok url ∧
    Url.urlsplit tables request.destination = .ok parts ∧ Url.urlsplit tables url = .ok rebuilt ∧
    rebuilt.scheme = parts.scheme ∧ rebuilt.netloc = parts.netloc ∧ rebuilt.path = parts.path ∧
    rebuilt.fragment = parts.fragment ∧
    ∃ payload, parseQsl true rebuilt.query = parseQsl true parts.query ++
      ("SAMLRequest", payload) :: request.relayState.toList.map fun relayState => ("RelayState", relayState)

/-- Every parameter in the query of a URL has a value after an equals sign. -/
def EveryParameterHasValue (tables : Url.Tables) (url : String) : Prop :=
  ∀ parts, Url.urlsplit tables url = .ok parts → ∀ field ∈ parts.query.splitOn '&', field ≠ [] → HasValue field

/-- A web URL has an authority. -/
theorem netloc_ne_nil_of_requireWebUrl {tables : Url.Tables} {value notWeb userinfo : String} {parts : Url.SplitResult}
    (hweb : requireWebUrl tables value notWeb userinfo = .ok ()) (hsplit : Url.urlsplit tables value = .ok parts) :
    parts.netloc ≠ [] := by
  rw [requireWebUrl, urlparse, hsplit] at hweb
  simp only [Except.mapError, ok_bind, raiseIf_bind_ok_iff] at hweb
  intro hnil
  have hhost : parts.hasHostname = false := by
    rw [Url.SplitResult.hasHostname, Url.SplitResult.host, hnil]
    rfl
  exact hweb.1 (by simp [hhost])

/-- A web URL can be split. -/
theorem exists_urlsplit_of_requireWebUrl {tables : Url.Tables} {value notWeb userinfo : String}
    (hweb : requireWebUrl tables value notWeb userinfo = .ok ()) : ∃ parts, Url.urlsplit tables value = .ok parts := by
  cases hsplit : Url.urlsplit tables value with
  | ok parts => exact ⟨parts, rfl⟩
  | error e =>
    rw [requireWebUrl, urlparse, hsplit] at hweb
    contradiction

/-- A redirect URL keeps its destination exactly when reading the destination's query without blank values loses
nothing. -/
theorem keepsDestination_iff_of_split {tables : Url.Tables} {request : AuthnRequest} {parts : Url.SplitResult}
    (hsplit : Url.urlsplit tables request.destination = .ok parts) (hnetloc : parts.netloc ≠ [])
    (deflate : List UInt8 → List UInt8) :
    KeepsDestination tables deflate request ↔ parseQsl false parts.query = parseQsl true parts.query := by
  have hpath := (Url.wellSplit_of_urlsplit hsplit).writtenPath_of_netloc hnetloc
  constructor
  · intro h
    obtain ⟨url, parts', rebuilt, hurl, hparts, hrebuilt, _, _, _, _, payload, hpairs⟩ := h
    obtain rfl : parts = parts' := Except.ok.inj (hsplit.symm.trans hparts)
    obtain rfl := Except.ok.inj ((redirectUrl_eq hsplit deflate).symm.trans hurl)
    obtain rfl := Except.ok.inj ((urlsplit_redirectUrl hsplit deflate).symm.trans hrebuilt)
    rw [parseQsl_redirectQuery, AuthnRequest.params] at hpairs
    exact (List.append_inj' hpairs (by simp)).1
  · intro h
    refine ⟨_, parts, _, redirectUrl_eq hsplit deflate, hsplit, urlsplit_redirectUrl hsplit deflate, rfl, rfl, hpath,
      rfl, Base64.b64encode (deflate (utf8Encode request.xml)), ?_⟩
    rw [parseQsl_redirectQuery, h]
    rfl

/-- A redirect URL built for a destination that is a single sign-on URL keeps it exactly when every parameter of
the destination's query has a value. -/
theorem keepsDestination_iff {tables : Url.Tables} {request : AuthnRequest} {idp : IdPDescriptor tables}
    (hdestination : request.destination = idp.ssoUrl) (deflate : List UInt8 → List UInt8) :
    KeepsDestination tables deflate request ↔ EveryParameterHasValue tables request.destination := by
  have hweb := idp.ssoUrl_ok
  rw [← hdestination] at hweb
  obtain ⟨parts, hsplit⟩ := exists_urlsplit_of_requireWebUrl hweb
  rw [keepsDestination_iff_of_split hsplit (netloc_ne_nil_of_requireWebUrl hweb hsplit), parseQsl_false_eq_iff,
    EveryParameterHasValue]
  constructor
  · intro h parts' hparts
    obtain rfl : parts = parts' := Except.ok.inj (hsplit.symm.trans hparts)
    exact h
  · intro h
    exact h parts hsplit

/-- A compressor that knows one document: what zlib makes of it. -/
def demoDeflate (raw : List UInt8) : List UInt8 :=
  if raw = utf8Encode "<a/>" then [0xb3, 0x49, 0xd4, 0xb7, 0x03, 0x00] else []

/-- A single sign-on URL with a query and a fragment. -/
def queriedIdp : IdPDescriptor ⟨id, fun _ => false⟩ :=
  ⟨"https://idp.example.com/saml", "https://idp.example.com/sso?foo=bar&foo=b%C3%A4r+z#frag", [], by decide +kernel⟩

/-- A request to that URL, with a relay state full of delimiters. -/
def queriedRequest : AuthnRequest := ⟨"_id", "<a/>", queriedIdp.ssoUrl, some "a&b=c+d%é#"⟩

/-- The parts of its destination. -/
theorem urlsplit_queriedRequest :
    Url.urlsplit ⟨id, fun _ => false⟩ queriedRequest.destination = .ok ⟨"https".toList, "idp.example.com".toList,
      "/sso".toList, "foo=bar&foo=b%C3%A4r+z".toList, "frag".toList⟩ := by
  decide +kernel

/-- Its redirect URL keeps the destination. -/
theorem keepsDestination_iff_queried :
    KeepsDestination ⟨id, fun _ => false⟩ demoDeflate queriedRequest := by
  refine (keepsDestination_iff (show queriedRequest.destination = queriedIdp.ssoUrl from rfl) _).mpr ?_
  intro parts hparts
  obtain rfl := Except.ok.inj (urlsplit_queriedRequest.symm.trans hparts)
  unfold HasValue
  decide +kernel

/-- A single sign-on URL whose only parameter has no value. -/
def blankParameterIdp : IdPDescriptor ⟨id, fun _ => false⟩ :=
  ⟨"https://idp.example.com/saml", "https://idp.example.com/sso?foo=", [], by decide +kernel⟩

/-- A request to that URL. -/
def blankParameterRequest : AuthnRequest := ⟨"_id", "<a/>", blankParameterIdp.ssoUrl, none⟩

/-- Its redirect URL does not keep the destination. -/
theorem blank_parameter_is_lost :
    blankParameterRequest.destination = blankParameterIdp.ssoUrl ∧
      ∀ deflate, ¬ KeepsDestination ⟨id, fun _ => false⟩ deflate blankParameterRequest := by
  have hsplit : Url.urlsplit ⟨id, fun _ => false⟩ blankParameterRequest.destination = .ok ⟨"https".toList,
      "idp.example.com".toList, "/sso".toList, "foo=".toList, []⟩ := by
    decide +kernel
  refine ⟨rfl, fun deflate => ?_⟩
  rw [keepsDestination_iff_of_split hsplit (by decide)]
  decide +kernel

/-- The values of a name among pairs. -/
def valuesOf (name : String) (pairs : List (String × String)) : List String :=
  (pairs.filter fun pair => pair.1 = name).map Prod.snd

/-- Pairs of other names add no value. -/
theorem valuesOf_append_of_ne {name : String} {pairs : List (String × String)} (h : ∀ pair ∈ pairs, pair.1 ≠ name)
    (more : List (String × String)) : valuesOf name (pairs ++ more) = valuesOf name more := by
  have hnone : pairs.filter (fun pair => pair.1 = name) = [] := by simpa using h
  rw [valuesOf, List.filter_append, hnone, List.nil_append, valuesOf]

/-- The message parameters hold the payload once, and the relay state where there is one. -/
theorem valuesOf_params (deflate : List UInt8 → List UInt8) (request : AuthnRequest) :
    valuesOf "SAMLRequest" (request.params deflate) = [Base64.b64encode (deflate (utf8Encode request.xml))] ∧
      valuesOf "RelayState" (request.params deflate) = request.relayState.toList := by
  unfold AuthnRequest.params
  cases request.relayState with
  | none => exact ⟨rfl, rfl⟩
  | some relayState => exact ⟨rfl, rfl⟩

/-- Reading a query without blank values gives some of its pairs. -/
theorem mem_parseQsl_of_false {query : List Char} {pair : String × String} (h : pair ∈ parseQsl false query) :
    pair ∈ parseQsl true query := by
  obtain ⟨field, hfield, hpair⟩ := List.mem_filterMap.mp h
  obtain hnone | hsame := (parseField_false field).2
  · rw [hnone] at hpair
    contradiction
  · exact List.mem_filterMap.mpr ⟨field, hfield, hsame ▸ hpair⟩

/-- For a destination without message parameters of its own, the redirect URL carries the request once, in a form
that is read back, and the relay state exactly when there is one. -/
theorem redirectUrl_recoverable {tables : Url.Tables} {deflate : List UInt8 → List UInt8} {format : Inflate.Format}
    {request : AuthnRequest} {parts : Url.SplitResult}
    (hsplit : Url.urlsplit tables request.destination = .ok parts)
    (hown : ∀ pair ∈ parseQsl true parts.query, pair.1 ≠ "SAMLRequest" ∧ pair.1 ≠ "RelayState")
    (hdeflate : format (deflate (utf8Encode request.xml)) = some (utf8Encode request.xml, [])) :
    ∃ url rebuilt payload raw, request.redirectUrl tables deflate = .ok url ∧ Url.urlsplit tables url = .ok rebuilt ∧
      valuesOf "SAMLRequest" (parseQsl true rebuilt.query) = [payload] ∧
      Base64.b64decode (codePoints payload) = .ok raw ∧ format raw = some (utf8Encode request.xml, []) ∧
      valuesOf "RelayState" (parseQsl true rebuilt.query) = request.relayState.toList := by
  obtain ⟨hrequest, hrelay⟩ := valuesOf_params deflate request
  refine ⟨_, _, _, _, redirectUrl_eq hsplit deflate, urlsplit_redirectUrl hsplit deflate, ?_,
    Base64.b64decode_b64encode _, hdeflate, ?_⟩
  · rw [parseQsl_redirectQuery, valuesOf_append_of_ne fun pair hpair => (hown pair (mem_parseQsl_of_false hpair)).1]
    exact hrequest
  · rw [parseQsl_redirectQuery, valuesOf_append_of_ne fun pair hpair => (hown pair (mem_parseQsl_of_false hpair)).2]
    exact hrelay

/-- The redirect URL of the request carries its relay state. -/
theorem redirectUrl_recoverable_queried :
    ∃ url rebuilt, queriedRequest.redirectUrl ⟨id, fun _ => false⟩ demoDeflate = .ok url ∧
      Url.urlsplit ⟨id, fun _ => false⟩ url = .ok rebuilt ∧
      valuesOf "RelayState" (parseQsl true rebuilt.query) = ["a&b=c+d%é#"] := by
  have hdeflate : Deflate.inflate (demoDeflate (utf8Encode queriedRequest.xml)) =
      some (utf8Encode queriedRequest.xml, []) := by
    decide +kernel
  obtain ⟨url, rebuilt, _, _, hurl, hrebuilt, _, _, _, hrelay⟩ :=
    redirectUrl_recoverable urlsplit_queriedRequest (by decide +kernel) hdeflate
  exact ⟨url, rebuilt, hurl, hrebuilt, hrelay⟩

end ApronSaml
