import ApronSaml.AuthnRequest
import ApronSaml.Library.HtmlTokens

/-!
# How a POST form is read

The request, the destination and the relay state are interpolated into attribute values of
the form. Escaped text neither ends its attribute value nor is it changed when the value is
read, so the form always has the same tags and attributes, and its values are the ones that
were put in.
-/

namespace ApronSaml

open TextEncoding

/-- The script that submits the form. -/
def submitScript : String := "document.getElementById('saml-post-form').submit();"

/-- A hidden field, read as a tag. -/
def hiddenInput (name value : String) : Html.Token :=
  .startTag "input" [("type", "hidden"), ("name", name), ("value", value)] true

/-- The tokens of a form. -/
def formTokens (destination payload : String) (relayState : Option String) : List Html.Token :=
  .startTag "form" [("id", "saml-post-form"), ("method", "post"), ("action", destination)] false ::
    hiddenInput "SAMLRequest" payload :: (relayState.toList.map (hiddenInput "RelayState") ++
      [.startTag "input" [("type", "submit"), ("value", "Continue")] true, .endTag "form",
        .startTag "script" [] false] ++ submitScript.toList.map .character ++ [.endTag "script"])

/-- A token without its attribute values. -/
def shape : Html.Token → Html.Token
  | .startTag name attributes selfClosing => .startTag name (attributes.map fun entry => (entry.1, "")) selfClosing
  | token => token

section Reading

variable (references : Html.CharacterReferences)

set_option maxRecDepth 2000 in
/-- The form up to the value of its action. -/
theorem run_formOpening :
    Html.run references .data "<form id=\"saml-post-form\" method=\"post\" action=\"".toList =
      some (.attributeValue ⟨false, "form".toList, [("id", "saml-post-form"), ("method", "post")]⟩ "action".toList [],
        []) := by
  rfl

/-- The form behind its fields. -/
theorem run_formClosing :
    Html.run references .data ("<input type=\"submit\" value=\"Continue\"/>" ++ "</form>" ++ "<script>").toList =
      some (.script, [.startTag "input" [("type", "submit"), ("value", "Continue")] true, .endTag "form",
        .startTag "script" [] false]) := by
  rfl

/-- A hidden field whose name is read as it is written. -/
theorem run_hiddenField {name : String}
    (hname : Html.run references .data ("<input type=\"hidden\" name=\"" ++ name ++ "\" value=\"").toList =
      some (.attributeValue ⟨false, "input".toList, [("type", "hidden"), ("name", name)]⟩ "value".toList [], []))
    (value : String) :
    Html.run references .data (hiddenField name value).toList = some (.data, [hiddenInput name value]) := by
  have hfield (opening : String) : (opening ++ Html.escape value ++ "\"/>").toList =
      opening.toList ++ (((Html.escape value).toList ++ ['"']) ++ ['/', '>']) := by
    rw [String.toList_append, String.toList_append, List.append_assoc, List.append_assoc]
    rfl
  unfold hiddenField
  rw [hfield, Html.run_append_of_eq hname, Html.run_append_of_eq (Html.run_escape references _ _ value)]
  rfl

set_option maxRecDepth 2000 in
/-- The field that carries the request. -/
theorem run_requestField (payload : String) :
    Html.run references .data (hiddenField "SAMLRequest" payload).toList =
      some (.data, [hiddenInput "SAMLRequest" payload]) := by
  apply run_hiddenField
  rfl

set_option maxRecDepth 2000 in
/-- The field that carries a relay state. -/
theorem run_relayStateField (relayState : String) :
    Html.run references .data (hiddenField "RelayState" relayState).toList =
      some (.data, [hiddenInput "RelayState" relayState]) := by
  apply run_hiddenField
  rfl

/-- The fields of the form. -/
theorem run_fields (payload : String) (relayState : Option String) :
    Html.run references .data
        (String.join (hiddenField "SAMLRequest" payload :: relayState.toList.map (hiddenField "RelayState"))).toList =
      some (.data, hiddenInput "SAMLRequest" payload :: relayState.toList.map (hiddenInput "RelayState")) := by
  rw [String.join_cons, String.toList_append, Html.run_append_of_eq (run_requestField references payload)]
  cases relayState with
  | none => rfl
  | some relayState =>
    rw [Option.toList_some, List.map_singleton, String.join_cons, String.toList_append,
      Html.run_append_of_eq (run_relayStateField references relayState)]
    rfl

/-- The script and its end. -/
theorem run_submitScript :
    Html.run references .script (submitScript ++ "</script>").toList =
      some (.data, submitScript.toList.map .character ++ [.endTag "script"]) := by
  rw [String.toList_append, Html.run_append_of_eq (Html.run_script references (by decide +kernel))]
  rfl

/-- The action of the form, and the end of its tag. -/
theorem run_action (destination : String) :
    Html.run references
        (.attributeValue ⟨false, "form".toList, [("id", "saml-post-form"), ("method", "post")]⟩ "action".toList [])
        ((Html.escape destination).toList ++ ['"'] ++ ['>']) =
      some (.data, [.startTag "form" [("id", "saml-post-form"), ("method", "post"), ("action", destination)] false]) := by
  rw [Html.run_append_of_eq (Html.run_escape references _ _ destination)]
  rfl

/-- The whole form is read as its tokens. -/
theorem tokenize_postForm (request : AuthnRequest) :
    Html.tokenize references request.postForm = some (formTokens request.destination
      (Base64.b64encode (utf8Encode request.xml)) request.relayState) := by
  have hform (opening action fields submit closing tag rest : String) :
      (opening ++ action ++ "\">" ++ fields ++ submit ++ closing ++ (tag ++ rest)).toList =
        opening.toList ++ ((action.toList ++ ['"'] ++ ['>']) ++
          (fields.toList ++ ((submit ++ closing ++ tag).toList ++ rest.toList))) := by
    simp only [String.toList_append, List.append_assoc]
    rfl
  have hscript : "<script>document.getElementById('saml-post-form').submit();</script>" =
      "<script>" ++ (submitScript ++ "</script>") := by
    decide +kernel
  have hrun : Html.run references .data request.postForm.toList = some (.data, formTokens request.destination
      (Base64.b64encode (utf8Encode request.xml)) request.relayState) := by
    unfold AuthnRequest.postForm
    rw [hscript, hform, Html.run_append_of_eq (run_formOpening references),
      Html.run_append_of_eq (run_action references request.destination),
      Html.run_append_of_eq (run_fields references _ request.relayState),
      Html.run_append_of_eq (run_formClosing references), run_submitScript]
    simp [formTokens]
  rw [Html.tokenize, hrun]

end Reading

/-- The shape of the tokens of a form depends on nothing but whether there is a relay state. -/
theorem shape_formTokens {destination destination' payload payload' : String} {relayState relayState' : Option String}
    (h : relayState' = none ↔ relayState = none) :
    (formTokens destination' payload' relayState').map shape = (formTokens destination payload relayState).map shape := by
  cases relayState with
  | none =>
    rw [h.mpr rfl]
    rfl
  | some value =>
    cases relayState' with
    | none => exact absurd (h.mp rfl) (by simp)
    | some value' => rfl

/-- A form is read as its fixed sequence of tags, with the destination, a payload that decodes to the request, and
the relay state as their values; the tags and the names of their attributes depend on nothing but whether there is
a relay state. -/
theorem postForm_recoverable (references : Html.CharacterReferences) (request : AuthnRequest) :
    (∃ payload, Html.tokenize references request.postForm =
        some (formTokens request.destination payload request.relayState) ∧
      Base64.b64decode (codePoints payload) = .ok (utf8Encode request.xml)) ∧
    ∀ request' : AuthnRequest, (request'.relayState = none ↔ request.relayState = none) →
      (Html.tokenize references request'.postForm).map (List.map shape) =
        (Html.tokenize references request.postForm).map (List.map shape) := by
  constructor
  · exact ⟨_, tokenize_postForm references request, Base64.b64decode_b64encode _⟩
  · intro request' h
    rw [tokenize_postForm, tokenize_postForm, Option.map_some, Option.map_some, shape_formTokens h]

/-- A small table of named references, some of which may lack their semicolon. -/
def basicTable : List (List Char × List Char) :=
  [("amp;".toList, ['&']), ("amp".toList, ['&']), ("lt;".toList, ['<']), ("lt".toList, ['<']), ("gt;".toList, ['>']),
    ("gt".toList, ['>']), ("quot;".toList, ['"']), ("quot".toList, ['"']), ("apos;".toList, ['\x27'])]

/-- The small table as character references. -/
def basicReferences : Html.CharacterReferences where
  expansion name := basicTable.lookup name
  terminated := by
    intro name after hsome
    have hlast : ∀ entry ∈ basicTable, entry.1.length ≤ entry.1.idxOf ';' + 1 := by decide
    rw [ne_eq, List.lookup_eq_none_iff, not_forall] at hsome
    obtain ⟨entry, hentry⟩ := hsome
    rw [not_forall, Bool.not_eq_true, bne_eq_false_iff_eq] at hentry
    obtain ⟨hmem, hname⟩ := hentry
    have hlength := hlast entry hmem
    have hindex : (name ++ ';' :: after).idxOf ';' ≤ name.length := by
      rw [List.idxOf_append]
      split
      · exact List.idxOf_le_length
      · rw [List.idxOf_cons_self, Nat.zero_add]
    rw [← hname, List.length_append, List.length_cons] at hlength
    exact List.eq_nil_of_length_eq_zero (by omega)
  amp := by decide
  lt := by decide
  gt := by decide
  quot := by decide

/-- A relay state made to break out of its attribute, and to be decoded twice, is read as it is. -/
theorem postForm_recoverable_hostile :
    ∃ payload, Html.tokenize basicReferences
        (AuthnRequest.mk "_id" "<a/>" "https://idp.example.com/sso" (some "\"><script>&amp;quot;")).postForm =
      some (formTokens "https://idp.example.com/sso" payload (some "\"><script>&amp;quot;")) := by
  obtain ⟨payload, hform, _⟩ := (postForm_recoverable basicReferences _).1
  exact ⟨payload, hform⟩

end ApronSaml
