import ApronSaml.Deployment

/-!
# Two readings of one document

The application's parser reads the characters of the response text. The signature backend
reads the UTF-8 bytes of the same text under the encoding its XML declaration names. Among
UTF-8, US-ASCII and ISO-8859-1 the two readings are the same text exactly when UTF-8 is in
force or every character is ASCII; an accepted document need not be of either kind.
-/

namespace ApronSaml

open TextEncoding ElementTree

/-- The characters the signature backend's parser reads from the text it is handed. -/
def backendReading (parsed : ParsedResponse) : Option String :=
  (documentEncoding parsed.responseXml).bind fun encoding => decode encoding (utf8Encode parsed.responseXml)

/-- The backend reads the text it is handed exactly when the text is in UTF-8 or ASCII. -/
theorem backendReading_eq_iff {parsed : ParsedResponse} {encoding : Encoding}
    (hencoding : documentEncoding parsed.responseXml = some encoding) :
    backendReading parsed = some parsed.responseXml ↔ encoding = .utf8 ∨ IsAscii parsed.responseXml := by
  rw [backendReading, hencoding, Option.bind_some]
  exact decode_utf8Encode_iff encoding parsed.responseXml

/-- An issuer name outside ASCII. -/
def accentedIssuer : String := "Universit\u00e9"

/-- A Response whose XML declaration names ISO-8859-1 and whose issuer is not ASCII. -/
def latin1ResponseXml : String :=
  "<?xml version=\"1.0\" encoding=\"ISO-8859-1\"?>" ++ demoResponseXml accentedIssuer

/-- The environment of the ISO-8859-1 Response. -/
def latin1Environment : Environment :=
  singleDocument latin1ResponseXml (minimalResponse (some "r1") (demoAssertion accentedIssuer))

/-- The ISO-8859-1 Response as it is parsed. -/
def latin1Parsed : ParsedResponse := minimalParsed latin1ResponseXml (some "r1") (demoAssertion accentedIssuer)

/-- A document that opens with this XML declaration is declared in ISO-8859-1, whatever follows. -/
theorem documentEncoding_latin1 (rest : String) :
    documentEncoding ("<?xml version=\"1.0\" encoding=\"ISO-8859-1\"?>" ++ rest) = some .latin1 := by
  rw [documentEncoding, declaredEncoding, String.toList_append]
  generalize rest.toList = following
  rfl

/-- The ISO-8859-1 Response is not ASCII. -/
theorem not_isAscii_latin1ResponseXml : ¬ IsAscii latin1ResponseXml := by
  intro h
  have hissuer : IsAscii accentedIssuer := (isAscii_append.mp (isAscii_append.mp (isAscii_append.mp h).2).2).1
  exact absurd hissuer (by decide +kernel)

/-- The ISO-8859-1 Response is accepted. -/
theorem parseResponse_latin1 : parseResponse latin1Environment latin1ResponseXml = .ok latin1Parsed :=
  parseResponse_minimalResponse rfl (parseSafeXml_singleDocument _ _ true)

/-- An accepted response is built from the characters of its text, and the backend reads the same
characters exactly when the document is in UTF-8 or consists of ASCII characters. -/
theorem readings_agree_iff {env : Environment} {responseXml : String} {parsed : ParsedResponse}
    {encoding : Encoding} (haccept : parseResponse env responseXml = .ok parsed)
    (hencoding : documentEncoding responseXml = some encoding) :
    env.parseSafeXml true responseXml = .ok parsed.root ∧
      (backendReading parsed = some responseXml ↔ encoding = .utf8 ∨ IsAscii responseXml) := by
  obtain ⟨rfl, hroot, _⟩ := parseResponse_ok_iff.mp haccept
  exact ⟨hroot, backendReading_eq_iff hencoding⟩

/-- For the ISO-8859-1 Response the condition fails, and so does the agreement. -/
theorem readings_agree_iff_latin1 :
    backendReading latin1Parsed = some latin1ResponseXml ↔ Encoding.latin1 = .utf8 ∨ IsAscii latin1ResponseXml :=
  (readings_agree_iff parseResponse_latin1 (documentEncoding_latin1 _)).2

/-- The ISO-8859-1 Response is accepted, and the backend does not read the text it was parsed from. -/
theorem readings_disagree_latin1 :
    parseResponse latin1Environment latin1ResponseXml = .ok latin1Parsed ∧
      documentEncoding latin1ResponseXml = some .latin1 ∧ backendReading latin1Parsed ≠ some latin1ResponseXml := by
  refine ⟨parseResponse_latin1, documentEncoding_latin1 _, fun hread => ?_⟩
  have hencoding : documentEncoding latin1Parsed.responseXml = some .latin1 := documentEncoding_latin1 _
  have hcondition := (backendReading_eq_iff hencoding).mp hread
  exact hcondition.elim (by decide) not_isAscii_latin1ResponseXml

end ApronSaml
