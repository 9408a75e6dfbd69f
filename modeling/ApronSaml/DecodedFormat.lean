import ApronSaml.Deployment

/-!
# The transport format of a Response

What `decode_response` accepts, stated without its control flow: blanks aside, the input is
strict base64 of the UTF-8 bytes of a text that opens with markup, or else of one complete
DEFLATE stream that expands within the bound to UTF-8 bytes. Everything else is a malformed
response, and nothing beyond the bound is ever inflated.
-/

namespace ApronSaml

open Raising Whitespace TextEncoding

/-- After prologue characters the text opens with markup. -/
def OpensWithMarkup (text : String) : Prop :=
  ∃ before after, text.toList = before ++ '<' :: after ∧ ∀ c ∈ before, c ∈ xmlPrologue

/-- The bytes of a POST payload: the text in UTF-8, opening with markup. -/
def PostPayload (raw : List UInt8) (text : String) : Prop := utf8Encode text = raw ∧ OpensWithMarkup text

/-- The bytes of a Redirect payload: no POST payload, but one whole compressed stream that expands within
the bound to the text in UTF-8. -/
def RedirectPayload (format : Inflate.Format) (raw : List UInt8) (text : String) : Prop :=
  (¬ ∃ posted, PostPayload raw posted) ∧
    format raw = some (utf8Encode text, []) ∧ (utf8Encode text).length ≤ maxInflatedBytes

/-- The bytes an input stands for: the strict base64 decoding of what is not blank in it. -/
def transportBytes (samlResponseB64 : List CodePoint) : Option (List UInt8) :=
  (Base64.b64decode (samlResponseB64.filter fun c => !blankCode c)).toOption

/-- The code's test for markup is the stated one. -/
theorem looksLikeXml_iff {text : String} : looksLikeXml text = true ↔ OpensWithMarkup text := by
  rw [looksLikeXml, beq_iff_eq, OpensWithMarkup]
  constructor
  · intro h
    obtain ⟨after, hafter⟩ := List.head?_eq_some_iff.mp h
    refine ⟨text.toList.takeWhile xmlPrologue.contains, after, ?_, fun c hc => ?_⟩
    · rw [← hafter, List.takeWhile_append_dropWhile]
    · simpa using List.mem_takeWhile_imp hc
  · intro h
    obtain ⟨before, after, htext, hbefore⟩ := h
    rw [htext, List.dropWhile_append_of_pos (by simpa using hbefore)]
    rfl

/-- The text the first attempt at decoding yields: the bytes as UTF-8, or nothing. -/
theorem recover_decodeUtf8 (raw : List UInt8) :
    recover (fun e => e == .unicodeDecodeError) "" (decodeUtf8 raw) = .ok ((utf8Decode raw).getD "") := by
  unfold decodeUtf8
  cases utf8Decode raw <;> rfl

/-- Bytes that open with markup as UTF-8 are the POST payload of that text alone. -/
theorem postPayload_iff {raw : List UInt8} {text : String} :
    PostPayload raw text ↔ looksLikeXml ((utf8Decode raw).getD "") = true ∧ (utf8Decode raw).getD "" = text := by
  rw [PostPayload, ← looksLikeXml_iff, ← utf8Decode_eq_some_iff]
  constructor
  · intro h
    obtain ⟨hdecode, hmarkup⟩ := h
    rw [hdecode]
    exact ⟨hmarkup, rfl⟩
  · intro h
    obtain ⟨hmarkup, rfl⟩ := h
    cases hdecode : utf8Decode raw with
    | none =>
      rw [hdecode] at hmarkup
      exact absurd hmarkup (by decide)
    | some text => exact ⟨rfl, by simpa [hdecode] using hmarkup⟩

section Payload

variable {env : Environment} {format : Inflate.Format}
  (hinflate : Inflate.Contract format (fun e => e = .zlibError) env.decompress)
include hinflate

/-- Inflating accepts exactly one whole stream that expands within the bound to UTF-8 bytes. -/
theorem inflatePayload_ok_iff {raw : List UInt8} {text : String} :
    inflatePayload env raw = .ok text ↔
      format raw = some (utf8Encode text, []) ∧ (utf8Encode text).length ≤ maxInflatedBytes := by
  rw [← hinflate.whole_iff]
  simp only [inflatePayload, bind_ok_iff, reraise_ok_iff, raiseIf_ok_iff, not_or, not_not, Bool.not_eq_false]
  constructor
  · intro h
    obtain ⟨⟨data, eof, unused, tail⟩, hrun, _, htail, _, ⟨heof, hunused⟩, hdecode⟩ := h
    simp only at htail heof hunused hdecode
    subst htail heof hunused
    have hbytes : utf8Encode text = data := by
      unfold decodeUtf8 at hdecode
      cases hsome : utf8Decode data with
      | none => simp [hsome] at hdecode
      | some text' =>
        rw [hsome, Except.ok.injEq] at hdecode
        exact hdecode ▸ utf8Decode_eq_some_iff.mp hsome
    rw [hbytes, hrun]
  · intro hrun
    refine ⟨_, hrun, (), rfl, (), ⟨rfl, rfl⟩, ?_⟩
    rw [decodeUtf8, utf8Decode_utf8Encode]

/-- A payload is accepted exactly as a POST payload, or as a Redirect payload. -/
theorem decodePayload_ok_iff {raw : List UInt8} {text : String} :
    decodePayload env raw = .ok text ↔ PostPayload raw text ∨ RedirectPayload format raw text := by
  rw [decodePayload, recover_decodeUtf8, ok_bind, RedirectPayload, ← inflatePayload_ok_iff hinflate]
  simp only [postPayload_iff]
  by_cases hmarkup : looksLikeXml ((utf8Decode raw).getD "") = true <;> simp [hmarkup]

end Payload

/-- A blank input is one without other characters. -/
theorem stripBlanks_ne_nil_iff {samlResponseB64 : List CodePoint} :
    stripBlanks blankCode samlResponseB64 ≠ [] ↔ ∃ c ∈ samlResponseB64, blankCode c = false := by
  simp [stripBlanks_eq_nil_iff]

/-- The bytes of an input are what base64 decoding returns for its joined words. -/
theorem b64decode_ok_iff {samlResponseB64 : List CodePoint} {raw : List UInt8} :
    b64decode (splitBlanks blankCode samlResponseB64).flatten = .ok raw ↔
      transportBytes samlResponseB64 = some raw := by
  rw [flatten_splitBlanks, b64decode, transportBytes]
  cases Base64.b64decode (samlResponseB64.filter fun c => !blankCode c) <;> simp [Except.mapError, Except.toOption]

/-- Base64 decoding raises only what counts as a `ValueError`. -/
theorem b64decode_raisesOnly (text : List CodePoint) :
    RaisesOnly (fun e => e.isValueError = true) (b64decode text) := by
  intro e h
  rw [b64decode] at h
  cases hdecode : Base64.b64decode text with
  | ok raw => simp [hdecode, Except.mapError] at h
  | error failure =>
    cases failure <;> simp only [hdecode, Except.mapError, Except.error.injEq] at h <;> subst h <;> rfl

/-- A refused payload is a malformed response. -/
theorem decodePayload_raisesOnly {env : Environment}
    (hinflate : ∀ raw cap, RaisesOnly (fun e => e = .zlibError) (env.decompress raw cap)) (raw : List UInt8) :
    RaisesOnly (fun e => ∃ message, e = .malformedResponse message) (decodePayload env raw) := by
  rw [decodePayload, recover_decodeUtf8, ok_bind]
  split
  · exact RaisesOnly.ok _
  refine RaisesOnly.bind (RaisesOnly.reraise (hinflate raw maxInflatedBytes) ?_) fun inflated _ => ?_
  · rintro _ rfl
    exact ⟨_, rfl⟩
  refine RaisesOnly.bind (RaisesOnly.raiseIf ⟨_, rfl⟩) fun _ _ => ?_
  refine RaisesOnly.bind (RaisesOnly.raiseIf ⟨_, rfl⟩) fun _ _ => ?_
  refine RaisesOnly.reraise (Q := fun e => e = .unicodeDecodeError) ?_ ?_
  · unfold decodeUtf8
    split
    · exact RaisesOnly.ok _
    · exact RaisesOnly.error rfl
  · rintro _ rfl
    exact ⟨_, rfl⟩

/-- A refused input is a malformed response. -/
theorem decodeResponse_raisesOnly {env : Environment}
    (hinflate : ∀ raw cap, RaisesOnly (fun e => e = .zlibError) (env.decompress raw cap))
    (samlResponseB64 : List CodePoint) :
    RaisesOnly (fun e => ∃ message, e = .malformedResponse message) (decodeResponse env samlResponseB64) := by
  refine RaisesOnly.bind (RaisesOnly.raiseIf ⟨_, rfl⟩) fun _ _ => ?_
  refine RaisesOnly.bind (RaisesOnly.reraise (b64decode_raisesOnly _) fun e he => ?_) fun raw _ => ?_
  · exact ⟨"SAML Response is not valid base64", by simp [he]⟩
  · exact decodePayload_raisesOnly hinflate raw

/-- Decoding accepts exactly the two transport formats, raises nothing but a malformed response, and asks
the inflater for nothing beyond the bound. -/
theorem decodeResponse_exact {env : Environment} {format : Inflate.Format}
    (hinflate : Inflate.Contract format (fun e => e = .zlibError) env.decompress)
    (samlResponseB64 : List CodePoint) :
    (∀ text, decodeResponse env samlResponseB64 = .ok text ↔
      (∃ c ∈ samlResponseB64, blankCode c = false) ∧ ∃ raw, transportBytes samlResponseB64 = some raw ∧
        (PostPayload raw text ∨ RedirectPayload format raw text)) ∧
    (∀ e, decodeResponse env samlResponseB64 = .error e → ∃ message, e = .malformedResponse message) ∧
    (∀ raw inflated, env.decompress raw maxInflatedBytes = .ok inflated → inflated.data.length ≤ maxInflatedBytes) ∧
    (∀ env' : Environment, (∀ raw, env'.decompress raw maxInflatedBytes = env.decompress raw maxInflatedBytes) →
      decodeResponse env' samlResponseB64 = decodeResponse env samlResponseB64) := by
  refine ⟨fun text => ?_, decodeResponse_raisesOnly hinflate.raises samlResponseB64,
    fun raw inflated => hinflate.bounded raw maxInflatedBytes inflated, fun env' hcap => ?_⟩
  · rw [decodeResponse, raiseIf_bind_ok_iff]
    simp only [bind_ok_iff, reraise_ok_iff, b64decode_ok_iff, decodePayload_ok_iff hinflate]
    exact and_congr_left' stripBlanks_ne_nil_iff
  · simp only [decodeResponse, decodePayload, inflatePayload, hcap]

/-- The format of streams that consist of one final stored block. -/
def storedStream : Inflate.Format
  | 1 :: low :: high :: lowComplement :: highComplement :: rest =>
    let length := low.toNat + 256 * high.toNat
    if low.toNat + lowComplement.toNat = 255 ∧ high.toNat + highComplement.toNat = 255 ∧ length ≤ rest.length then
      some (rest.take length, rest.drop length)
    else none
  | _ => none

/-- A stored stream of a four-character document, with a blank in its base64, is decoded to the document. -/
theorem decodeResponse_exact_stored :
    decodeResponse (tableEnvironment [] [] [] storedStream) (codePoints "AQQA+/88 YS8+") = .ok "<a/>" := by
  have hinflate : Inflate.Contract storedStream (fun e => e = .zlibError)
      (tableEnvironment [] [] [] storedStream).decompress := Inflate.ofFormat_contract storedStream rfl
  refine ((decodeResponse_exact hinflate _).1 _).mpr ⟨stripBlanks_ne_nil_iff.mp (by decide +kernel),
    [1, 4, 0, 0xfb, 0xff, 0x3c, 0x61, 0x2f, 0x3e], by decide +kernel, Or.inr ⟨?_, ?_, ?_⟩⟩
  · simp only [postPayload_iff, not_exists, not_and]
    exact fun _ hmarkup => absurd hmarkup (by decide +kernel)
  · decide +kernel
  · decide +kernel

end ApronSaml
