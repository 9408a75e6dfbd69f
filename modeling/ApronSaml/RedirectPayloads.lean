import ApronSaml.DecodedFormat
import ApronSaml.Library.Deflate

/-!
# Telling Redirect payloads from POST payloads

The binding is inferred from the decoded bytes, and a compressed stream can itself be UTF-8
text that opens with markup: a stored block leaves padding bits in its header free, and a
suitable length field reads as text. Such a stream is returned as the text it is. Every
other stream, and every POST payload, is decoded to its document.
-/

namespace ApronSaml

open Raising Whitespace TextEncoding Base64

/-- The input is the base64 encoding of the bytes, with blanks anywhere in it. -/
def Carries (samlResponseB64 : List CodePoint) (raw : List UInt8) : Prop :=
  samlResponseB64.filter (fun c => !blankCode c) = codePoints (b64encode raw)

/-- A document as it is posted, in base64. -/
def posted (document : String) : List CodePoint := codePoints (b64encode (utf8Encode document))

/-- An input stands for the bytes it carries. -/
theorem Carries.transportBytes {samlResponseB64 : List CodePoint} {raw : List UInt8}
    (h : Carries samlResponseB64 raw) : transportBytes samlResponseB64 = some raw := by
  rw [ApronSaml.transportBytes, h, b64decode_b64encode]
  rfl

/-- Bytes leave something in the input that is not blank. -/
theorem Carries.exists_not_blank {samlResponseB64 : List CodePoint} {raw : List UInt8}
    (h : Carries samlResponseB64 raw) (hraw : raw ≠ []) : ∃ c ∈ samlResponseB64, blankCode c = false := by
  have hchars : codePoints (b64encode raw) ≠ [] := by
    intro hnil
    have hdecode := b64decode_b64encode raw
    rw [hnil] at hdecode
    exact hraw (Except.ok.inj hdecode).symm
  rw [← h] at hchars
  obtain ⟨c, hc⟩ := List.exists_mem_of_ne_nil _ hchars
  exact ⟨c, (List.mem_filter.mp hc).1, by simpa using (List.mem_filter.mp hc).2⟩

/-- An encoding carries its bytes. -/
theorem carries_b64encode (raw : List UInt8) : Carries (codePoints (b64encode raw)) raw := by
  rw [Carries, List.filter_eq_self, codePoints, b64encode, String.toList_ofList]
  intro code hcode
  obtain ⟨c, hc, rfl⟩ := List.mem_map.mp hcode
  have hdigit : ∀ bits < 64, isSpaceCode (digit bits).toNat = false := by decide +kernel
  have hblank : isSpaceCode c.toNat = false :=
    forall_mem_encode (P := fun c => isSpaceCode c.toNat = false) hdigit (by decide) raw c hc
  simp [blankCode, hblank]

/-- A text has the bytes of at most one POST payload. -/
theorem PostPayload.unique {raw : List UInt8} {text text' : String} (h : PostPayload raw text)
    (h' : PostPayload raw text') : text = text' :=
  Option.some_injective _ ((utf8Decode_eq_some_iff.mpr h.1).symm.trans (utf8Decode_eq_some_iff.mpr h'.1))

/-- A text that opens with markup does so however it goes on. -/
theorem OpensWithMarkup.append {text : String} (h : OpensWithMarkup text) (more : String) :
    OpensWithMarkup (text ++ more) := by
  obtain ⟨before, after, htext, hbefore⟩ := h
  exact ⟨before, after ++ more.toList, by rw [String.toList_append, htext, List.append_assoc, List.cons_append], hbefore⟩

/-- A text that opens with markup has some bytes. -/
theorem OpensWithMarkup.utf8Encode_ne_nil {text : String} (h : OpensWithMarkup text) : utf8Encode text ≠ [] := by
  intro hnil
  obtain ⟨before, after, htext, _⟩ := h
  have hlength := length_le_flatMap text.toList
  rw [← utf8Encode_eq, hnil, htext, List.length_append, List.length_cons] at hlength
  simp at hlength

section Decoding

variable {env : Environment} (hinflate : Inflate.Contract Deflate.inflate (fun e => e = .zlibError) env.decompress)
  {samlResponseB64 : List CodePoint} {raw : List UInt8}
include hinflate

/-- What an input is decoded to, from the bytes it carries. -/
theorem decodeResponse_ok_iff_of_carries (hcarries : Carries samlResponseB64 raw) (hraw : raw ≠ []) {text : String} :
    decodeResponse env samlResponseB64 = .ok text ↔
      PostPayload raw text ∨ RedirectPayload Deflate.inflate raw text := by
  rw [(decodeResponse_exact hinflate samlResponseB64).1 text, hcarries.transportBytes]
  constructor
  · intro h
    obtain ⟨_, other, hother, htext⟩ := h
    exact Option.some_injective _ hother ▸ htext
  · intro h
    exact ⟨hcarries.exists_not_blank hraw, raw, rfl, h⟩

/-- A document that is posted as it is, in base64, is decoded to itself. -/
theorem decodeResponse_posted {document : String} (hmarkup : OpensWithMarkup document) :
    decodeResponse env (posted document) = .ok document :=
  (decodeResponse_ok_iff_of_carries hinflate (carries_b64encode _) hmarkup.utf8Encode_ne_nil).mpr
    (Or.inl ⟨rfl, hmarkup⟩)

/-- Decoding reverses the POST encoding of every document. It reverses the Redirect encoding, by whatever
compressor, exactly when the stream is no POST payload of another text, and otherwise returns that text. -/
theorem decodeResponse_reverses_encodings {document : String} (hmarkup : OpensWithMarkup document) :
    (∀ samlResponseB64, Carries samlResponseB64 (utf8Encode document) →
      decodeResponse env samlResponseB64 = .ok document) ∧
    ((utf8Encode document).length ≤ maxInflatedBytes →
      ∀ stream, Deflate.inflate stream = some (utf8Encode document, []) →
        ∀ samlResponseB64, Carries samlResponseB64 stream →
          (decodeResponse env samlResponseB64 = .ok document ↔ ∀ text, PostPayload stream text → text = document) ∧
          ∀ text, PostPayload stream text → decodeResponse env samlResponseB64 = .ok text) := by
  constructor
  · intro samlResponseB64 hcarries
    exact (decodeResponse_ok_iff_of_carries hinflate hcarries hmarkup.utf8Encode_ne_nil).mpr (Or.inl ⟨rfl, hmarkup⟩)
  · intro hbound stream hstream samlResponseB64 hcarries
    have hne : stream ≠ [] := by
      intro hnil
      rw [hnil] at hstream
      exact absurd hstream (by simp [Deflate.inflate, Deflate.bitsOf, Deflate.blocks])
    have hdecode (text : String) : decodeResponse env samlResponseB64 = .ok text ↔
        PostPayload stream text ∨ RedirectPayload Deflate.inflate stream text :=
      decodeResponse_ok_iff_of_carries hinflate hcarries hne
    refine ⟨?_, fun text htext => (hdecode text).mpr (Or.inl htext)⟩
    rw [hdecode]
    constructor
    · intro h text htext
      obtain hposted | ⟨hnone, _⟩ := h
      · exact htext.unique hposted
      · exact absurd ⟨text, htext⟩ hnone
    · intro h
      by_cases hposted : ∃ text, PostPayload stream text
      · obtain ⟨text, htext⟩ := hposted
        exact Or.inl (h text htext ▸ htext)
      · exact Or.inr ⟨hposted, hstream, hbound⟩

end Decoding

/-- What zlib makes of a small document, with a blank in its base64, is decoded to the document. -/
theorem decodeResponse_reverses_encodings_demo :
    decodeResponse (tableEnvironment [] [] [] Deflate.inflate) (codePoints "s0nU twMA") = .ok "<a/>" := by
  have hinflate : Inflate.Contract Deflate.inflate (fun e => e = .zlibError)
      (tableEnvironment [] [] [] Deflate.inflate).decompress := Inflate.ofFormat_contract Deflate.inflate rfl
  have hcarries : Carries (codePoints "s0nU twMA") [0xb3, 0x49, 0xd4, 0xb7, 0x03, 0x00] := by
    unfold Carries
    decide +kernel
  have hnone : utf8Decode [0xb3, 0x49, 0xd4, 0xb7, 0x03, 0x00] = none := by decide +kernel
  refine (((decodeResponse_reverses_encodings hinflate ⟨[], ['a', '/', '>'], rfl, by simp⟩).2 (by decide +kernel)
    _ (by decide +kernel) _ hcarries).1).mpr fun text htext => ?_
  rw [PostPayload, ← utf8Decode_eq_some_iff, hnone] at htext
  exact absurd htext.1 (Option.some_ne_none text).symm

/-- A document with the given number of characters between its tags. -/
def paddedDocument (n : ℕ) : String := String.ofList ("<a>".toList ++ List.replicate n 'x' ++ "</a>".toList)

/-- A stream for documents of 16444 bytes: a stored block, with a bit set in the padding of its header and a length
that reads `<@`, and an empty last block. -/
def misreadStream (document : String) : List UInt8 :=
  0x20 :: 0x3c :: 0x40 :: 0xc3 :: 0xbf :: (utf8Encode document ++ [0x03, 0x00])

/-- The text the stream reads as. -/
def misreadText (document : String) : String := " <@ÿ" ++ document ++ "\x03\x00"

/-- The bytes of a padded document. -/
theorem length_utf8Encode_paddedDocument (n : ℕ) : (utf8Encode (paddedDocument n)).length = n + 7 := by
  have hbyte : String.utf8EncodeChar 'x' = [0x78] := by decide
  have hopening : ("<a>".toList.flatMap String.utf8EncodeChar).length = 3 := by decide
  have hclosing : ("</a>".toList.flatMap String.utf8EncodeChar).length = 4 := by decide
  unfold paddedDocument
  rw [utf8Encode_eq, String.toList_ofList, List.flatMap_append, List.flatMap_append,
    List.length_append, List.length_append, hopening, hclosing, List.flatMap_replicate, hbyte, List.length_flatten,
    List.map_replicate, List.sum_replicate_nat, List.length_singleton]
  omega

/-- A padded document opens with markup. -/
theorem opensWithMarkup_paddedDocument (n : ℕ) : OpensWithMarkup (paddedDocument n) := by
  refine ⟨[], 'a' :: '>' :: (List.replicate n 'x' ++ "</a>".toList), ?_, by simp⟩
  unfold paddedDocument
  rw [String.toList_ofList, List.append_assoc]
  rfl

/-- The stream is a text that opens with markup after a space. -/
theorem postPayload_misreadStream (document : String) :
    PostPayload (misreadStream document) (misreadText document) := by
  have htext : (misreadText document).toList = ' ' :: '<' :: '@' :: 'ÿ' :: (document.toList ++ ['\x03', '\x00']) := by
    rw [misreadText, String.toList_append, String.toList_append]
    rfl
  constructor
  · rw [utf8Encode_eq, htext, misreadStream, utf8Encode_eq]
    simp only [List.flatMap_cons, List.flatMap_append]
    rfl
  · refine ⟨[' '], '@' :: 'ÿ' :: (document.toList ++ ['\x03', '\x00']), htext, ?_⟩
    rw [List.forall_mem_singleton, xmlPrologue]
    simp

/-- The text is another one. -/
theorem misreadText_ne (document : String) : misreadText document ≠ document := by
  intro h
  have hbytes := (postPayload_misreadStream document).1
  rw [h] at hbytes
  have hlength := congrArg List.length hbytes
  simp only [misreadStream, List.length_cons, List.length_append] at hlength
  omega

/-- The stream of a document with the right number of bytes is a complete one, and is not decoded to it. -/
theorem decodeResponse_misreadStream {document : String} (hlength : (utf8Encode document).length = 16444)
    {env : Environment} (hinflate : Inflate.Contract Deflate.inflate (fun e => e = .zlibError) env.decompress) :
    Deflate.inflate (misreadStream document) = some (utf8Encode document, []) ∧
      decodeResponse env (codePoints (b64encode (misreadStream document))) = .ok (misreadText document) := by
  constructor
  · exact Deflate.inflate_stored rfl hlength rfl rfl
  · apply (decodeResponse_ok_iff_of_carries hinflate (carries_b64encode _) (List.cons_ne_nil _ _)).mpr
    exact Or.inl (postPayload_misreadStream document)

/-- A document of 16444 bytes. -/
def longDocument : String := paddedDocument 16437

/-- A Redirect payload, one complete stream of a document that opens with markup, is read as a POST payload. -/
theorem redirect_payload_read_as_post :
    Inflate.Contract Deflate.inflate (fun e => e = .zlibError) (tableEnvironment [] [] [] Deflate.inflate).decompress ∧
      OpensWithMarkup longDocument ∧ (utf8Encode longDocument).length ≤ maxInflatedBytes ∧
      Deflate.inflate (misreadStream longDocument) = some (utf8Encode longDocument, []) ∧
      Carries (codePoints (b64encode (misreadStream longDocument))) (misreadStream longDocument) ∧
      decodeResponse (tableEnvironment [] [] [] Deflate.inflate)
        (codePoints (b64encode (misreadStream longDocument))) ≠ .ok longDocument := by
  have hinflate : Inflate.Contract Deflate.inflate (fun e => e = .zlibError)
      (tableEnvironment [] [] [] Deflate.inflate).decompress := Inflate.ofFormat_contract Deflate.inflate rfl
  have hlength : (utf8Encode longDocument).length = 16444 := length_utf8Encode_paddedDocument 16437
  obtain ⟨hstream, hmisread⟩ := decodeResponse_misreadStream hlength hinflate
  refine ⟨hinflate, opensWithMarkup_paddedDocument 16437, ?_, hstream, carries_b64encode _, fun hdecode => ?_⟩
  · rw [hlength]
    decide
  · exact misreadText_ne longDocument (Except.ok.inj (hmisread.symm.trans hdecode))

end ApronSaml
