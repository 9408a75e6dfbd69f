import ApronSaml.Library.Whitespace

/-!
# Bytes, texts and the encoding a document declares

UTF-8, US-ASCII and ISO-8859-1 as partial decoders of byte strings, and the encoding name
in an XML declaration. UTF-8 decoding, strict or with replacement, inverts encoding.
Reading UTF-8 bytes under one of the other two encodings gives the text back only when
every character is ASCII: a longer sequence is rejected by US-ASCII and read as several
characters by ISO-8859-1.
-/

namespace TextEncoding

open Whitespace

/-- A Python `str` is a sequence of code points, lone surrogates included. -/
abbrev CodePoint := Fin 0x110000

/-- The code points of a text. -/
def codePoints (text : String) : List CodePoint :=
  text.toList.map fun c => ⟨c.toNat, by
    have hvalid := c.valid
    simp only [UInt32.isValidChar, Nat.isValidChar] at hvalid
    exact hvalid.elim (fun h => h.trans (by decide)) (fun h => h.2)⟩

/-- A character at the front of a text stays where it is when the text goes on. -/
theorem getElem?_toList_append {text : String} {i : ℕ} {c : Char} (h : text.toList[i]? = some c) (more : String) :
    (text ++ more).toList[i]? = some c := by
  rw [String.toList_append, List.getElem?_append_left (List.getElem?_eq_some_iff.mp h).1, h]

/-- `text.encode("utf-8")`. -/
def utf8Encode (text : String) : List UInt8 := text.toUTF8.data.toList

/-- `raw.decode("utf-8")`, where the bytes are well formed. -/
def utf8Decode (raw : List UInt8) : Option String := String.fromUTF8? raw.toByteArray

/-- The bytes of a text are the bytes of its characters. -/
theorem utf8Encode_eq (text : String) : utf8Encode text = text.toList.flatMap String.utf8EncodeChar := by
  rw [utf8Encode, String.toUTF8_eq_toByteArray, ← String.utf8Encode_toList, List.utf8Encode,
    List.toList_data_toByteArray]

/-- Bytes decode to a text exactly when they are its encoding. -/
theorem utf8Decode_eq_some_iff {raw : List UInt8} {text : String} :
    utf8Decode raw = some text ↔ utf8Encode text = raw := by
  unfold utf8Decode String.fromUTF8?
  constructor
  · intro h
    split at h
    · simp only [Option.some.injEq] at h
      rw [← h, utf8Encode, String.toUTF8_eq_toByteArray]
      exact List.toList_data_toByteArray
    · exact absurd h (by simp)
  · rintro rfl
    have hbytes : (utf8Encode text).toByteArray = text.toByteArray := by
      rw [utf8Encode_eq, ← String.utf8Encode_toList, List.utf8Encode]
    simp only [hbytes, dif_pos text.isValidUTF8, Option.some.injEq]
    rfl

/-- Encoding a text and decoding it gives the text back. -/
theorem utf8Decode_utf8Encode (text : String) : utf8Decode (utf8Encode text) = some text :=
  utf8Decode_eq_some_iff.mpr rfl

/-- How many bytes at the front of ill-formed bytes are replaced together: the longest proper start of a
well-formed sequence, and one byte where there is none. -/
def maximalSubpart (raw : List UInt8) : ℕ :=
  let lead := raw.getD 0 0
  let second := raw.getD 1 0
  let third := raw.getD 2 0
  let continues (byte : UInt8) : Bool := 0x80 ≤ byte && byte ≤ 0xbf
  -- The second byte of some sequences is restricted: no overlong forms, no surrogates, nothing past the last plane.
  let secondContinues :=
    if lead = 0xe0 then 0xa0 ≤ second && second ≤ 0xbf
    else if lead = 0xed then 0x80 ≤ second && second ≤ 0x9f
    else if lead = 0xf0 then 0x90 ≤ second && second ≤ 0xbf
    else if lead = 0xf4 then 0x80 ≤ second && second ≤ 0x8f
    else continues second
  if 0xe0 ≤ lead && lead ≤ 0xf4 && secondContinues then
    if 0xf0 ≤ lead && continues third then 3 else 2
  else 1

/-- Decode bytes, each maximal ill-formed part as one replacement character; the first bytes are skipped as part
of what is already decoded. -/
def decodeFrom : ℕ → List UInt8 → List Char
  | _, [] => []
  | skipped + 1, _ :: rest => decodeFrom skipped rest
  | 0, byte :: rest =>
    match (byte :: rest).toByteArray.utf8DecodeChar? 0 with
    | some c => c :: decodeFrom (c.utf8Size - 1) rest
    | none => '\ufffd' :: decodeFrom (maximalSubpart (byte :: rest) - 1) rest

/-- `raw.decode("utf-8", errors="replace")`. -/
def decodeReplace (raw : List UInt8) : String := String.ofList (decodeFrom 0 raw)

/-- Skipped bytes do not matter. -/
theorem decodeFrom_length (skipped rest : List UInt8) :
    decodeFrom skipped.length (skipped ++ rest) = decodeFrom 0 rest := by
  induction skipped with
  | nil => rfl
  | cons byte skipped ih => exact ih

/-- The bytes of a character are decoded to it. -/
theorem decodeFrom_utf8EncodeChar (c : Char) (rest : List UInt8) :
    decodeFrom 0 (String.utf8EncodeChar c ++ rest) = c :: decodeFrom 0 rest := by
  have hchar : (String.utf8EncodeChar c ++ rest).toByteArray.utf8DecodeChar? 0 = some c := by
    rw [List.toByteArray_append]
    exact ByteArray.utf8DecodeChar?_utf8EncodeChar_append
  have hlength := String.length_utf8EncodeChar c
  cases hbytes : String.utf8EncodeChar c with
  | nil =>
    have hpos := c.utf8Size_pos
    rw [hbytes, List.length_nil] at hlength
    omega
  | cons byte bytes =>
    rw [hbytes, List.cons_append] at hchar
    rw [hbytes, List.length_cons] at hlength
    have hskip : c.utf8Size - 1 = bytes.length := by omega
    rw [List.cons_append, decodeFrom, hchar]
    change c :: decodeFrom (c.utf8Size - 1) (bytes ++ rest) = _
    rw [hskip, decodeFrom_length]

/-- Well-formed bytes are decoded as they are. -/
theorem decodeReplace_utf8Encode (text : String) : decodeReplace (utf8Encode text) = text := by
  have hchars (chars : List Char) : decodeFrom 0 (chars.flatMap String.utf8EncodeChar) = chars := by
    induction chars with
    | nil => rfl
    | cons c chars ih => rw [List.flatMap_cons, decodeFrom_utf8EncodeChar, ih]
  rw [decodeReplace, utf8Encode_eq, hchars, String.ofList_toList]

/-- The encodings a document may declare here. -/
inductive Encoding
  | utf8
  | usAscii
  | latin1
  deriving DecidableEq

/-- The scalar value of one byte under ISO-8859-1, which extends US-ASCII. -/
def byteChar (byte : UInt8) : Char := Char.ofNat byte.toNat

/-- Decode bytes under an encoding. -/
def decode : Encoding → List UInt8 → Option String
  | .utf8, raw => utf8Decode raw
  | .usAscii, raw =>
    if raw.all (fun byte => decide (byte < 128)) then some (String.ofList (raw.map byteChar)) else none
  | .latin1, raw => some (String.ofList (raw.map byteChar))

/-- Every character is ASCII. -/
def IsAscii (text : String) : Prop := ∀ c ∈ text.toList, c.toNat < 128

instance (text : String) : Decidable (IsAscii text) :=
  List.decidableBAll (fun c : Char => c.toNat < 128) text.toList

/-- A text is ASCII exactly when both of its parts are. -/
theorem isAscii_append {text text' : String} : IsAscii (text ++ text') ↔ IsAscii text ∧ IsAscii text' := by
  simp only [IsAscii, String.toList_append, List.forall_mem_append]

/-- An ASCII character takes one byte, its own code. -/
theorem utf8EncodeChar_of_ascii {c : Char} (h : c.toNat < 128) :
    String.utf8EncodeChar c = [UInt8.ofNat c.toNat] := by
  have hval : c.val ≤ 127 := by
    rw [UInt32.le_iff_toNat_le]
    exact Nat.le_of_lt_succ h
  rw [String.utf8EncodeChar_eq_singleton (Char.utf8Size_eq_one_iff.mpr hval)]
  rfl

/-- The byte of an ASCII character stands for that character. -/
theorem byteChar_of_ascii {c : Char} (h : c.toNat < 128) : byteChar (UInt8.ofNat c.toNat) = c := by
  have hbyte : (UInt8.ofNat c.toNat).toNat = c.toNat := by
    rw [UInt8.toNat_ofNat']
    exact Nat.mod_eq_of_lt (h.trans (by decide))
  rw [byteChar, hbyte, Char.ofNat_toNat]

/-- The UTF-8 bytes of an ASCII text read under ISO-8859-1 are the text. -/
theorem map_byteChar_of_ascii {text : String} (h : IsAscii text) :
    (utf8Encode text).map byteChar = text.toList := by
  have hchars (chars : List Char) (hchars : ∀ c ∈ chars, c.toNat < 128) :
      (chars.flatMap String.utf8EncodeChar).map byteChar = chars := by
    induction chars with
    | nil => rfl
    | cons c chars ih =>
      rw [List.forall_mem_cons] at hchars
      rw [List.flatMap_cons, List.map_append, ih hchars.2, utf8EncodeChar_of_ascii hchars.1, List.map_singleton,
        byteChar_of_ascii hchars.1, List.singleton_append]
  rw [utf8Encode_eq]
  exact hchars text.toList h

/-- The UTF-8 bytes of an ASCII text are all ASCII codes. -/
theorem utf8Encode_lt_of_ascii {text : String} (h : IsAscii text) : ∀ byte ∈ utf8Encode text, byte < 128 := by
  intro byte hbyte
  rw [utf8Encode_eq, List.mem_flatMap] at hbyte
  obtain ⟨c, hc, hmem⟩ := hbyte
  rw [utf8EncodeChar_of_ascii (h c hc), List.mem_singleton] at hmem
  rw [hmem, UInt8.lt_iff_toNat_lt, UInt8.toNat_ofNat']
  exact (Nat.mod_le _ _).trans_lt (h c hc)

/-- Every character takes at least one byte. -/
theorem length_le_flatMap (chars : List Char) : chars.length ≤ (chars.flatMap String.utf8EncodeChar).length := by
  induction chars with
  | nil => rfl
  | cons c chars ih =>
    have hpos := c.utf8Size_pos
    rw [List.flatMap_cons, List.length_append, String.length_utf8EncodeChar, List.length_cons]
    omega

/-- A text with as many UTF-8 bytes as characters is ASCII: every longer sequence adds bytes. -/
theorem isAscii_of_length_eq {text : String} (h : (utf8Encode text).length = text.toList.length) :
    IsAscii text := by
  have hchars (chars : List Char) (hlength : (chars.flatMap String.utf8EncodeChar).length ≤ chars.length) :
      ∀ c ∈ chars, c.toNat < 128 := by
    induction chars with
    | nil => simp
    | cons c chars ih =>
      have hmore : chars.length ≤ (chars.flatMap String.utf8EncodeChar).length := length_le_flatMap chars
      rw [List.flatMap_cons, List.length_append, String.length_utf8EncodeChar, List.length_cons] at hlength
      have hpos := c.utf8Size_pos
      rw [List.forall_mem_cons]
      refine ⟨?_, ih (by omega)⟩
      have hval := Char.utf8Size_eq_one_iff.mp (show c.utf8Size = 1 by omega)
      rw [UInt32.le_iff_toNat_le] at hval
      exact Nat.lt_succ_of_le hval
  rw [utf8Encode_eq] at h
  exact hchars text.toList h.le

/-- UTF-8 bytes read under a declared encoding are the text exactly when the encoding is UTF-8
or the text is ASCII. -/
theorem decode_utf8Encode_iff (encoding : Encoding) (text : String) :
    decode encoding (utf8Encode text) = some text ↔ encoding = .utf8 ∨ IsAscii text := by
  have hlatin1 : String.ofList ((utf8Encode text).map byteChar) = text ↔ IsAscii text := by
    constructor
    · intro h
      apply isAscii_of_length_eq
      rw [← List.length_map byteChar, ← String.toList_ofList (l := (utf8Encode text).map byteChar), h]
    · intro h
      rw [map_byteChar_of_ascii h, String.ofList_toList]
  cases encoding with
  | utf8 => simp [decode, utf8Decode_utf8Encode]
  | latin1 => simpa [decode] using hlatin1
  | usAscii =>
    by_cases hall : (utf8Encode text).all (fun byte => decide (byte < 128)) = true
    · simpa [decode, hall] using hlatin1
    · have hnot : ¬ IsAscii text := fun h => hall (by simpa using utf8Encode_lt_of_ascii h)
      simp [decode, hall, hnot]

/-- Consume a keyword. -/
def eat (keyword text : List Char) : Option (List Char) :=
  if keyword.isPrefixOf text then some (text.drop keyword.length) else none

/-- A value between single or double quotes, and what follows it. -/
def quoted : List Char → Option (List Char × List Char)
  | [] => none
  | quote :: text =>
    if quote = '\x22' ∨ quote = '\x27' then
      match text.dropWhile (fun c => c != quote) with
      | [] => none
      | _ :: rest => some (text.takeWhile (fun c => c != quote), rest)
    else none

/-- One pseudo-attribute of an XML declaration: blanks, a name, an equals sign and a quoted value. -/
def pseudoAttribute (name : List Char) : List Char → Option (List Char × List Char)
  | [] => none
  | c :: text =>
    if isXmlSpace c then do
      let afterName ← eat name (text.dropWhile isXmlSpace)
      let afterEquals ← eat ['='] (afterName.dropWhile isXmlSpace)
      quoted (afterEquals.dropWhile isXmlSpace)
    else none

/-- The encoding pseudo-attribute of an XML declaration that opens a text, where it follows the version. -/
def encodingDeclaration (text : List Char) : Option (List Char) := do
  let afterOpening ← eat ['<', '?', 'x', 'm', 'l'] text
  let (_, afterVersion) ← pseudoAttribute ['v', 'e', 'r', 's', 'i', 'o', 'n'] afterOpening
  let (name, _) ← pseudoAttribute ['e', 'n', 'c', 'o', 'd', 'i', 'n', 'g'] afterVersion
  some name

/-- The encoding name a document declares, after a byte-order mark if there is one. The declaration is taken to hold all
the same, where a reader such as libxml2 lets the mark decide. -/
def declaredEncoding (document : String) : Option (List Char) :=
  match document.toList with
  | '\ufeff' :: text => encodingDeclaration text
  | text => encodingDeclaration text

/-- Encoding names are compared without regard to case. -/
def encodingOfName (name : List Char) : Option Encoding :=
  let upper := name.map Char.toUpper
  if upper = "UTF-8".toList then some .utf8
  else if upper = "US-ASCII".toList then some .usAscii
  else if upper = "ISO-8859-1".toList then some .latin1
  else none

/-- The encoding a reader of the document's bytes applies, UTF-8 when none is named. -/
def documentEncoding (document : String) : Option Encoding :=
  match declaredEncoding document with
  | none => some .utf8
  | some name => encodingOfName name

example : documentEncoding "<?xml version='1.0' encoding = 'iso-8859-1' ?><r/>" = some .latin1 := by decide +kernel

end TextEncoding
