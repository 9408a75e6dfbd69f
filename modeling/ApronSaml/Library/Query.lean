import ApronSaml.Library.TextEncoding
import ApronSaml.Library.Url
import Mathlib.Data.List.SplitBy

/-!
# Form-encoded queries

`quote_plus`, `urlencode`, `unquote_plus` and `parse_qsl` of `urllib.parse`. An encoded
text is ASCII and free of every character with a meaning in a query, so an encoded list of
pairs is read back as it is when blank values are kept. Without them a query loses exactly
the fields that have no value.
-/

namespace Query

open TextEncoding Url

/-- The bytes that are never quoted: letters, digits and four marks. -/
def isAlwaysSafe (byte : UInt8) : Bool :=
  (0x41 ≤ byte && byte ≤ 0x5a) || (0x61 ≤ byte && byte ≤ 0x7a) || (0x30 ≤ byte && byte ≤ 0x39) ||
    byte == 0x5f || byte == 0x2e || byte == 0x2d || byte == 0x7e

/-- An upper-case hexadecimal digit. -/
def hexDigit (n : ℕ) : Char := "0123456789ABCDEF".toList.getD n '0'

/-- One byte of a quoted text. -/
def quoteByte (byte : UInt8) : List Char :=
  if byte = 0x20 then ['+']
  else if isAlwaysSafe byte then [byteChar byte]
  else ['%', hexDigit (byte.toNat / 16), hexDigit (byte.toNat % 16)]

/-- `quote_plus(text)`. -/
def quotePlus (text : String) : List Char := (utf8Encode text).flatMap quoteByte

/-- `urlencode(pairs)`. -/
def urlencode (pairs : List (String × String)) : List Char :=
  ['&'].intercalate (pairs.map fun pair => quotePlus pair.1 ++ '=' :: quotePlus pair.2)

/-- The value of a hexadecimal digit of either case. -/
def hexValue (c : Char) : Option ℕ :=
  if '0' ≤ c ∧ c ≤ '9' then some (c.toNat - 0x30)
  else if 'a' ≤ c ∧ c ≤ 'f' then some (c.toNat - 0x61 + 10)
  else if 'A' ≤ c ∧ c ≤ 'F' then some (c.toNat - 0x41 + 10)
  else none

/-- The byte two hexadecimal digits stand for. -/
def hexByte (high low : Char) : Option UInt8 := do
  let high ← hexValue high
  let low ← hexValue low
  some (UInt8.ofNat (16 * high + low))

/-- The byte of a percent escape that opens a text. -/
def escapedByte : List Char → Option UInt8
  | '%' :: high :: low :: _ => hexByte high low
  | _ => none

/-- The bytes of an ASCII text, its percent escapes resolved and any other percent sign kept; the first
characters are skipped as part of an escape. -/
def unquoteFrom : ℕ → List Char → List UInt8
  | _, [] => []
  | skipped + 1, _ :: rest => unquoteFrom skipped rest
  | 0, c :: rest =>
    match escapedByte (c :: rest) with
    | some byte => byte :: unquoteFrom 2 rest
    | none => UInt8.ofNat c.toNat :: unquoteFrom 0 rest

/-- `unquote_to_bytes(text)` for an ASCII text. -/
def unquoteToBytes (text : List Char) : List UInt8 := unquoteFrom 0 text

/-- ASCII characters. -/
def isAsciiChar (c : Char) : Bool := c.toNat < 128

/-- A run of ASCII characters, or of others, unquoted: the others stay. -/
def unquoteRun (run : List Char) : List Char :=
  if run.all isAsciiChar then (decodeReplace (unquoteToBytes run)).toList else run

/-- `unquote(text)`: each run of ASCII characters is unquoted and decoded by itself. -/
def unquote (text : List Char) : List Char :=
  (text.splitBy fun c c' => isAsciiChar c == isAsciiChar c').flatMap unquoteRun

/-- A plus sign stands for a space. -/
def plusToSpace (c : Char) : Char := if c = '+' then ' ' else c

/-- `unquote_plus(text)`. -/
def unquotePlus (text : List Char) : String := String.ofList (unquote (text.map plusToSpace))

/-- One field of a query: an empty one is skipped, and one without a value unless blank values are kept. -/
def parseField (keepBlankValues : Bool) (nameValue : List Char) : Option (String × String) :=
  if nameValue = [] then none
  else
    let (name, after) := partition '=' nameValue
    let value := after.getD []
    if value ≠ [] || keepBlankValues then some (unquotePlus name, unquotePlus value) else none

/-- `parse_qsl(query, keep_blank_values=keepBlankValues)`. -/
def parseQsl (keepBlankValues : Bool) (query : List Char) : List (String × String) :=
  (query.splitOn '&').filterMap (parseField keepBlankValues)

/-- The characters of quoted texts. -/
def isQuotedChar (c : Char) : Bool := c == '+' || c == '%' || (isAsciiChar c && isAlwaysSafe (UInt8.ofNat c.toNat))

/-- What is never quoted is neither an escape nor a space, and its character stands for it. -/
theorem byteChar_spec : ∀ n < 256, isAlwaysSafe (UInt8.ofNat n) = true →
    isQuotedChar (byteChar (UInt8.ofNat n)) = true ∧ byteChar (UInt8.ofNat n) ≠ '%' ∧
      plusToSpace (byteChar (UInt8.ofNat n)) = byteChar (UInt8.ofNat n) ∧
      UInt8.ofNat (byteChar (UInt8.ofNat n)).toNat = UInt8.ofNat n := by
  decide +kernel

/-- Each hexadecimal digit is quoted, is no plus sign and has its own value. -/
theorem hexDigit_spec : ∀ n < 16, isQuotedChar (hexDigit n) = true ∧ plusToSpace (hexDigit n) = hexDigit n ∧
    hexValue (hexDigit n) = some n := by
  decide

/-- The digits of a byte stand for it. -/
theorem hexByte_hexDigit (byte : UInt8) :
    hexByte (hexDigit (byte.toNat / 16)) (hexDigit (byte.toNat % 16)) = some byte := by
  have hbyte := byte.toNat_lt
  have hvalue : 16 * (byte.toNat / 16) + byte.toNat % 16 = byte.toNat := Nat.div_add_mod _ _
  rw [hexByte, (hexDigit_spec _ (by omega)).2.2, (hexDigit_spec _ (by omega)).2.2]
  simp only [Option.bind_eq_bind, Option.bind_some, hvalue, UInt8.ofNat_toNat]

/-- A quoted byte consists of quoted characters. -/
theorem forall_mem_quoteByte (byte : UInt8) : ∀ c ∈ quoteByte byte, isQuotedChar c = true := by
  have hbyte := byte.toNat_lt
  unfold quoteByte
  split
  · rw [List.forall_mem_singleton]
    rfl
  · split
    · rename_i hsafe
      have hspec := byteChar_spec byte.toNat hbyte (by rwa [UInt8.ofNat_toNat])
      rw [UInt8.ofNat_toNat] at hspec
      rw [List.forall_mem_singleton]
      exact hspec.1
    · rw [List.forall_mem_cons, List.forall_mem_cons, List.forall_mem_singleton]
      exact ⟨by decide, (hexDigit_spec _ (by omega)).1, (hexDigit_spec _ (by omega)).1⟩

/-- A quoted text consists of quoted characters. -/
theorem forall_mem_quotePlus (text : String) : ∀ c ∈ quotePlus text, isQuotedChar c = true := by
  intro c hc
  obtain ⟨byte, _, hmem⟩ := List.mem_flatMap.mp hc
  exact forall_mem_quoteByte byte c hmem

/-- Unquoting a quoted byte gives it back. -/
theorem unquoteFrom_quoteByte (byte : UInt8) (rest : List Char) :
    unquoteFrom 0 ((quoteByte byte).map plusToSpace ++ rest) = byte :: unquoteFrom 0 rest := by
  have hbyte := byte.toNat_lt
  unfold quoteByte
  split
  · rename_i hspace
    rw [hspace]
    rfl
  · split
    · rename_i hsafe
      have hspec := byteChar_spec byte.toNat hbyte (by rwa [UInt8.ofNat_toNat])
      rw [UInt8.ofNat_toNat] at hspec
      obtain ⟨_, hescape, hplus, hvalue⟩ := hspec
      have hnone : escapedByte (byteChar byte :: rest) = none := by
        unfold escapedByte
        split
        · rename_i hcons
          exact absurd (List.cons.inj hcons).1 hescape
        · rfl
      rw [List.map_singleton, hplus, List.singleton_append, unquoteFrom, hnone]
      simp only [hvalue]
    · simp only [List.map_cons, List.map_nil, (hexDigit_spec (byte.toNat / 16) (by omega)).2.1,
        (hexDigit_spec (byte.toNat % 16) (by omega)).2.1, List.cons_append, List.nil_append]
      have hescape : escapedByte (plusToSpace '%' :: hexDigit (byte.toNat / 16) :: hexDigit (byte.toNat % 16) :: rest) =
          some byte := hexByte_hexDigit byte
      rw [unquoteFrom, hescape]
      rfl

/-- Unquoting the bytes of a quoted text gives them back. -/
theorem unquoteToBytes_flatMap (raw : List UInt8) :
    unquoteToBytes ((raw.flatMap quoteByte).map plusToSpace) = raw := by
  rw [unquoteToBytes]
  induction raw with
  | nil => rfl
  | cons byte raw ih => rw [List.flatMap_cons, List.map_append, unquoteFrom_quoteByte, ih]

/-- A quoted character is ASCII, and stays so as a space. -/
theorem isAsciiChar_plusToSpace {c : Char} (h : isQuotedChar c = true) : isAsciiChar (plusToSpace c) = true := by
  unfold plusToSpace
  split
  · decide
  · rename_i hplus
    rw [isQuotedChar, Bool.or_assoc, Bool.or_eq_true, Bool.or_eq_true, Bool.and_eq_true, beq_iff_eq, beq_iff_eq] at h
    obtain hc | rfl | hsafe := h
    · exact absurd hc hplus
    · decide
    · exact hsafe.1

/-- An ASCII text is one run. -/
theorem unquote_of_ascii {text : List Char} (h : ∀ c ∈ text, isAsciiChar c = true) :
    unquote text = (decodeReplace (unquoteToBytes text)).toList := by
  cases text with
  | nil => rfl
  | cons c text =>
    have hrun : (c :: text).splitBy (fun c c' => isAsciiChar c == isAsciiChar c') = [c :: text] := by
      apply List.splitBy_of_isChain (List.cons_ne_nil c text)
      apply List.Pairwise.isChain
      apply List.pairwise_of_forall_mem_list
      intro c hc c' hc'
      rw [h c hc, h c' hc', beq_self_eq_true]
    rw [unquote, hrun, List.flatMap_singleton, unquoteRun, if_pos (List.all_eq_true.mpr h)]

/-- Unquoting a quoted text gives it back. -/
theorem unquotePlus_quotePlus (text : String) : unquotePlus (quotePlus text) = text := by
  have hascii : ∀ c ∈ (quotePlus text).map plusToSpace, isAsciiChar c = true := by
    intro c hc
    obtain ⟨quoted, hquoted, rfl⟩ := List.mem_map.mp hc
    exact isAsciiChar_plusToSpace (forall_mem_quotePlus text quoted hquoted)
  rw [unquotePlus, unquote_of_ascii hascii, quotePlus, unquoteToBytes_flatMap, decodeReplace_utf8Encode,
    String.ofList_toList]

/-- A delimiter of queries is no quoted character, so it is in no quoted text. -/
theorem notMem_quotePlus {sep : Char} (hsep : isQuotedChar sep = false) (text : String) : sep ∉ quotePlus text := by
  intro h
  rw [forall_mem_quotePlus text sep h] at hsep
  contradiction

/-- A field made of two quoted texts is read back. -/
theorem parseField_quotePlus (name value : String) :
    parseField true (quotePlus name ++ '=' :: quotePlus value) = some (name, value) := by
  have hne : quotePlus name ++ '=' :: quotePlus value ≠ [] := by simp
  rw [parseField, if_neg hne, partition_append_cons (notMem_quotePlus (by decide) name)]
  simp only [Bool.or_true, if_true, Option.getD_some, unquotePlus_quotePlus]

/-- With blank values kept, an encoded list of pairs is read back. -/
theorem parseQsl_urlencode (pairs : List (String × String)) : parseQsl true (urlencode pairs) = pairs := by
  by_cases hpairs : pairs = []
  · rw [hpairs]
    rfl
  have hsep : ∀ field ∈ pairs.map fun pair => quotePlus pair.1 ++ '=' :: quotePlus pair.2, '&' ∉ field := by
    intro field hfield
    obtain ⟨pair, _, rfl⟩ := List.mem_map.mp hfield
    rw [List.mem_append, List.mem_cons, not_or, not_or]
    exact ⟨notMem_quotePlus (by decide) pair.1, by decide, notMem_quotePlus (by decide) pair.2⟩
  rw [parseQsl, urlencode, List.splitOn_intercalate '&' hsep (by simpa using hpairs), List.filterMap_map]
  have hfield : parseField true ∘ (fun pair : String × String => quotePlus pair.1 ++ '=' :: quotePlus pair.2) = some := by
    funext pair
    exact parseField_quotePlus pair.1 pair.2
  rw [hfield, List.filterMap_some]

/-- Only the empty list has an empty encoding. -/
theorem urlencode_ne_nil {pairs : List (String × String)} (h : pairs ≠ []) : urlencode pairs ≠ [] := by
  intro hnil
  apply h
  rw [← parseQsl_urlencode pairs, hnil]
  rfl

/-- An encoded list consists of quoted characters and of the two delimiters. -/
theorem forall_mem_urlencode (pairs : List (String × String)) :
    ∀ c ∈ urlencode pairs, isQuotedChar c = true ∨ c = '&' ∨ c = '=' := by
  have hfield : ∀ field ∈ pairs.map fun pair => quotePlus pair.1 ++ '=' :: quotePlus pair.2,
      ∀ c ∈ field, isQuotedChar c = true ∨ c = '&' ∨ c = '=' := by
    intro field hfield c hc
    obtain ⟨pair, _, rfl⟩ := List.mem_map.mp hfield
    rw [List.mem_append, List.mem_cons] at hc
    obtain hname | rfl | hvalue := hc
    · exact Or.inl (forall_mem_quotePlus pair.1 c hname)
    · exact Or.inr (Or.inr rfl)
    · exact Or.inl (forall_mem_quotePlus pair.2 c hvalue)
  rw [urlencode]
  generalize pairs.map (fun pair => quotePlus pair.1 ++ '=' :: quotePlus pair.2) = fields at hfield
  induction fields with
  | nil => simp
  | cons field fields ih =>
    rw [List.forall_mem_cons] at hfield
    cases fields with
    | nil => simpa using hfield.1
    | cons next fields =>
      rw [List.intercalate_cons_cons, List.forall_mem_append, List.forall_mem_append, List.forall_mem_singleton]
      exact ⟨⟨hfield.1, Or.inr (Or.inl rfl)⟩, ih hfield.2⟩

/-- The field has a value after its first equals sign. -/
def HasValue (field : List Char) : Prop := (partition '=' field).2.getD [] ≠ []

/-- Without blank values a field is read as with them, or lost. -/
theorem parseField_false (field : List Char) :
    (parseField false field = parseField true field ↔ field ≠ [] → HasValue field) ∧
      (parseField false field = none ∨ parseField false field = parseField true field) := by
  unfold parseField HasValue
  by_cases hfield : field = []
  · simp [hfield]
  · by_cases hvalue : (partition '=' field).2.getD [] = [] <;> simp [hfield, hvalue]

/-- A stricter reading of each element gives the same list exactly when it loses none. -/
theorem filterMap_eq_iff {A B : Type*} {f g : A → Option B} (hlost : ∀ a, f a = none ∨ f a = g a) (items : List A) :
    items.filterMap f = items.filterMap g ↔ ∀ a ∈ items, f a = g a := by
  have hlength (items : List A) : (items.filterMap f).length ≤ (items.filterMap g).length := by
    induction items with
    | nil => rfl
    | cons a items ih =>
      obtain hnone | hsame := hlost a
      · rw [List.filterMap_cons_none hnone]
        cases hg : g a with
        | none => rwa [List.filterMap_cons_none hg]
        | some b =>
          rw [List.filterMap_cons_some hg, List.length_cons]
          omega
      · cases hg : g a with
        | none => rwa [List.filterMap_cons_none hg, List.filterMap_cons_none (hsame.trans hg)]
        | some b =>
          rw [List.filterMap_cons_some hg, List.filterMap_cons_some (hsame.trans hg), List.length_cons,
            List.length_cons]
          omega
  induction items with
  | nil => simp
  | cons a items ih =>
    rw [List.forall_mem_cons]
    apply Iff.trans _ (and_congr_right' ih)
    cases hg : g a with
    | none =>
      have hf : f a = none := (hlost a).elim id fun h => h.trans hg
      rw [List.filterMap_cons_none hg, List.filterMap_cons_none hf]
      exact (and_iff_right hf).symm
    | some b =>
      rw [List.filterMap_cons_some hg]
      obtain hf | hf := hlost a
      · rw [List.filterMap_cons_none hf, hf]
        constructor
        · intro h
          have hle := hlength items
          rw [h, List.length_cons] at hle
          omega
        · intro h
          exact absurd h.1 (by simp)
      · rw [List.filterMap_cons_some (hf.trans hg), hf, hg]
        simp

/-- A query is read without loss exactly when every field of it has a value. -/
theorem parseQsl_false_eq_iff (query : List Char) :
    parseQsl false query = parseQsl true query ↔ ∀ field ∈ query.splitOn '&', field ≠ [] → HasValue field := by
  rw [parseQsl, parseQsl, filterMap_eq_iff fun field => (parseField_false field).2]
  exact forall₂_congr fun field _ => (parseField_false field).1

end Query
