import Mathlib.Data.List.Basic

/-!
# Escaped text in HTML attributes

`html.escape` of Python, and the reading of character references in attribute values:
numeric ones, and named ones of a table, where the longest name counts and a name without a
semicolon is left alone before a letter, a digit or an equals sign. Every escaped text is
read back as the text it was made from, also where that text itself looks like a reference.
-/

namespace Html

/-- Replace every occurrence of a character. -/
def replaceChar (c : Char) (replacement : String) (text : List Char) : List Char :=
  text.flatMap fun d => if d = c then replacement.toList else [d]

/-- `html.escape(text)`; the ampersand comes first. -/
def escape (text : String) : String :=
  String.ofList (replaceChar '\x27' "&#x27;" (replaceChar '"' "&quot;" (replaceChar '>' "&gt;"
    (replaceChar '<' "&lt;" (replaceChar '&' "&amp;" text.toList)))))

/-- What becomes of one character. -/
def escapeChar (c : Char) : List Char :=
  if c = '&' then "&amp;".toList
  else if c = '<' then "&lt;".toList
  else if c = '>' then "&gt;".toList
  else if c = '"' then "&quot;".toList
  else if c = '\x27' then "&#x27;".toList
  else [c]

/-- A table of named character references. A name holds a semicolon at its end only; the table has the four
names that escaping uses. -/
structure CharacterReferences where
  expansion : List Char → Option (List Char)
  terminated : ∀ name after, expansion (name ++ ';' :: after) ≠ none → after = []
  amp : expansion "amp;".toList = some ['&']
  lt : expansion "lt;".toList = some ['<']
  gt : expansion "gt;".toList = some ['>']
  quot : expansion "quot;".toList = some ['"']

/-- ASCII letters and digits. -/
def isAlphanumeric (c : Char) : Bool := c.isAlphanum

/-- The number digits of a base stand for. -/
def readDigits (base : ℕ) (value : Char → ℕ) (digits : List Char) : ℕ :=
  digits.foldl (fun n c => base * n + value c) 0

/-- The value of a hexadecimal digit. -/
def hexValue (c : Char) : ℕ :=
  if c.isDigit then c.toNat - 0x30 else if c.isLower then c.toNat - 0x61 + 10 else c.toNat - 0x41 + 10

/-- Hexadecimal digits. -/
def isHexDigit (c : Char) : Bool := c.isDigit || ('a' ≤ c && c ≤ 'f') || ('A' ≤ c && c ≤ 'F')

/-- What references to the C1 control codes from 0x80 on stand for. -/
def c1Replacements : List ℕ :=
  [0x20ac, 0x81, 0x201a, 0x0192, 0x201e, 0x2026, 0x2020, 0x2021, 0x02c6, 0x2030, 0x0160, 0x2039, 0x0152, 0x8d,
    0x017d, 0x8f, 0x90, 0x2018, 0x2019, 0x201c, 0x201d, 0x2022, 0x2013, 0x2014, 0x02dc, 0x2122, 0x0161, 0x203a,
    0x0153, 0x9d, 0x017e, 0x0178]

/-- The character a numeric reference stands for; no character has code zero or a code that is no scalar value. -/
def numericCharacter (code : ℕ) : Char :=
  if code = 0 ∨ 0x10ffff < code ∨ (0xd800 ≤ code ∧ code ≤ 0xdfff) then '\ufffd'
  else if 0x80 ≤ code ∧ code < 0xa0 then Char.ofNat (c1Replacements.getD (code - 0x80) code)
  else Char.ofNat code

/-- A numeric reference behind its number sign: the character, and how many characters it takes. -/
def numericReference (text : List Char) : Option (List Char × ℕ) :=
  let (isDigit, base, value, marked) := match text with
    | 'x' :: _ | 'X' :: _ => (isHexDigit, 16, hexValue, 1)
    | _ => (Char.isDigit, 10, hexValue, 0)
  let digits := (text.drop marked).takeWhile isDigit
  if digits = [] then none
  else
    let taken := marked + digits.length
    let semicolon := if (text.drop taken).head? = some ';' then 1 else 0
    some ([numericCharacter (readDigits base value digits)], taken + semicolon)

/-- The longest name of the table among the starts of a text that have at most the given length. -/
def longestName (references : CharacterReferences) (text : List Char) : ℕ → Option (List Char × ℕ)
  | 0 => none
  | length + 1 =>
    match references.expansion (text.take (length + 1)) with
    | some expansion => some (expansion, length + 1)
    | none => longestName references text length

/-- A named reference at the front of a text behind its ampersand. -/
def namedReference (references : CharacterReferences) (text : List Char) : Option (List Char × ℕ) := do
  let (expansion, length) ← longestName references text text.length
  let next := (text.drop length).head?
  if (text.take length).getLast? != some ';' && next.any (fun c => c == '=' || isAlphanumeric c) then none
  else some (expansion, length)

/-- A character reference at the front of a text behind its ampersand: what it stands for, and how many characters
it takes. -/
def reference (references : CharacterReferences) (text : List Char) : Option (List Char × ℕ) :=
  match text with
  | '#' :: digits => (numericReference digits).map fun result => (result.1, result.2 + 1)
  | _ => namedReference references text

/-- Read the character references of an attribute value; the first characters are skipped as part of a reference. -/
def decodeFrom (references : CharacterReferences) : ℕ → List Char → List Char
  | _, [] => []
  | skipped + 1, _ :: rest => decodeFrom references skipped rest
  | 0, c :: rest =>
    if c = '&' then
      match reference references rest with
      | some (expansion, taken) => expansion ++ decodeFrom references taken rest
      | none => c :: decodeFrom references 0 rest
    else c :: decodeFrom references 0 rest

/-- The text an attribute value stands for. -/
def attributeText (references : CharacterReferences) (raw : List Char) : String :=
  String.ofList (decodeFrom references 0 raw)

/-- Another character stays. -/
theorem replaceChar_of_ne {c d : Char} (h : d ≠ c) (replacement : String) : replaceChar c replacement [d] = [d] := by
  rw [replaceChar, List.flatMap_singleton, if_neg h]

/-- Escaping treats each character by itself: no later replacement changes what an earlier one has put in. -/
theorem escape_eq (text : String) : escape text = String.ofList (text.toList.flatMap escapeChar) := by
  have hchar (c : Char) : replaceChar '\x27' "&#x27;" (replaceChar '"' "&quot;" (replaceChar '>' "&gt;"
      (replaceChar '<' "&lt;" (replaceChar '&' "&amp;" [c])))) = escapeChar c := by
    unfold escapeChar
    by_cases hamp : c = '&'
    · rw [hamp]
      decide
    by_cases hlt : c = '<'
    · rw [hlt]
      decide
    by_cases hgt : c = '>'
    · rw [hgt]
      decide
    by_cases hquot : c = '"'
    · rw [hquot]
      decide
    by_cases hapos : c = '\x27'
    · rw [hapos]
      decide
    rw [replaceChar_of_ne hamp, replaceChar_of_ne hlt, replaceChar_of_ne hgt, replaceChar_of_ne hquot,
      replaceChar_of_ne hapos, if_neg hamp, if_neg hlt, if_neg hgt, if_neg hquot, if_neg hapos]
  have happend (c : Char) (replacement : String) (text text' : List Char) :
      replaceChar c replacement (text ++ text') = replaceChar c replacement text ++ replaceChar c replacement text' :=
    List.flatMap_append
  apply congrArg String.ofList
  induction text.toList with
  | nil => rfl
  | cons c rest ih =>
    rw [← List.singleton_append, happend, happend, happend, happend, happend, hchar, ih]
    rfl

/-- No quotation mark is left. -/
theorem quot_notMem_escape (text : String) : '"' ∉ (escape text).toList := by
  rw [escape_eq, String.toList_ofList, List.mem_flatMap, not_exists]
  intro c hc
  unfold escapeChar at hc
  obtain ⟨_, hmem⟩ := hc
  split_ifs at hmem with hamp hlt hgt hquot hapos
  · exact absurd hmem (by decide)
  · exact absurd hmem (by decide)
  · exact absurd hmem (by decide)
  · exact absurd hmem (by decide)
  · exact absurd hmem (by decide)
  · exact hquot (List.mem_singleton.mp hmem).symm

/-- Skipped characters do not matter. -/
theorem decodeFrom_length (references : CharacterReferences) (skipped rest : List Char) :
    decodeFrom references skipped.length (skipped ++ rest) = decodeFrom references 0 rest := by
  induction skipped with
  | nil => rfl
  | cons c skipped ih => exact ih

/-- A start of the text that is the only name among the longer ones is the longest name. -/
theorem longestName_append (references : CharacterReferences) {name rest expansion : List Char}
    (hname : references.expansion (name ++ [';']) = some expansion) (length : ℕ)
    (hlength : name.length < length) (hbound : length ≤ (name ++ ';' :: rest).length) :
    longestName references (name ++ ';' :: rest) length = some (expansion, name.length + 1) := by
  induction length with
  | zero => omega
  | succ length ih =>
    have htake : (name ++ ';' :: rest).take (length + 1) = name ++ ';' :: rest.take (length - name.length) := by
      have hsplit : length + 1 = name.length + (length - name.length + 1) := by omega
      rw [hsplit, List.take_length_add_append, List.take_succ_cons]
    rw [longestName, htake]
    by_cases hlast : length = name.length
    · rw [hlast, Nat.sub_self, List.take_zero, hname]
    · have hnone : references.expansion (name ++ ';' :: rest.take (length - name.length)) = none := by
        by_contra hsome
        have hnil := congrArg List.length (references.terminated _ _ hsome)
        rw [List.length_append, List.length_cons] at hbound
        rw [List.length_take, List.length_nil] at hnil
        omega
      rw [hnone]
      exact ih (by omega) (by omega)

/-- A name of the table with its semicolon is the reference at the front of a text. -/
theorem reference_of_name (references : CharacterReferences) (name rest : List Char) {expansion : List Char}
    (hname : references.expansion (name ++ [';']) = some expansion) (hsign : name.head? ≠ some '#') :
    reference references (name ++ ';' :: rest) = some (expansion, name.length + 1) := by
  have hlonger : name.length < (name ++ ';' :: rest).length := by
    rw [List.length_append, List.length_cons]
    omega
  have hlongest : longestName references (name ++ ';' :: rest) (name ++ ';' :: rest).length =
      some (expansion, name.length + 1) :=
    longestName_append references hname _ hlonger (Nat.le_refl _)
  have hlast : ((name ++ ';' :: rest).take (name.length + 1)).getLast? = some ';' := by
    rw [List.take_length_add_append]
    simp
  have hreference : reference references (name ++ ';' :: rest) = namedReference references (name ++ ';' :: rest) := by
    unfold reference
    split
    · rename_i digits hdigits
      cases name with
      | nil => simp at hdigits
      | cons c name =>
        obtain rfl : c = '#' := (List.cons.inj hdigits).1
        exact absurd rfl hsign
    · rfl
  rw [hreference, namedReference, hlongest]
  simp [hlast]

/-- The apostrophe is escaped as a numeric reference. -/
theorem reference_apostrophe (references : CharacterReferences) (rest : List Char) :
    reference references ("#x27;".toList ++ rest) = some (['\x27'], 5) := by
  rfl

/-- A reference is read as what it stands for. -/
theorem decodeFrom_reference (references : CharacterReferences) (taken rest : List Char) {expansion : List Char}
    (h : reference references (taken ++ rest) = some (expansion, taken.length)) :
    decodeFrom references 0 ('&' :: (taken ++ rest)) = expansion ++ decodeFrom references 0 rest := by
  rw [decodeFrom, if_pos rfl, h]
  change expansion ++ decodeFrom references taken.length (taken ++ rest) = _
  rw [decodeFrom_length]

/-- What becomes of one character is read as that character. -/
theorem decodeFrom_escapeChar (references : CharacterReferences) (c : Char) (rest : List Char) :
    decodeFrom references 0 (escapeChar c ++ rest) = c :: decodeFrom references 0 rest := by
  unfold escapeChar
  split_ifs with hamp hlt hgt hquot hapos
  · rw [hamp]
    exact decodeFrom_reference references "amp;".toList rest
      (reference_of_name references "amp".toList rest references.amp (by decide))
  · rw [hlt]
    exact decodeFrom_reference references "lt;".toList rest
      (reference_of_name references "lt".toList rest references.lt (by decide))
  · rw [hgt]
    exact decodeFrom_reference references "gt;".toList rest
      (reference_of_name references "gt".toList rest references.gt (by decide))
  · rw [hquot]
    exact decodeFrom_reference references "quot;".toList rest
      (reference_of_name references "quot".toList rest references.quot (by decide))
  · rw [hapos]
    exact decodeFrom_reference references "#x27;".toList rest (reference_apostrophe references rest)
  · rw [List.singleton_append, decodeFrom, if_neg hamp]

/-- Escaped text is read back as the text. -/
theorem attributeText_escape (references : CharacterReferences) (text : String) :
    attributeText references (escape text).toList = text := by
  rw [attributeText, escape_eq, String.toList_ofList]
  have hchars (chars : List Char) : decodeFrom references 0 (chars.flatMap escapeChar) = chars := by
    induction chars with
    | nil => rfl
    | cons c chars ih => rw [List.flatMap_cons, decodeFrom_escapeChar, ih]
  rw [hchars, String.ofList_toList]

end Html
