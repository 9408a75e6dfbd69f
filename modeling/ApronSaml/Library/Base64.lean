import ApronSaml.Library.TextEncoding

/-!
# Base64 with strict decoding

Decoding is the strict mode of CPython's `binascii.a2b_base64`, reached through
`base64.b64decode(text, validate=True)`: the text must be ASCII, must not start with a
padding character, may hold alphabet characters and padding only, and ends with the first
complete padding. The scan keeps the position in the current group of four, the bits
carried over from the previous character, the padding characters since the last
alphabet character, and whether padding has started. It undoes the encoding of every byte
string.
-/

namespace Base64

open TextEncoding

/-- How decoding fails: before the scan on a character outside ASCII, or in the scan. -/
inductive Failure
  | nonAscii
  | malformed
  deriving DecidableEq

/-- The padding character. -/
def padding : ℕ := 0x3d

/-- The six bits an alphabet character stands for. -/
def sextet (code : ℕ) : Option ℕ :=
  if 0x41 ≤ code ∧ code ≤ 0x5a then some (code - 0x41)
  else if 0x61 ≤ code ∧ code ≤ 0x7a then some (code - 0x61 + 26)
  else if 0x30 ≤ code ∧ code ≤ 0x39 then some (code - 0x30 + 52)
  else if code = 0x2b then some 62
  else if code = 0x2f then some 63
  else none

/-- The decoding scan over character codes, returning the bytes still to be produced. -/
def scan (quadPos carry pads : ℕ) (paddingStarted : Bool) : List ℕ → Option (List UInt8)
  | [] => if quadPos = 0 then some [] else none
  | code :: rest =>
    if code = padding then
      if 2 ≤ quadPos then
        if 4 ≤ quadPos + (pads + 1) then
          -- Complete padding ends the data; anything after it is excess.
          if rest.isEmpty then some [] else none
        else scan quadPos carry (pads + 1) true rest
      else scan quadPos carry pads true rest
    else
      match sextet code with
      | none => none
      | some bits =>
        if paddingStarted then none
        else
          match quadPos with
          | 0 => scan 1 bits 0 false rest
          | 1 => (scan 2 (bits % 16) 0 false rest).map (List.cons (UInt8.ofNat (carry * 4 + bits / 16)))
          | 2 => (scan 3 (bits % 4) 0 false rest).map (List.cons (UInt8.ofNat (carry * 16 + bits / 4)))
          | _ => (scan 0 0 0 false rest).map (List.cons (UInt8.ofNat (carry * 64 + bits)))

/-- `base64.b64decode(text, validate=True)`. -/
def b64decode (text : List CodePoint) : Except Failure (List UInt8) :=
  let codes := text.map Fin.val
  if codes.all (fun code => decide (code < 128)) then
    if codes.head? = some padding then .error .malformed
    else
      match scan 0 0 0 false codes with
      | some raw => .ok raw
      | none => .error .malformed
  else .error .nonAscii

example : b64decode (codePoints "PD4=") = .ok [0x3c, 0x3e] := by decide +kernel

/-- The alphabet. -/
def alphabet : List Char := "ABCDEFGHIJKLMNOPQRSTUVWXYZabcdefghijklmnopqrstuvwxyz0123456789+/".toList

/-- The alphabet character that stands for six bits. -/
def digit (bits : ℕ) : Char := alphabet.getD bits '='

/-- The characters of the encoding, four for every three bytes. -/
def encode : List UInt8 → List Char
  | [] => []
  | [a] => [digit (a.toNat / 4), digit (a.toNat % 4 * 16), '=', '=']
  | [a, b] => [digit (a.toNat / 4), digit (a.toNat % 4 * 16 + b.toNat / 16), digit (b.toNat % 16 * 4), '=']
  | a :: b :: c :: rest =>
    digit (a.toNat / 4) :: digit (a.toNat % 4 * 16 + b.toNat / 16) :: digit (b.toNat % 16 * 4 + c.toNat / 64) ::
      digit (c.toNat % 64) :: encode rest

/-- `base64.b64encode(raw).decode("ascii")`. -/
def b64encode (raw : List UInt8) : String := String.ofList (encode raw)

/-- Each alphabet character is ASCII and stands for its position. -/
theorem digit_spec : ∀ bits < 64, (digit bits).toNat < 128 ∧ sextet (digit bits).toNat = some bits := by
  decide +kernel

/-- A code that stands for bits is not the padding. -/
theorem ne_padding {code bits : ℕ} (h : sextet code = some bits) : code ≠ padding := by
  intro hcode
  have hnone : sextet padding = none := by decide
  rw [hcode, hnone] at h
  contradiction

section Step

variable {bits carry : ℕ} (hbits : bits < 64) (rest : List ℕ)
include hbits

/-- The first digit of a quartet is carried. -/
theorem scan_first : scan 0 carry 0 false ((digit bits).toNat :: rest) = scan 1 bits 0 false rest := by
  have h := (digit_spec bits hbits).2
  simp [scan, ne_padding h, h]

/-- The second digit completes the first byte. -/
theorem scan_second :
    scan 1 carry 0 false ((digit bits).toNat :: rest) =
      (scan 2 (bits % 16) 0 false rest).map (List.cons (UInt8.ofNat (carry * 4 + bits / 16))) := by
  have h := (digit_spec bits hbits).2
  simp [scan, ne_padding h, h]

/-- The third digit completes the second byte. -/
theorem scan_third :
    scan 2 carry 0 false ((digit bits).toNat :: rest) =
      (scan 3 (bits % 4) 0 false rest).map (List.cons (UInt8.ofNat (carry * 16 + bits / 4))) := by
  have h := (digit_spec bits hbits).2
  simp [scan, ne_padding h, h]

/-- The fourth digit completes the third byte and the quartet. -/
theorem scan_fourth :
    scan 3 carry 0 false ((digit bits).toNat :: rest) =
      (scan 0 0 0 false rest).map (List.cons (UInt8.ofNat (carry * 64 + bits))) := by
  have h := (digit_spec bits hbits).2
  simp [scan, ne_padding h, h]

end Step

/-- A byte is that of its value. -/
theorem ofNat_toNat_of_eq {byte : UInt8} {n : ℕ} (h : n = byte.toNat) : UInt8.ofNat n = byte := by
  rw [h, UInt8.ofNat_toNat]

/-- Scanning an encoding gives the bytes back. -/
theorem scan_encode (raw : List UInt8) : scan 0 0 0 false ((encode raw).map Char.toNat) = some raw := by
  induction raw using encode.induct with
  | case1 => rfl
  | case2 a =>
    have ha := a.toNat_lt
    rw [encode, List.map_cons, scan_first (by omega), List.map_cons, scan_second (by omega)]
    have hbyte : UInt8.ofNat (a.toNat / 4 * 4 + a.toNat % 4 * 16 / 16) = a := ofNat_toNat_of_eq (by omega)
    rw [hbyte]
    rfl
  | case3 a b =>
    have ha := a.toNat_lt
    have hb := b.toNat_lt
    rw [encode, List.map_cons, scan_first (by omega), List.map_cons, scan_second (by omega), List.map_cons,
      scan_third (by omega)]
    have hfirst : UInt8.ofNat (a.toNat / 4 * 4 + (a.toNat % 4 * 16 + b.toNat / 16) / 16) = a :=
      ofNat_toNat_of_eq (by omega)
    have hsecond : UInt8.ofNat ((a.toNat % 4 * 16 + b.toNat / 16) % 16 * 16 + b.toNat % 16 * 4 / 4) = b :=
      ofNat_toNat_of_eq (by omega)
    rw [hfirst, hsecond]
    rfl
  | case4 a b c rest ih =>
    have ha := a.toNat_lt
    have hb := b.toNat_lt
    have hc := c.toNat_lt
    simp only [encode, List.map_cons]
    rw [scan_first (by omega), scan_second (by omega), scan_third (by omega), scan_fourth (by omega), ih]
    have hfirst : UInt8.ofNat (a.toNat / 4 * 4 + (a.toNat % 4 * 16 + b.toNat / 16) / 16) = a :=
      ofNat_toNat_of_eq (by omega)
    have hsecond : UInt8.ofNat ((a.toNat % 4 * 16 + b.toNat / 16) % 16 * 16 +
        (b.toNat % 16 * 4 + c.toNat / 64) / 4) = b :=
      ofNat_toNat_of_eq (by omega)
    have hthird : UInt8.ofNat ((b.toNat % 16 * 4 + c.toNat / 64) % 4 * 64 + c.toNat % 64) = c :=
      ofNat_toNat_of_eq (by omega)
    rw [hfirst, hsecond, hthird]
    rfl

/-- A property of every alphabet character and of the padding character holds throughout an encoding. -/
theorem forall_mem_encode {P : Char → Prop} (hdigit : ∀ bits < 64, P (digit bits)) (hpadding : P '=')
    (raw : List UInt8) : ∀ c ∈ encode raw, P c := by
  induction raw using encode.induct with
  | case1 => simp [encode]
  | case2 a =>
    have ha := a.toNat_lt
    simp only [encode, List.forall_mem_cons]
    exact ⟨hdigit _ (by omega), hdigit _ (by omega), hpadding, hpadding, by simp⟩
  | case3 a b =>
    have ha := a.toNat_lt
    have hb := b.toNat_lt
    simp only [encode, List.forall_mem_cons]
    exact ⟨hdigit _ (by omega), hdigit _ (by omega), hdigit _ (by omega), hpadding, by simp⟩
  | case4 a b c rest ih =>
    have ha := a.toNat_lt
    have hb := b.toNat_lt
    have hc := c.toNat_lt
    simp only [encode, List.forall_mem_cons]
    exact ⟨hdigit _ (by omega), hdigit _ (by omega), hdigit _ (by omega), hdigit _ (by omega), ih⟩

/-- An encoding does not start with padding. -/
theorem head?_encode_ne (raw : List UInt8) : ((encode raw).map Char.toNat).head? ≠ some padding := by
  have hdigit (bits : ℕ) (hbits : bits < 64) : some (digit bits).toNat ≠ some padding := by
    simpa using ne_padding (digit_spec bits hbits).2
  cases raw using encode.fun_cases with
  | case1 => simp [encode]
  | case2 a => exact hdigit _ (by have ha := a.toNat_lt; omega)
  | case3 a b => exact hdigit _ (by have ha := a.toNat_lt; omega)
  | case4 a b c rest => exact hdigit _ (by have ha := a.toNat_lt; omega)

/-- The code points of a text are the values of its characters. -/
theorem map_val_codePoints (text : String) : (codePoints text).map Fin.val = text.toList.map Char.toNat := by
  simp [codePoints]

/-- Strict decoding undoes encoding. -/
theorem b64decode_b64encode (raw : List UInt8) : b64decode (codePoints (b64encode raw)) = .ok raw := by
  have hascii : ((encode raw).map Char.toNat).all (fun code => decide (code < 128)) = true := by
    simp only [List.all_map, List.all_eq_true, Function.comp_apply, decide_eq_true_eq]
    exact forall_mem_encode (fun bits h => (digit_spec bits h).1) (by decide) raw
  rw [b64decode, map_val_codePoints, b64encode, String.toList_ofList]
  simp only [hascii, head?_encode_ne, if_true, if_false, scan_encode]

end Base64
