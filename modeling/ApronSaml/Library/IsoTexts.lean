import ApronSaml.Library.IsoFormat
import Mathlib.Tactic.Ring

/-!
# Writing instants as `xs:dateTime` texts

The texts of the date, the clock time with any number of fraction digits, and the time
zone, and what `fromisoformat` makes of them: the fields as they are written, with the
fraction cut off behind its sixth digit. Every field text of the right length is read, so
whether an instant comes of it is a question of the calendar and the clock alone.
-/

namespace IsoFormat

open Chronology Calendar TextEncoding Whitespace

/-- The byte of a decimal digit. -/
def digitByte (d : ℕ) : UInt8 := UInt8.ofNat (48 + d)

/-- A visible ASCII character. -/
def isGraphic (byte : UInt8) : Bool := 0x21 ≤ byte && byte ≤ 0x7e

/-- A visible character is its own UTF-8 byte, and no blank. -/
theorem isGraphic_spec {byte : UInt8} (h : isGraphic byte = true) :
    (byteChar byte).toNat < 128 ∧ UInt8.ofNat (byteChar byte).toNat = byte ∧ isSpace (byteChar byte) = false := by
  have hall : ∀ n < 256, isGraphic (UInt8.ofNat n) = true →
      (byteChar (UInt8.ofNat n)).toNat < 128 ∧ UInt8.ofNat (byteChar (UInt8.ofNat n)).toNat = UInt8.ofNat n ∧
        isSpace (byteChar (UInt8.ofNat n)) = false := by
    decide +kernel
  have hbyte := hall byte.toNat byte.toNat_lt
  rw [UInt8.ofNat_toNat] at hbyte
  exact hbyte h

/-- A decimal digit is read as its value. -/
theorem digitByte_spec : ∀ d < 10, isDigit (digitByte d) = true ∧ (digitByte d).toNat - 48 = d ∧
    isZoneMark (digitByte d) = false ∧ digitByte d ≠ ascii 'W' ∧ isGraphic (digitByte d) = true := by
  decide

/-- A number in two digits. -/
def twoDigits (n : ℕ) : List UInt8 := [digitByte (n / 10), digitByte (n % 10)]

/-- A number in four digits. -/
def fourDigits (n : ℕ) : List UInt8 := twoDigits (n / 100) ++ twoDigits (n % 100)

/-- The value of digits, most significant first. -/
def value (digits : List (Fin 10)) : ℕ := digits.foldl (fun n d => 10 * n + d.val) 0

/-- Digits after a number are read as its continuation. -/
theorem parseDigitsFrom_map (n : ℕ) (digits : List (Fin 10)) (rest : List UInt8) :
    parseDigitsFrom n digits.length (digits.map (fun d => digitByte d.val) ++ rest) =
      some (digits.foldl (fun n d => 10 * n + d.val) n, rest) := by
  induction digits generalizing n with
  | nil => rfl
  | cons d digits ih =>
    obtain ⟨hdigit, hvalue, _⟩ := digitByte_spec d d.isLt
    rw [List.map_cons, List.cons_append, List.length_cons, parseDigitsFrom, if_pos hdigit, hvalue, ih, List.foldl_cons]

/-- Two digits are read as their number. -/
theorem parseDigits_twoDigits {n : ℕ} (h : n < 100) (rest : List UInt8) :
    parseDigits 2 (twoDigits n ++ rest) = some (n, rest) := by
  have htens : n / 10 < 10 := by omega
  have hones : n % 10 < 10 := by omega
  have hread := parseDigitsFrom_map 0 [⟨n / 10, htens⟩, ⟨n % 10, hones⟩] rest
  have hvalue : 10 * (10 * 0 + n / 10) + n % 10 = n := by omega
  exact hread.trans (by rw [List.foldl_cons, List.foldl_cons, List.foldl_nil, hvalue])

/-- Four digits are read as their number. -/
theorem parseDigits_fourDigits {n : ℕ} (h : n < 10000) (rest : List UInt8) :
    parseDigits 4 (fourDigits n ++ rest) = some (n, rest) := by
  have hbound : n / 100 / 10 < 10 ∧ n / 100 % 10 < 10 ∧ n % 100 / 10 < 10 ∧ n % 100 % 10 < 10 := by omega
  obtain ⟨h1, h2, h3, h4⟩ := hbound
  have hread := parseDigitsFrom_map 0 [⟨_, h1⟩, ⟨_, h2⟩, ⟨_, h3⟩, ⟨_, h4⟩] rest
  have hvalue : 10 * (10 * (10 * (10 * 0 + n / 100 / 10) + n / 100 % 10) + n % 100 / 10) + n % 100 % 10 = n := by omega
  exact hread.trans (by simp only [List.foldl_cons, List.foldl_nil, hvalue])

/-- Digits followed by digits have the value of both. -/
theorem value_append (digits digits' : List (Fin 10)) :
    value (digits ++ digits') = value digits * 10 ^ digits'.length + value digits' := by
  have hfold (n : ℕ) : digits'.foldl (fun n d => 10 * n + d.val) n = n * 10 ^ digits'.length + value digits' := by
    unfold value
    induction digits' generalizing n with
    | nil => simp
    | cons d digits' ih =>
      rw [List.foldl_cons, List.foldl_cons, ih, ih (10 * 0 + d), List.length_cons, pow_succ]
      ring
  rw [value, List.foldl_append, hfold]
  rfl

/-- Digits have a value below the next power of ten. -/
theorem value_lt (digits : List (Fin 10)) : value digits < 10 ^ digits.length := by
  induction digits with
  | nil => decide
  | cons d digits ih =>
    have hcons : value (d :: digits) = d * 10 ^ digits.length + value digits := by
      rw [← List.singleton_append, value_append]
      simp [value]
    have hd : (d : ℕ) * 10 ^ digits.length ≤ 9 * 10 ^ digits.length := Nat.mul_le_mul_right _ (by omega)
    rw [hcons, List.length_cons, pow_succ]
    omega

/-- The microseconds of a fraction, cut off behind the sixth digit. -/
def fractionMicros (fraction : List (Fin 10)) : ℕ :=
  value (fraction.take 6) * 10 ^ (6 - min fraction.length 6)

/-- The microseconds of a fraction are its value, rounded down. -/
theorem fractionMicros_eq (fraction : List (Fin 10)) :
    fractionMicros fraction = 1000000 * value fraction / 10 ^ fraction.length := by
  have hsplit := value_append (fraction.take 6) (fraction.drop 6)
  have hlt := value_lt (fraction.drop 6)
  rw [List.take_append_drop] at hsplit
  rw [fractionMicros, eq_comm]
  obtain hshort | hlong := Nat.le_total fraction.length 6
  · have hpow : 1000000 = 10 ^ (6 - fraction.length) * 10 ^ fraction.length := by
      rw [← pow_add, Nat.sub_add_cancel hshort]
      rfl
    rw [min_eq_left hshort, List.take_of_length_le hshort, hpow, mul_right_comm,
      Nat.mul_div_cancel _ (by positivity), mul_comm]
  · have hpow : 10 ^ fraction.length = 1000000 * 10 ^ (fraction.drop 6).length := by
      rw [List.length_drop, ← Nat.add_sub_of_le hlong, pow_add, Nat.add_sub_cancel_left]
      rfl
    rw [min_eq_right hlong, Nat.sub_self, pow_zero, mul_one, hpow, Nat.mul_div_mul_left _ _ (by decide), hsplit]
    exact Nat.div_eq_of_lt_le (by omega) (by rw [Nat.add_mul, one_mul]; omega)

/-- The zone of a text: UTC, or an offset of hours and minutes ahead of it or behind it. -/
inductive Zone
  | utc
  | offset (behind : Bool) (hours minutes : Fin 100)
  deriving DecidableEq

/-- A text of the shape `YYYY-MM-DDThh:mm:ss`, with a fraction of the second and a zone where it has them. -/
structure InstantText where
  year : Fin 10000
  month : Fin 100
  day : Fin 100
  hour : Fin 100
  minute : Fin 100
  second : Fin 100
  fraction : List (Fin 10)
  zone : Option Zone
  deriving DecidableEq

namespace Zone

/-- The bytes of a zone. -/
def bytes : Zone → List UInt8
  | utc => [ascii 'Z']
  | offset behind hours minutes =>
    ascii (if behind then '-' else '+') :: (twoDigits hours ++ ascii ':' :: twoDigits minutes)

/-- How far the clocks of a zone are ahead of UTC, in microseconds. -/
def micros : Zone → ℤ
  | utc => 0
  | offset behind hours minutes => (if behind then -1 else 1) * (60000000 * (60 * hours + minutes) : ℕ)

end Zone

namespace InstantText

variable (text : InstantText)

/-- The bytes of the date. -/
def dateBytes : List UInt8 := fourDigits text.year ++ ascii '-' :: (twoDigits text.month ++ ascii '-' :: twoDigits text.day)

/-- The bytes of the fraction. -/
def fractionBytes : List UInt8 :=
  if text.fraction = [] then [] else ascii '.' :: text.fraction.map (fun d => digitByte d.val)

/-- The bytes of the clock time. -/
def clockBytes : List UInt8 :=
  twoDigits text.hour ++ ascii ':' :: (twoDigits text.minute ++ ascii ':' :: (twoDigits text.second ++ text.fractionBytes))

/-- The bytes of the zone. -/
def zoneBytes : List UInt8 := text.zone.elim [] Zone.bytes

/-- The bytes of the text. -/
def bytes : List UInt8 := text.dateBytes ++ ascii 'T' :: (text.clockBytes ++ text.zoneBytes)

/-- The clock time of the text. -/
def clock : ClockTime := ⟨text.hour, text.minute, text.second, fractionMicros text.fraction⟩

/-- The offset of the zone. -/
def offset : Option ℤ := text.zone.map Zone.micros

end InstantText

/-- A colon goes on to the next component. -/
theorem following_colon {after : ℕ} {rest : List UInt8} (h : after < rest.length) :
    following true after (ascii ':' :: rest) = some (.component rest) := by
  rw [following, List.tail_cons, if_neg (not_le.mpr h)]
  rfl

/-- A point goes on to the fraction. -/
theorem following_point {after : ℕ} {rest : List UInt8} (h : after < rest.length) :
    following true after (ascii '.' :: rest) = some (.fraction rest) := by
  rw [following, List.tail_cons, if_neg (not_le.mpr h)]
  rfl

/-- A clock time ends before its zone. -/
theorem following_zone (separated : Bool) (zone : List UInt8) :
    following separated zone.length zone = some (.done (peek zone != 0)) := by
  rw [following, if_pos (List.length_tail.trans_le (Nat.sub_le _ _))]

/-- The number of bytes of two digits. -/
theorem length_twoDigits (n : ℕ) : (twoDigits n).length = 2 := rfl

/-- The zone that a zone's bytes are read as. -/
theorem parseZone_bytes (zone : Zone) : ∃ mark rest, zone.bytes = mark :: rest ∧ isZoneMark mark = true ∧
    isDigit mark = false ∧ mark ≠ 0 ∧ parseZone mark rest = some zone.micros := by
  cases zone with
  | utc => exact ⟨ascii 'Z', [], rfl, by decide, by decide, by decide, by decide⟩
  | offset behind hours minutes =>
    have hread : parseClock 0 (twoDigits hours ++ ascii ':' :: twoDigits minutes) =
        some (⟨hours, minutes, 0, 0⟩, false) := by
      have hminutes := parseDigits_twoDigits minutes.isLt []
      have hcolon : following true 0 (ascii ':' :: twoDigits minutes) = some (.component (twoDigits minutes)) :=
        following_colon (Nat.succ_pos 1)
      have hend : following true 0 [] = some (.done false) := following_zone true []
      rw [List.append_nil] at hminutes
      simp only [parseClock, parseDigits_twoDigits hours.isLt, Option.bind_eq_bind, Option.bind_some, peek,
        List.headD_cons, beq_self_eq_true, hcolon, hminutes, hend]
    have hmicros : zoneOffset (ascii (if behind then '-' else '+')) ⟨hours, minutes, 0, 0⟩ =
        (Zone.offset behind hours minutes).micros := by
      unfold zoneOffset Zone.micros
      by_cases hzero : 3600 * hours.val + 60 * minutes.val + 0 = 0
      · have hnone : 60 * hours.val + minutes.val = 0 := by omega
        simp [hzero, hnone]
      · have hsign : (ascii (if behind then '-' else '+') = ascii '-') ↔ behind = true := by cases behind <;> decide
        simp only [if_neg hzero, hsign]
        congr 2
        omega
    refine ⟨_, _, rfl, ?_, ?_, ?_, ?_⟩
    · cases behind <;> decide
    · cases behind <;> decide
    · cases behind <;> decide
    · have hmark : ascii (if behind then '-' else '+') ≠ ascii 'Z' := by cases behind <;> decide
      simp only [parseZone, if_neg hmark, hread, Option.bind_eq_bind, Option.bind_some, hmicros, Bool.false_eq_true,
        if_false]

namespace InstantText

variable (text : InstantText)

/-- Nothing of a zone is a digit, and a zone's first byte marks it. -/
theorem zoneBytes_cases : text.zoneBytes = [] ∧ text.zone = none ∨ ∃ zone mark rest, text.zone = some zone ∧
    text.zoneBytes = mark :: rest ∧ isZoneMark mark = true ∧ isDigit mark = false ∧ mark ≠ 0 ∧
      parseZone mark rest = some zone.micros := by
  unfold zoneBytes
  cases text.zone with
  | none => exact Or.inl ⟨rfl, rfl⟩
  | some zone =>
    obtain ⟨mark, rest, h⟩ := parseZone_bytes zone
    exact Or.inr ⟨zone, mark, rest, rfl, h⟩

/-- A zone follows exactly when the next byte is not the terminator. -/
theorem peek_zoneBytes : (peek text.zoneBytes != 0) = text.zone.isSome := by
  obtain ⟨hbytes, hzone⟩ | ⟨zone, mark, rest, hzone, hbytes, _, _, hmark, _⟩ := text.zoneBytes_cases
  · simp [hbytes, hzone, peek]
  · simp [hbytes, hzone, peek, hmark]

/-- The fraction of a text is read up to its sixth digit. -/
theorem parseFraction_fraction :
    parseFraction text.zoneBytes.length (text.fraction.map (fun d => digitByte d.val) ++ text.zoneBytes) =
      some (fractionMicros text.fraction, text.zone.isSome) := by
  have hlength : (text.fraction.map (fun d => digitByte d.val) ++ text.zoneBytes).length - text.zoneBytes.length =
      text.fraction.length := by simp
  have hread := parseDigitsFrom_map 0 (text.fraction.take 6)
    ((text.fraction.drop 6).map (fun d => digitByte d.val) ++ text.zoneBytes)
  have hskip : ((text.fraction.drop 6).map (fun d => digitByte d.val) ++ text.zoneBytes).dropWhile isDigit =
      text.zoneBytes := by
    rw [List.dropWhile_append_of_pos]
    · obtain ⟨hbytes, _⟩ | ⟨_, mark, rest, _, hbytes, _, hdigit, _, _⟩ := text.zoneBytes_cases
      · rw [hbytes, List.dropWhile_nil]
      · rw [hbytes, List.dropWhile_cons_of_neg (by simp [hdigit])]
    · simp only [List.mem_map, forall_exists_index, and_imp]
      rintro byte d _ rfl
      exact (digitByte_spec d d.isLt).1
  rw [← List.append_assoc, ← List.map_append, List.take_append_drop, List.length_take, min_comm] at hread
  unfold parseFraction parseDigits
  simp only [hlength, hread, Option.bind_eq_bind, Option.bind_some, hskip, peek_zoneBytes]
  rfl

/-- The clock time of a text is read as it is written, with the fraction cut off behind the sixth digit. -/
theorem parseClock_clock :
    parseClock text.zoneBytes.length (text.clockBytes ++ text.zoneBytes) = some (text.clock, text.zone.isSome) := by
  have hminute : following true text.zoneBytes.length
      (ascii ':' :: (twoDigits text.minute ++ ascii ':' :: (twoDigits text.second ++ text.fractionBytes) ++ text.zoneBytes)) =
      some (.component (twoDigits text.minute ++ ascii ':' :: (twoDigits text.second ++ text.fractionBytes) ++
        text.zoneBytes)) :=
    following_colon (by simp [length_twoDigits]; omega)
  have hsecond : following true text.zoneBytes.length
      (ascii ':' :: (twoDigits text.second ++ text.fractionBytes ++ text.zoneBytes)) =
      some (.component (twoDigits text.second ++ text.fractionBytes ++ text.zoneBytes)) :=
    following_colon (by simp [length_twoDigits]; omega)
  simp only [parseClock, clockBytes, List.append_assoc, List.cons_append, parseDigits_twoDigits text.hour.isLt,
    Option.bind_eq_bind, Option.bind_some, peek, List.headD_cons, beq_self_eq_true]
  simp only [List.append_assoc, List.cons_append] at hminute hsecond
  simp only [hminute, parseDigits_twoDigits text.minute.isLt, Option.bind_some, hsecond,
    parseDigits_twoDigits text.second.isLt]
  unfold fractionBytes clock
  by_cases hnone : text.fraction = []
  · rw [if_pos hnone, List.nil_append, following_zone, peek_zoneBytes, hnone]
    rfl
  · have hpoint : following true text.zoneBytes.length
        (ascii '.' :: (text.fraction.map (fun d => digitByte d.val) ++ text.zoneBytes)) =
        some (.fraction (text.fraction.map (fun d => digitByte d.val) ++ text.zoneBytes)) :=
      following_point (by simpa using List.length_pos_iff.mpr hnone)
    rw [if_neg hnone, List.cons_append, hpoint]
    simp only [Option.bind_some, parseFraction_fraction]

/-- No byte of a clock time marks a zone. -/
theorem isZoneMark_clockBytes : ∀ byte ∈ text.clockBytes, isZoneMark byte = false := by
  have hdigit {d : ℕ} (h : d < 10) : isZoneMark (digitByte d) = false := (digitByte_spec d h).2.2.1
  have htwo (n : Fin 100) : ∀ byte ∈ twoDigits n, isZoneMark byte = false := by
    rw [twoDigits, List.forall_mem_cons, List.forall_mem_singleton]
    exact ⟨hdigit (by omega), hdigit (by omega)⟩
  have hfraction : ∀ byte ∈ text.fractionBytes, isZoneMark byte = false := by
    unfold fractionBytes
    split
    · simp
    · rw [List.forall_mem_cons, List.forall_mem_map]
      exact ⟨by decide, fun d _ => hdigit d.isLt⟩
  simp only [clockBytes, List.forall_mem_append, List.forall_mem_cons]
  exact ⟨htwo _, by decide, htwo _, by decide, htwo _, hfraction⟩

/-- The clock time and the zone of a text are read as they are written. -/
theorem parseTime_bytes : parseTime (text.clockBytes ++ text.zoneBytes) = some (text.clock, text.offset) := by
  have hzone : (text.clockBytes ++ text.zoneBytes).dropWhile (fun byte => !isZoneMark byte) = text.zoneBytes := by
    rw [List.dropWhile_append_of_pos (by simpa using text.isZoneMark_clockBytes)]
    obtain ⟨hbytes, _⟩ | ⟨_, mark, rest, _, hbytes, hmark, _⟩ := text.zoneBytes_cases
    · rw [hbytes, List.dropWhile_nil]
    · rw [hbytes, List.dropWhile_cons_of_neg (by simp [hmark])]
  rw [parseTime, hzone, parseClock_clock, Option.bind_eq_bind, Option.bind_some, offset]
  obtain ⟨hbytes, hnone⟩ | ⟨zone, mark, rest, hsome, hbytes, _, _, _, hread⟩ := text.zoneBytes_cases
  · simp [hbytes, hnone]
  · simp [hbytes, hsome, hread]

/-- The date of a text is read as it is written. -/
theorem parseDate_bytes (rest : List UInt8) :
    parseDate 10 (text.dateBytes ++ rest) = Date.make text.year text.month text.day := by
  have hweek : peek (twoDigits text.month ++ ascii '-' :: (twoDigits text.day ++ rest)) ≠ ascii 'W' :=
    (digitByte_spec _ (by omega)).2.2.2.1
  simp only [parseDate, dateBytes, List.append_assoc, List.cons_append, parseDigits_fourDigits text.year.isLt,
    Option.bind_eq_bind, Option.bind_some, peek, List.headD_cons, beq_self_eq_true, if_true, List.tail_cons]
  simp only [peek] at hweek
  simp only [if_neg hweek, parseDigits_twoDigits text.month.isLt, Option.bind_some, List.headD_cons, bne_self_eq_false,
    Bool.and_false, Bool.false_eq_true, if_false, List.tail_cons, parseDigits_twoDigits text.day.isLt]

/-- The date of a text ends before its eleventh byte. -/
theorem findSeparator_bytes : findSeparator text.bytes = some 10 := by
  have hweek : digitByte (text.month / 10) ≠ ascii 'W' := (digitByte_spec _ (by omega)).2.2.2.1
  have hlength : text.bytes.length ≠ 7 := by
    simp [bytes, dateBytes, clockBytes, fourDigits, length_twoDigits]
    omega
  have hdash : text.bytes.getD 4 0 = ascii '-' := rfl
  have hmonth : text.bytes.getD 5 0 = digitByte (text.month / 10) := rfl
  rw [findSeparator, if_neg hlength, if_pos hdash, hmonth, if_neg hweek]

/-- The text itself. -/
def toString : String := String.ofList (text.bytes.map byteChar)

/-- The text has no blanks, and nothing that is not ASCII. -/
theorem isGraphic_bytes : ∀ byte ∈ text.bytes, isGraphic byte = true := by
  have hdigit {d : ℕ} (h : d < 10) : isGraphic (digitByte d) = true := (digitByte_spec d h).2.2.2.2
  have htwo {n : ℕ} (h : n < 100) : ∀ byte ∈ twoDigits n, isGraphic byte = true := by
    rw [twoDigits, List.forall_mem_cons, List.forall_mem_singleton]
    exact ⟨hdigit (by omega), hdigit (by omega)⟩
  have hfraction : ∀ byte ∈ text.fractionBytes, isGraphic byte = true := by
    unfold fractionBytes
    split
    · simp
    · rw [List.forall_mem_cons, List.forall_mem_map]
      exact ⟨by decide, fun d _ => hdigit d.isLt⟩
  have hzone : ∀ byte ∈ text.zoneBytes, isGraphic byte = true := by
    unfold zoneBytes
    cases text.zone with
    | none => simp
    | some zone =>
      cases zone with
      | utc => exact List.all_eq_true.mp rfl
      | offset behind hours minutes =>
        simp only [Option.elim_some, Zone.bytes, List.forall_mem_cons, List.forall_mem_append]
        exact ⟨by cases behind <;> decide, htwo hours.isLt, by decide, htwo minutes.isLt⟩
  simp only [bytes, dateBytes, clockBytes, fourDigits, List.forall_mem_append, List.forall_mem_cons]
  exact ⟨⟨⟨htwo (by omega), htwo (by omega)⟩, by decide, htwo text.month.isLt, by decide, htwo text.day.isLt⟩, by decide,
    ⟨htwo text.hour.isLt, by decide, htwo text.minute.isLt, by decide, htwo text.second.isLt, hfraction⟩, hzone⟩

/-- The bytes of the text are its UTF-8 encoding. -/
theorem utf8Encode_toString : utf8Encode text.toString = text.bytes := by
  have hbytes (raw : List UInt8) (h : ∀ byte ∈ raw, isGraphic byte = true) :
      (raw.map byteChar).flatMap String.utf8EncodeChar = raw := by
    induction raw with
    | nil => rfl
    | cons byte raw ih =>
      rw [List.forall_mem_cons] at h
      obtain ⟨hascii, hcode, _⟩ := isGraphic_spec h.1
      rw [List.map_cons, List.flatMap_cons, utf8EncodeChar_of_ascii hascii, hcode, ih h.2, List.singleton_append]
  rw [utf8Encode_eq, toString, String.toList_ofList, hbytes _ text.isGraphic_bytes]

/-- The text is read as the date, the clock time and the offset that it writes, where there are such. -/
theorem fromisoformat_toString :
    fromisoformat text.toString =
      (Date.make text.year text.month text.day).bind fun date => makeInstant date text.clock text.offset := by
  have hlength : 11 < text.bytes.length := by
    simp [bytes, dateBytes, clockBytes, fourDigits, length_twoDigits]
    omega
  have hdrop : text.bytes.drop (10 + width (text.bytes.getD 10 0)) = text.clockBytes ++ text.zoneBytes := rfl
  have hdate : parseDate 10 text.bytes = Date.make text.year text.month text.day := text.parseDate_bytes _
  simp only [fromisoformat, utf8Encode_toString, if_neg (show ¬ text.bytes.length < 7 by omega), findSeparator_bytes,
    Option.bind_eq_bind, Option.bind_some, hdate, if_pos (show 10 < text.bytes.length by omega), hdrop, parseTime_bytes]

/-- Blanks around the text are stripped. -/
theorem strip_pad {before after : List Char} (hbefore : ∀ c ∈ before, isSpace c = true)
    (hafter : ∀ c ∈ after, isSpace c = true) :
    strip (String.ofList (before ++ (text.toString.toList ++ after))) = text.toString := by
  rw [strip, String.toList_ofList, stripBlanks_pad hbefore hafter, String.ofList_toList]
  rw [toString, String.toList_ofList, List.forall_mem_map]
  exact fun byte hbyte => (isGraphic_spec (text.isGraphic_bytes byte hbyte)).2.2

end InstantText

end IsoFormat
