import ApronSaml.Library.Calendar
import ApronSaml.Library.Chronology
import ApronSaml.Library.TextEncoding

/-!
# ISO 8601 texts of instants

`datetime.fromisoformat` of CPython 3.11, over the bytes of a text. The reader takes a
date of the calendar or of the week calendar, any one character, a clock time with an
optional fraction, and an optional zone; it reads digits beyond the sixth of a fraction
without looking at them, and past a complete fraction whatever comes before the zone.
-/

namespace IsoFormat

open Chronology Calendar TextEncoding

/-- The byte of an ASCII character. -/
def ascii (c : Char) : UInt8 := UInt8.ofNat c.toNat

/-- An ASCII digit. -/
def isDigit (byte : UInt8) : Bool := 0x30 ≤ byte && byte ≤ 0x39

/-- The next byte, and the terminator behind the text. -/
def peek (text : List UInt8) : UInt8 := text.headD 0

/-- `parse_digits(ptr, &value, n)`: a number of so many digits after a number that was read before. -/
def parseDigitsFrom (value : ℕ) : ℕ → List UInt8 → Option (ℕ × List UInt8)
  | 0, text => some (value, text)
  | _ + 1, [] => none
  | n + 1, byte :: text => if isDigit byte then parseDigitsFrom (10 * value + (byte.toNat - 48)) n text else none

/-- A number of so many digits. -/
def parseDigits (n : ℕ) (text : List UInt8) : Option (ℕ × List UInt8) := parseDigitsFrom 0 n text

/-- A clock time. -/
structure ClockTime where
  hour : ℕ
  minute : ℕ
  second : ℕ
  microsecond : ℕ
  deriving DecidableEq

/-- What follows a component of a clock time. -/
inductive Following
  | done (more : Bool)
  | fraction (text : List UInt8)
  | component (text : List UInt8)

/-- The step behind a component, in a clock time that ends where `after` bytes are left. -/
def following (separated : Bool) (after : ℕ) (text : List UInt8) : Option Following :=
  if text.tail.length ≤ after then some (.done (peek text != 0))
  else if separated && peek text == ascii ':' then some (.component text.tail)
  else if peek text == ascii '.' || peek text == ascii ',' then some (.fraction text.tail)
  else if separated then none
  else some (.component text)

/-- The microseconds of a fraction, and whether anything but digits follows it. -/
def parseFraction (after : ℕ) (text : List UInt8) : Option (ℕ × Bool) := do
  let toParse := min (text.length - after) 6
  let (digits, text) ← parseDigits toParse text
  some (digits * 10 ^ (6 - toParse), peek (text.dropWhile isDigit) != 0)

/-- `parse_hh_mm_ss_ff(tstr, tstr_end, …)`, and whether anything is left that was not read. -/
def parseClock (after : ℕ) (text : List UInt8) : Option (ClockTime × Bool) := do
  let (hour, text) ← parseDigits 2 text
  let separated := peek text == ascii ':'
  match ← following separated after text with
  | .done more => some (⟨hour, 0, 0, 0⟩, more)
  | .fraction text =>
    let (microsecond, more) ← parseFraction after text
    some (⟨hour, 0, 0, microsecond⟩, more)
  | .component text =>
    let (minute, text) ← parseDigits 2 text
    match ← following separated after text with
    | .done more => some (⟨hour, minute, 0, 0⟩, more)
    | .fraction text =>
      let (microsecond, more) ← parseFraction after text
      some (⟨hour, minute, 0, microsecond⟩, more)
    | .component text =>
      let (second, text) ← parseDigits 2 text
      match ← following separated after text with
      | .done more => some (⟨hour, minute, second, 0⟩, more)
      | .fraction text | .component text =>
        let (microsecond, more) ← parseFraction after text
        some (⟨hour, minute, second, microsecond⟩, more)

/-- The byte starts a zone. -/
def isZoneMark (byte : UInt8) : Bool := byte == ascii '+' || byte == ascii '-' || byte == ascii 'Z'

/-- The offset of a zone, in microseconds; one of less than a second is dropped. -/
def zoneOffset (mark : UInt8) (offset : ClockTime) : ℤ :=
  let seconds := 3600 * offset.hour + 60 * offset.minute + offset.second
  if seconds = 0 then 0
  else (if mark = ascii '-' then -1 else 1) * (1000000 * seconds + offset.microsecond : ℕ)

/-- The offset from UTC that a zone stands for. -/
def parseZone (mark : UInt8) (zone : List UInt8) : Option ℤ :=
  if mark = ascii 'Z' then if peek zone = 0 then some 0 else none
  else do
    let (offset, more) ← parseClock 0 zone
    if more then none else some (zoneOffset mark offset)

/-- `parse_isoformat_time(dtstr, dtlen, …)`: a clock time and the offset it names. -/
def parseTime (text : List UInt8) : Option (ClockTime × Option ℤ) := do
  let (clock, more) ← parseClock (text.dropWhile fun byte => !isZoneMark byte).length text
  match text.dropWhile fun byte => !isZoneMark byte with
  | [] => if more then none else some (clock, none)
  | mark :: zone => do
    let offset ← parseZone mark zone
    some (clock, some offset)

/-- `iso_to_ymd(year, week, day)`: a day of the week calendar. -/
def ofIsoWeek (year week day : ℕ) : Option Date :=
  if 1 ≤ year ∧ year ≤ 9999 ∧ 1 ≤ day ∧ day ≤ 7 ∧ 1 ≤ week then
    let weekday := (daysBeforeYear year) % 7
    if week ≤ 52 ∨ week = 53 ∧ (weekday = 3 ∨ weekday = 2 ∧ isLeap year) then
      let monday := daysBeforeYear year + (if 3 < weekday then 7 else 0) - weekday
      let date := Date.ofDays (monday + (week - 1) * 7 + (day - 1))
      if date.year ≤ 9999 then some date else none
    else none
  else none

/-- `parse_isoformat_date(dtstr, len, …)`: the date at the front of a text, up to the separator. -/
def parseDate (len : ℕ) (text : List UInt8) : Option Date := do
  let (year, text) ← parseDigits 4 text
  let dashed := peek text == ascii '-'
  let text := if dashed then text.tail else text
  if peek text = ascii 'W' then do
    let (week, text) ← parseDigits 2 text.tail
    if (if dashed then 8 else 7) < len then do
      if dashed && peek text != ascii '-' then none
      else do
        let (day, _) ← parseDigits 1 (if dashed then text.tail else text)
        ofIsoWeek year week day
    else ofIsoWeek year week 1
  else do
    let (month, text) ← parseDigits 2 text
    if dashed && peek text != ascii '-' then none
    else do
      let (day, _) ← parseDigits 2 (if dashed then text.tail else text)
      Date.make year month day

/-- `_find_isoformat_datetime_separator(dtstr, len)`: where the date ends. -/
def findSeparator (text : List UInt8) : Option ℕ :=
  if text.length = 7 then some 7
  else if text.getD 4 0 = ascii '-' then
    if text.getD 5 0 = ascii 'W' then
      if 8 < text.length ∧ text.getD 8 0 = ascii '-' then
        if text.length = 9 then none
        else if 10 < text.length ∧ isDigit (text.getD 10 0) then some 8
        else some 10
      else some 8
    else some 10
  else if text.getD 4 0 = ascii 'W' then
    let pos := 7 + ((text.drop 7).takeWhile isDigit).length
    if pos < 9 then some pos else if pos % 2 = 0 then some 7 else some 8
  else some 8

/-- How many bytes the character at the front takes. -/
def width (lead : UInt8) : ℕ :=
  if lead < 0x80 then 1 else if lead &&& 0xf0 = 0xe0 then 3 else if lead &&& 0xf0 = 0xf0 then 4 else 2

/-- Microseconds of a day. -/
def ClockTime.micros (clock : ClockTime) : ℕ :=
  1000000 * (3600 * clock.hour + 60 * clock.minute + clock.second) + clock.microsecond

/-- The parts are in the range of a clock. -/
def ClockTime.Valid (clock : ClockTime) : Prop :=
  clock.hour < 24 ∧ clock.minute < 60 ∧ clock.second < 60 ∧ clock.microsecond < 1000000

instance (clock : ClockTime) : Decidable clock.Valid := inferInstanceAs (Decidable (_ ∧ _))

/-- A valid clock time lies within the day. -/
theorem ClockTime.Valid.micros_lt {clock : ClockTime} (h : clock.Valid) : clock.micros < 86400000000 := by
  obtain ⟨hhour, hminute, hsecond, hmicrosecond⟩ := h
  unfold ClockTime.micros
  omega

/-- The instant of a date, a clock time and an offset. -/
def instantOf (date : Date) (clock : ClockTime) (offset : Option ℤ) (hyear : date.year ≤ 9999) (hclock : clock.Valid)
    (hoffset : ∀ o ∈ offset, -dayMicros < o ∧ o < dayMicros) : DateTime where
  wall := (date.ordinal - 1 : ℕ) * dayMicros + clock.micros
  utcoffset := offset
  wall_nonneg := by
    unfold dayMicros
    omega
  wall_lt := by
    have hordinal := date.ordinal_le_iff.mpr hyear
    have hpos := date.ordinal_pos
    have hmicros := hclock.micros_lt
    unfold calendarMicros dayMicros
    omega
  offset_bound := hoffset

/-- `datetime(year, month, day, hour, minute, second, microsecond, tzinfo)`. -/
def makeInstant (date : Date) (clock : ClockTime) (offset : Option ℤ) : Option DateTime :=
  if h : date.year ≤ 9999 ∧ clock.Valid ∧ ∀ o ∈ offset, -dayMicros < o ∧ o < dayMicros then
    some (instantOf date clock offset h.1 h.2.1 h.2.2)
  else none

/-- `datetime.fromisoformat(value)`, where it raises no `ValueError`. -/
def fromisoformat (value : String) : Option DateTime := do
  let text := utf8Encode value
  if text.length < 7 then none
  else do
    let separator ← findSeparator text
    let date ← parseDate separator text
    if separator < text.length then do
      let (clock, offset) ← parseTime (text.drop (separator + width (text.getD separator 0)))
      makeInstant date clock offset
    else makeInstant date ⟨0, 0, 0, 0⟩ none

end IsoFormat
