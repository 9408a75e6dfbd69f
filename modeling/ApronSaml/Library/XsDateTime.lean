import ApronSaml.Library.IsoTexts
import Mathlib.Data.Rat.Floor
import Mathlib.Tactic.FieldSimp
import Mathlib.Tactic.Positivity
import Mathlib.Tactic.NormNum

/-!
# The value space of `xs:dateTime`

The texts of `xs:dateTime` with unsigned years of four digits, and the rational number of
seconds that each stands for. Of a text whose fields are in the ranges of the calendar and
the clock, `fromisoformat` returns that number in microseconds, rounded down; of any other
it returns nothing. The end of a day, `24:00:00`, is a text of the type that is out of the
clock's range, and with such a year the only one. Every instant of whole minutes' offset
has a text, and is read back from it.
-/

namespace IsoFormat

open Chronology Calendar

namespace InstantText

variable (text : InstantText)

/-- The fields are in the ranges of the calendar and the clock, and the offset is less than a day. -/
def InRange : Prop :=
  (1 ≤ text.year.val ∧ (1 ≤ text.month.val ∧ text.month.val ≤ 12) ∧
    1 ≤ text.day.val ∧ text.day.val ≤ daysInMonth text.year text.month) ∧
  (text.hour.val < 24 ∧ text.minute.val < 60 ∧ text.second.val < 60) ∧
  ∀ offset ∈ text.offset, -dayMicros < offset ∧ offset < dayMicros

instance : Decidable text.InRange := inferInstanceAs (Decidable (_ ∧ _ ∧ _))

/-- The days from the first of January of year 1 to the date. -/
def days : ℤ := (daysBeforeYear text.year + daysBeforeMonth (isLeap text.year) text.month + text.day : ℕ) - 1

/-- The seconds of the day. -/
def daySeconds : ℕ := 3600 * text.hour + 60 * text.minute + text.second

/-- What the text stands for, in seconds from the start of year 1 in UTC; a text without a zone is read as UTC. -/
def seconds : ℚ :=
  86400 * text.days + text.daySeconds + value text.fraction / 10 ^ text.fraction.length - text.offset.getD 0 / 1000000

/-- A fraction has less than a million microseconds. -/
theorem fractionMicros_lt (fraction : List (Fin 10)) : fractionMicros fraction < 1000000 := by
  rw [fractionMicros_eq, Nat.div_lt_iff_lt_mul (by positivity)]
  have hlt := value_lt fraction
  omega

/-- A text in range is read as its date, clock time and offset. -/
theorem fromisoformat_of_inRange (h : text.InRange) : ∃ parsed, fromisoformat text.toString = some parsed ∧
    parsed.utcoffset = text.offset ∧
      parsed.wall = text.days * dayMicros + (1000000 * text.daySeconds + fractionMicros text.fraction : ℕ) := by
  obtain ⟨hdate, ⟨hhour, hminute, hsecond⟩, hoffset⟩ := h
  have hyear : text.year.val ≤ 9999 := by omega
  have hclock : text.clock.Valid := ⟨hhour, hminute, hsecond, fractionMicros_lt _⟩
  refine ⟨instantOf ⟨_, _, _, hdate.1, hdate.2.1, hdate.2.2⟩ text.clock text.offset hyear hclock hoffset, ?_, rfl, ?_⟩
  · rw [fromisoformat_toString, Date.make, dif_pos hdate, if_pos hyear, Option.bind_some, makeInstant,
      dif_pos ⟨hyear, hclock, hoffset⟩]
  · have hpos := Date.ordinal_pos ⟨_, _, _, hdate.1, hdate.2.1, hdate.2.2⟩
    simp only [instantOf, days, Date.ordinal, ClockTime.micros, clock, daySeconds] at hpos ⊢
    rw [Nat.cast_sub hpos]
    push_cast
    rfl

/-- A text that is not in range is not read. -/
theorem fromisoformat_of_not_inRange (h : ¬ text.InRange) : fromisoformat text.toString = none := by
  rw [fromisoformat_toString, Option.bind_eq_none_iff]
  intro date hdate
  rw [Date.make] at hdate
  by_cases hcalendar : 1 ≤ text.year.val ∧ (1 ≤ text.month.val ∧ text.month.val ≤ 12) ∧
      1 ≤ text.day.val ∧ text.day.val ≤ daysInMonth text.year text.month
  · rw [makeInstant, dif_neg]
    intro hvalid
    obtain ⟨_, ⟨hhour, hminute, hsecond, _⟩, hoffset⟩ := hvalid
    exact h ⟨hcalendar, ⟨hhour, hminute, hsecond⟩, hoffset⟩
  · rw [dif_neg hcalendar] at hdate
    exact absurd hdate (by simp)

/-- An instant that is read lies on the UTC line where the text says, rounded down to the microsecond. -/
theorem utc_eq_floor {parsed : DateTime} (hoffset : parsed.utcoffset = text.offset)
    (hwall : parsed.wall = text.days * dayMicros + (1000000 * text.daySeconds + fractionMicros text.fraction : ℕ)) :
    parsed.utc = ⌊1000000 * text.seconds⌋ := by
  have hsplit : 1000000 * text.seconds =
      (text.days * dayMicros + (1000000 * text.daySeconds : ℕ) - text.offset.getD 0 : ℤ) +
        ((1000000 * value text.fraction : ℕ) : ℚ) / (10 ^ text.fraction.length : ℕ) := by
    unfold seconds dayMicros
    push_cast
    ring
  rw [hsplit, Int.floor_intCast_add, Rat.floor_natCast_div_natCast, DateTime.utc, hoffset, hwall, fractionMicros_eq]
  push_cast
  ring

/-- The text is one of `xs:dateTime`: a date of the calendar, a time of the day or its end, and a zone that is at
most fourteen hours from UTC. -/
structure Lexical : Prop where
  year : 1 ≤ text.year.val
  month : 1 ≤ text.month.val ∧ text.month.val ≤ 12
  day : 1 ≤ text.day.val ∧ text.day.val ≤ daysInMonth text.year text.month
  time : text.hour.val < 24 ∧ text.minute.val < 60 ∧ text.second.val < 60 ∨
    text.hour.val = 24 ∧ text.minute.val = 0 ∧ text.second.val = 0 ∧ ∀ digit ∈ text.fraction, digit = 0
  zone : ∀ offset ∈ text.offset, |offset| ≤ 14 * 3600000000

variable {text}

/-- Of the texts of the type with an unsigned year of four digits, only the end of a day is out of range. -/
theorem Lexical.inRange_iff (h : text.Lexical) : text.InRange ↔ text.hour.val ≠ 24 := by
  constructor
  · rintro ⟨_, ⟨hhour, _⟩, _⟩
    omega
  · intro hhour
    have htime : text.hour.val < 24 ∧ text.minute.val < 60 ∧ text.second.val < 60 :=
      h.time.resolve_right fun hend => hhour hend.1
    refine ⟨⟨h.year, h.month, h.day⟩, htime, fun offset hoffset => ?_⟩
    obtain ⟨hlower, hupper⟩ := abs_le.mp (h.zone offset hoffset)
    unfold dayMicros
    omega

end InstantText

/-- A number below a million in six digits. -/
def sixDigits (n : ℕ) : List (Fin 10) :=
  [Fin.ofNat 10 (n / 100000), Fin.ofNat 10 (n / 10000), Fin.ofNat 10 (n / 1000), Fin.ofNat 10 (n / 100),
    Fin.ofNat 10 (n / 10), Fin.ofNat 10 n]

/-- Six digits have the value that was written. -/
theorem fractionMicros_sixDigits {n : ℕ} (h : n < 1000000) : fractionMicros (sixDigits n) = n := by
  simp only [fractionMicros, sixDigits, value, List.take_succ_cons, List.take_zero, List.foldl_cons, List.foldl_nil,
    List.length_cons, List.length_nil, Fin.val_ofNat, Nat.reduceAdd, min_self, Nat.sub_self, pow_zero, mul_one]
  omega

/-- The zone of an offset of whole minutes. -/
def zoneOf (offset : ℤ) : Zone :=
  if offset = 0 then .utc
  else .offset (offset < 0) (Fin.ofNat 100 (offset.natAbs / 3600000000))
    (Fin.ofNat 100 (offset.natAbs / 60000000 % 60))

/-- The zone of an offset of whole minutes that is less than a day has that offset. -/
theorem micros_zoneOf {offset : ℤ} (hminutes : 60000000 ∣ offset) (hday : -dayMicros < offset ∧ offset < dayMicros) :
    (zoneOf offset).micros = offset := by
  obtain ⟨minutes, rfl⟩ := hminutes
  unfold dayMicros at hday
  unfold zoneOf
  split
  · next hzero => exact hzero.symm
  · simp only [Zone.micros, Fin.val_ofNat, decide_eq_true_eq]
    split <;> omega

/-- The text of an instant, to the microsecond. -/
def InstantText.write (a : DateTime) : InstantText :=
  let date := Date.ofDays (a.wall / dayMicros).toNat
  let micros := (a.wall % dayMicros).toNat
  { year := Fin.ofNat 10000 date.year
    month := Fin.ofNat 100 date.month
    day := Fin.ofNat 100 date.day
    hour := Fin.ofNat 100 (micros / 3600000000)
    minute := Fin.ofNat 100 (micros / 60000000 % 60)
    second := Fin.ofNat 100 (micros / 1000000 % 60)
    fraction := sixDigits (micros % 1000000)
    zone := a.utcoffset.map zoneOf }

namespace InstantText

/-- The days and the microseconds of the day that a wall clock shows. -/
theorem wall_eq (a : DateTime) : (a.wall / dayMicros).toNat < 3652059 ∧ (a.wall % dayMicros).toNat < 86400000000 ∧
    a.wall = (a.wall / dayMicros).toNat * dayMicros + (a.wall % dayMicros).toNat := by
  have hnonneg := a.wall_nonneg
  have hlt := a.wall_lt
  unfold calendarMicros dayMicros at hlt
  unfold dayMicros
  omega

/-- The fields of a written instant are its date and the parts of its clock time. -/
theorem write_fields (a : DateTime) :
    (write a).days = (a.wall / dayMicros).toNat ∧
      1000000 * (write a).daySeconds + fractionMicros (write a).fraction = (a.wall % dayMicros).toNat ∧
      (1 ≤ (write a).year.val ∧ (1 ≤ (write a).month.val ∧ (write a).month.val ≤ 12) ∧
        1 ≤ (write a).day.val ∧ (write a).day.val ≤ daysInMonth (write a).year (write a).month) ∧
      ((write a).hour.val < 24 ∧ (write a).minute.val < 60 ∧ (write a).second.val < 60) := by
  obtain ⟨hdays, hmicros, _⟩ := wall_eq a
  have hordinal := Date.ordinal_ofDays (a.wall / dayMicros).toNat
  have hyear := (Date.ordinal_le_iff (Date.ofDays (a.wall / dayMicros).toNat)).mp (by omega)
  unfold write
  generalize Date.ofDays (a.wall / dayMicros).toNat = date at *
  generalize (a.wall % dayMicros).toNat = micros at *
  have hmonth := date.month_mem
  have hday := date.day_mem
  have hlength := monthLength_lt (isLeap date.year) date.month
  have hyearVal : date.year % 10000 = date.year := Nat.mod_eq_of_lt (by omega)
  have hmonthVal : date.month % 100 = date.month := Nat.mod_eq_of_lt (by omega)
  have hdayVal : date.day % 100 = date.day := Nat.mod_eq_of_lt (by unfold daysInMonth at hday; omega)
  have hfraction := fractionMicros_sixDigits (Nat.mod_lt micros (by decide : 1000000 > 0))
  simp only [days, daySeconds, Fin.val_ofNat, hyearVal, hmonthVal, hdayVal, hfraction]
  refine ⟨?_, by omega, ⟨date.year_pos, hmonth, hday⟩, by omega⟩
  simp only [Date.ordinal] at hordinal
  omega

/-- An instant with an offset of whole minutes is read back from its text. -/
theorem fromisoformat_write {a : DateTime} (hminutes : ∀ offset ∈ a.utcoffset, 60000000 ∣ offset) :
    fromisoformat (write a).toString = some a := by
  obtain ⟨_, _, hwall⟩ := wall_eq a
  obtain ⟨hdays, hmicros, hdate, hclock⟩ := write_fields a
  have hzone : (write a).offset = a.utcoffset := by
    unfold write offset
    cases hoffset : a.utcoffset with
    | none => rfl
    | some offset =>
      have hmicros := micros_zoneOf (hminutes offset hoffset) (a.offset_bound offset hoffset)
      simp only [Option.map_some, hmicros]
  obtain ⟨parsed, hread, hparsedOffset, hparsedWall⟩ :=
    (write a).fromisoformat_of_inRange ⟨hdate, hclock, fun offset h => a.offset_bound offset (hzone ▸ h)⟩
  rw [hdays, hmicros, ← hwall] at hparsedWall
  rw [hzone] at hparsedOffset
  obtain ⟨wall, utcoffset, _, _, _⟩ := parsed
  obtain ⟨wall', utcoffset', _, _, _⟩ := a
  obtain rfl : wall = wall' := hparsedWall
  obtain rfl : utcoffset = utcoffset' := hparsedOffset
  exact hread

end InstantText

end IsoFormat
