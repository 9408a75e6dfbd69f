import Mathlib.Order.Basic
import Mathlib.Tactic.NormNum

/-!
# The proleptic Gregorian calendar

Dates of Python's `datetime` module and their ordinals, which count the days from the
first of January of year 1 on. Every positive ordinal is that of a date, and a date lies in
the years that the module represents exactly when its ordinal is in range.
-/

namespace Calendar

/-- `_is_leap(year)`. -/
def isLeap (year : ℕ) : Bool := year % 4 == 0 && (year % 100 != 0 || year % 400 == 0)

/-- The days of a common year, or of a leap year. -/
def yearLength (leap : Bool) : ℕ := if leap then 366 else 365

/-- The days of a month of a common year, or of a leap year. -/
def monthLength (leap : Bool) : ℕ → ℕ
  | 1 | 3 | 5 | 7 | 8 | 10 | 12 => 31
  | 4 | 6 | 9 | 11 => 30
  | 2 => if leap then 29 else 28
  | _ => 0

/-- `_days_in_month(year, month)`. -/
def daysInMonth (year month : ℕ) : ℕ := monthLength (isLeap year) month

/-- `_days_before_year(year)`. -/
def daysBeforeYear (year : ℕ) : ℕ := (year - 1) * 365 + (year - 1) / 4 - (year - 1) / 100 + (year - 1) / 400

/-- `_days_before_month(year, month)`, by the kind of the year. -/
def daysBeforeMonth (leap : Bool) (month : ℕ) : ℕ :=
  [0, 31, 59, 90, 120, 151, 181, 212, 243, 273, 304, 334].getD (month - 1) 0 + if 2 < month ∧ leap then 1 else 0

/-- A date that the calendar has. -/
structure Date where
  year : ℕ
  month : ℕ
  day : ℕ
  year_pos : 1 ≤ year
  month_mem : 1 ≤ month ∧ month ≤ 12
  day_mem : 1 ≤ day ∧ day ≤ daysInMonth year month

/-- `_check_date_fields(year, month, day)`. -/
def Date.make (year month day : ℕ) : Option Date :=
  if h : 1 ≤ year ∧ (1 ≤ month ∧ month ≤ 12) ∧ 1 ≤ day ∧ day ≤ daysInMonth year month then
    if year ≤ 9999 then some ⟨year, month, day, h.1, h.2.1, h.2.2⟩ else none
  else none

/-- `_ymd2ord(year, month, day)`. -/
def Date.ordinal (date : Date) : ℕ :=
  daysBeforeYear date.year + daysBeforeMonth (isLeap date.year) date.month + date.day

/-- The year of a day that is counted from zero, and the day's place in the year. -/
def splitYear (n : ℕ) : ℕ × ℕ :=
  let n400 := n / 146097
  let n100 := n % 146097 / 36524
  let n4 := n % 146097 % 36524 / 1461
  let n1 := n % 146097 % 36524 % 1461 / 365
  let year := n400 * 400 + 1 + n100 * 100 + n4 * 4 + n1
  if n1 = 4 ∨ n100 = 4 then (year - 1, 365) else (year, n % 146097 % 36524 % 1461 % 365)

/-- The month of a day of the year, by an estimate that is exact or one too large, and the day of the month. -/
def splitMonth (leap : Bool) (n : ℕ) : ℕ × ℕ :=
  let month := (n + 50) / 32
  if n < daysBeforeMonth leap month then (month - 1, n - daysBeforeMonth leap (month - 1) + 1)
  else (month, n - daysBeforeMonth leap month + 1)

/-- The parts of a day's place in the year. -/
theorem splitMonth_spec : ∀ leap, ∀ n < yearLength leap,
    (1 ≤ (splitMonth leap n).1 ∧ (splitMonth leap n).1 ≤ 12) ∧
      (1 ≤ (splitMonth leap n).2 ∧ (splitMonth leap n).2 ≤ monthLength leap (splitMonth leap n).1) ∧
      daysBeforeMonth leap (splitMonth leap n).1 + (splitMonth leap n).2 = n + 1
  | false => by
    have h : ∀ n < 365, (1 ≤ (splitMonth false n).1 ∧ (splitMonth false n).1 ≤ 12) ∧
      (1 ≤ (splitMonth false n).2 ∧ (splitMonth false n).2 ≤ monthLength false (splitMonth false n).1) ∧
      daysBeforeMonth false (splitMonth false n).1 + (splitMonth false n).2 = n + 1 := by decide +kernel
    exact h
  | true => by
    have h : ∀ n < 366, (1 ≤ (splitMonth true n).1 ∧ (splitMonth true n).1 ≤ 12) ∧
      (1 ≤ (splitMonth true n).2 ∧ (splitMonth true n).2 ≤ monthLength true (splitMonth true n).1) ∧
      daysBeforeMonth true (splitMonth true n).1 + (splitMonth true n).2 = n + 1 := by decide +kernel
    exact h

/-- A year by its place in the cycles of 400, 100 and 4 years. -/
theorem daysBeforeYear_cycles {n400 n100 n4 n1 : ℕ} (h100 : n100 < 4) (h4 : n4 < 25) (h1 : n1 < 4) :
    daysBeforeYear (400 * n400 + 100 * n100 + 4 * n4 + n1 + 1) =
      146097 * n400 + 36524 * n100 + 1461 * n4 + 365 * n1 := by
  have hdiv4 : (400 * n400 + 100 * n100 + 4 * n4 + n1) / 4 = 100 * n400 + 25 * n100 + n4 := by omega
  have hdiv100 : (400 * n400 + 100 * n100 + 4 * n4 + n1) / 100 = 4 * n400 + n100 := by omega
  have hdiv400 : (400 * n400 + 100 * n100 + 4 * n4 + n1) / 400 = n400 := by omega
  rw [daysBeforeYear, Nat.add_sub_cancel, hdiv4, hdiv100, hdiv400]
  omega

/-- Which years of a cycle are leap years. -/
theorem isLeap_cycles {n400 n100 n4 n1 : ℕ} (h100 : n100 < 4) (h4 : n4 < 25) (h1 : n1 < 4) :
    isLeap (400 * n400 + 100 * n100 + 4 * n4 + n1 + 1) = true ↔ n1 = 3 ∧ (n4 ≠ 24 ∨ n100 = 3) := by
  simp only [isLeap, Bool.and_eq_true, Bool.or_eq_true, beq_iff_eq, bne_iff_ne]
  omega

/-- The parts of a day that is counted from zero, by their place in the cycles: only the last day of a leap year
has a 366th place in its year. -/
theorem splitYear_cycles (n : ℕ) : ∃ n400 n100 n4 n1 day, n100 < 4 ∧ n4 < 25 ∧ n1 < 4 ∧
    splitYear n = (400 * n400 + 100 * n100 + 4 * n4 + n1 + 1, day) ∧
      n = 146097 * n400 + 36524 * n100 + 1461 * n4 + 365 * n1 + day ∧
      (day < 365 ∨ day = 365 ∧ n1 = 3 ∧ (n4 ≠ 24 ∨ n100 = 3)) := by
  have h400 := Nat.div_add_mod n 146097
  have h100 := Nat.div_add_mod (n % 146097) 36524
  have h4 := Nat.div_add_mod (n % 146097 % 36524) 1461
  have h1 := Nat.div_add_mod (n % 146097 % 36524 % 1461) 365
  have hlt400 := Nat.mod_lt n (by decide : 146097 > 0)
  have hlt100 := Nat.mod_lt (n % 146097) (by decide : 36524 > 0)
  have hlt4 := Nat.mod_lt (n % 146097 % 36524) (by decide : 1461 > 0)
  have hlt1 := Nat.mod_lt (n % 146097 % 36524 % 1461) (by decide : 365 > 0)
  unfold splitYear
  generalize n % 146097 % 36524 % 1461 % 365 = r1 at *
  generalize n % 146097 % 36524 % 1461 / 365 = n1 at *
  generalize n % 146097 % 36524 % 1461 = r4 at *
  generalize n % 146097 % 36524 / 1461 = n4 at *
  generalize n % 146097 % 36524 = r100 at *
  generalize n % 146097 / 36524 = n100 at *
  generalize n % 146097 = r400 at *
  generalize n / 146097 = n400 at *
  by_cases hn100 : n100 = 4
  · refine ⟨n400, 3, 24, 3, 365, by decide, by decide, by decide, ?_, by omega, Or.inr ⟨rfl, rfl, Or.inr rfl⟩⟩
    simp only [hn100, or_true, if_true, Prod.mk.injEq, and_true]
    omega
  · by_cases hn1 : n1 = 4
    · refine ⟨n400, n100, n4, 3, 365, by omega, by omega, by decide, ?_, by omega, Or.inr ⟨rfl, rfl, by omega⟩⟩
      simp only [hn1, true_or, if_true, Prod.mk.injEq, and_true]
      omega
    · refine ⟨n400, n100, n4, n1, r1, by omega, by omega, by omega, ?_, by omega, Or.inl hlt1⟩
      simp only [hn1, hn100, or_self, if_false, Prod.mk.injEq, and_true]
      omega

/-- The parts of a day that is counted from zero. -/
theorem splitYear_spec (n : ℕ) :
    1 ≤ (splitYear n).1 ∧ daysBeforeYear (splitYear n).1 + (splitYear n).2 = n ∧
      (splitYear n).2 < yearLength (isLeap (splitYear n).1) := by
  obtain ⟨n400, n100, n4, n1, day, h100, h4, h1, hsplit, hn, hday⟩ := splitYear_cycles n
  rw [hsplit]
  refine ⟨Nat.le_add_left 1 _, by rw [daysBeforeYear_cycles h100 h4 h1, hn], ?_⟩
  rw [yearLength]
  obtain hday | ⟨rfl, hleap⟩ := hday
  · split <;> omega
  · rw [if_pos ((isLeap_cycles h100 h4 h1).mpr hleap)]
    exact Nat.lt_succ_self 365

/-- The days of one year end before the next. -/
theorem daysBeforeYear_succ {year : ℕ} (h : 1 ≤ year) :
    daysBeforeYear (year + 1) = daysBeforeYear year + yearLength (isLeap year) := by
  have hleap : isLeap year = true ↔ 4 ∣ year ∧ (¬ 100 ∣ year ∨ 400 ∣ year) := by
    simp [isLeap, Nat.dvd_iff_mod_eq_zero]
  have h100 : 100 ∣ year → 4 ∣ year := (by decide : 4 ∣ 100).trans
  have h400 : 400 ∣ year → 100 ∣ year := (by decide : 100 ∣ 400).trans
  have hle : (year - 1) / 100 ≤ (year - 1) / 4 := Nat.div_le_div_left (by decide) (by decide)
  have hdiv (b : ℕ) : year / b = (year - 1) / b + if b ∣ year then 1 else 0 := by
    conv_lhs => rw [← Nat.sub_add_cancel h]
    rw [Nat.succ_div, Nat.sub_add_cancel h]
  have hlength : yearLength (isLeap year) =
      365 + (if 4 ∣ year then 1 else 0) - (if 100 ∣ year then 1 else 0) + if 400 ∣ year then 1 else 0 := by
    simp only [yearLength, hleap]
    by_cases h4 : 4 ∣ year <;> by_cases hc : 100 ∣ year <;> by_cases hq : 400 ∣ year <;> simp_all
  rw [daysBeforeYear, daysBeforeYear, hlength, Nat.add_sub_cancel, hdiv 4, hdiv 100, hdiv 400]
  split <;> split <;> split <;> omega

/-- The days before a year grow with the year. -/
theorem daysBeforeYear_mono {year year' : ℕ} (h : 1 ≤ year) (hle : year ≤ year') :
    daysBeforeYear year ≤ daysBeforeYear year' := by
  induction hle with
  | refl => exact le_rfl
  | step hle ih =>
    rw [daysBeforeYear_succ (h.trans hle)]
    exact ih.trans (Nat.le_add_right _ _)

/-- The days of a month lie in its year. -/
theorem daysBeforeMonth_add_le : ∀ leap, ∀ month < 13, ∀ day < 32,
    1 ≤ month ∧ 1 ≤ day ∧ day ≤ monthLength leap month → daysBeforeMonth leap month + day ≤ yearLength leap
  | false => by decide +kernel
  | true => by decide +kernel

/-- A month has at most 31 days. -/
theorem monthLength_lt (leap : Bool) (month : ℕ) : monthLength leap month < 32 := by
  unfold monthLength
  split
  all_goals first | decide | (split <;> decide)

namespace Date

variable (date : Date)

/-- A date's place lies in its year. -/
theorem place_le : daysBeforeMonth (isLeap date.year) date.month + date.day ≤ yearLength (isLeap date.year) := by
  have hday := date.day_mem.2.trans_lt (monthLength_lt _ _)
  exact daysBeforeMonth_add_le _ _ (Nat.lt_succ_of_le date.month_mem.2) _ hday ⟨date.month_mem.1, date.day_mem⟩

/-- Ordinals are positive. -/
theorem ordinal_pos : 1 ≤ date.ordinal := le_add_left date.day_mem.1

/-- `_ord2ymd(n)`, for the day after `n`. -/
def ofDays (n : ℕ) : Date where
  year := (splitYear n).1
  month := (splitMonth (isLeap (splitYear n).1) (splitYear n).2).1
  day := (splitMonth (isLeap (splitYear n).1) (splitYear n).2).2
  year_pos := (splitYear_spec n).1
  month_mem := (splitMonth_spec _ _ (splitYear_spec n).2.2).1
  day_mem := (splitMonth_spec _ _ (splitYear_spec n).2.2).2.1

/-- The date of a day has the ordinal of the day. -/
theorem ordinal_ofDays (n : ℕ) : (ofDays n).ordinal = n + 1 := by
  obtain ⟨_, hsum, hday⟩ := splitYear_spec n
  have hmonth := (splitMonth_spec _ _ hday).2.2
  simp only [ordinal, ofDays]
  omega

/-- A date is of a representable year exactly when its ordinal is in range. -/
theorem ordinal_le_iff : date.ordinal ≤ 3652059 ↔ date.year ≤ 9999 := by
  have hpos := date.day_mem.1
  have hle := date.place_le
  constructor
  · intro h
    by_contra hyear
    have hmono := daysBeforeYear_mono (by decide : 1 ≤ 10000) (Nat.succ_le_of_lt (not_le.mp hyear))
    have hmax : daysBeforeYear 10000 = 3652059 := by decide
    rw [ordinal] at h
    omega
  · intro h
    have hmono := daysBeforeYear_mono (Nat.le_add_left 1 _) (Nat.add_le_add_right h 1)
    have hmax : daysBeforeYear (9999 + 1) = 3652059 := by decide
    rw [daysBeforeYear_succ date.year_pos] at hmono
    rw [ordinal]
    omega

end Date

end Calendar
