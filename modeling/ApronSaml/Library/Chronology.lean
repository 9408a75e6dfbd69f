import Mathlib.Algebra.Order.Ring.Int
import Mathlib.Tactic.Linarith

/-!
# Bounded calendar arithmetic

Instants and durations of Python's `datetime` module as exact integer microseconds. An
instant is a local wall clock within the years 1 to 9999 together with an optional UTC
offset of less than a day; a duration lies within 999999999 days of zero. Arithmetic is
partial: a duration outside its range overflows, and an instant without an offset cannot
be compared with one that has an offset.

Instants whose offsets agree are compared on their wall clocks, and others by the sign of
their difference, so a comparison may overflow in principle. For instants with offsets
every difference is in range, and comparison is the order of the UTC line.
-/

namespace Chronology

/-- Microseconds in a day. -/
def dayMicros : ℤ := 86400000000

/-- Microseconds in the representable years 1 to 9999. -/
def calendarMicros : ℤ := 3652059 * dayMicros

/-- What instant and duration arithmetic can raise. -/
inductive TimeError
  | overflow
  | offsetMismatch
  deriving DecidableEq

/-- A `timedelta`. -/
structure TimeDelta where
  micros : ℤ
  lower : -999999999 * dayMicros ≤ micros
  upper : micros < 1000000000 * dayMicros

/-- A `datetime`: microseconds since the start of year 1 on the local clock, and the clock's
offset from UTC when it has one. -/
structure DateTime where
  wall : ℤ
  utcoffset : Option ℤ
  wall_nonneg : 0 ≤ wall
  wall_lt : wall < calendarMicros
  offset_bound : ∀ offset ∈ utcoffset, -dayMicros < offset ∧ offset < dayMicros

/-- A duration of so many microseconds, where it is representable. -/
def TimeDelta.ofMicros (micros : ℤ) : Except TimeError TimeDelta :=
  if h : -999999999 * dayMicros ≤ micros ∧ micros < 1000000000 * dayMicros then .ok ⟨micros, h.1, h.2⟩
  else .error .overflow

/-- A representable duration is built as asked. -/
theorem TimeDelta.ofMicros_eq {micros : ℤ} (lower : -999999999 * dayMicros ≤ micros)
    (upper : micros < 1000000000 * dayMicros) : TimeDelta.ofMicros micros = .ok ⟨micros, lower, upper⟩ := by
  rw [TimeDelta.ofMicros, dif_pos ⟨lower, upper⟩]

namespace DateTime

/-- The instant names its offset from UTC. -/
def Aware (a : DateTime) : Prop := a.utcoffset ≠ none

instance (a : DateTime) : Decidable a.Aware := inferInstanceAs (Decidable (a.utcoffset ≠ none))

/-- The instant on the UTC line. -/
def utc (a : DateTime) : ℤ := a.wall - a.utcoffset.getD 0

/-- `a - b`: the wall-clock difference, corrected by the difference of the offsets. -/
def sub (a b : DateTime) : Except TimeError TimeDelta :=
  match a.utcoffset, b.utcoffset with
  | some offset, some offset' => do
    let naive ← TimeDelta.ofMicros (a.wall - b.wall)
    let correction ← TimeDelta.ofMicros (offset - offset')
    TimeDelta.ofMicros (naive.micros - correction.micros)
  | none, none => TimeDelta.ofMicros (a.wall - b.wall)
  | _, _ => .error .offsetMismatch

/-- The number whose sign orders two instants. -/
def difference (a b : DateTime) : Except TimeError ℤ :=
  match a.utcoffset, b.utcoffset with
  | some offset, some offset' => if offset = offset' then .ok (a.wall - b.wall) else TimeDelta.micros <$> a.sub b
  | none, none => .ok (a.wall - b.wall)
  | _, _ => .error .offsetMismatch

/-- `a >= b`. -/
def ge (a b : DateTime) : Except TimeError Bool := (fun d => decide (0 ≤ d)) <$> a.difference b

/-- `a < b`. -/
def lt (a b : DateTime) : Except TimeError Bool := (fun d => decide (d < 0)) <$> a.difference b

/-- Subtracting instants with offsets never overflows, and measures on the UTC line. -/
theorem sub_of_aware {a b : DateTime} (ha : a.Aware) (hb : b.Aware) :
    ∃ d : TimeDelta, a.sub b = .ok d ∧ d.micros = a.utc - b.utc := by
  obtain ⟨offset, hoffset⟩ := Option.ne_none_iff_exists'.mp ha
  obtain ⟨offset', hoffset'⟩ := Option.ne_none_iff_exists'.mp hb
  have hbound := a.offset_bound offset hoffset
  have hbound' := b.offset_bound offset' hoffset'
  have hwall := a.wall_nonneg
  have hwall' := b.wall_nonneg
  have hmax := a.wall_lt
  have hmax' := b.wall_lt
  simp only [calendarMicros, dayMicros] at hbound hbound' hmax hmax'
  have hrange (micros : ℤ) (h : -5 * calendarMicros < micros ∧ micros < 5 * calendarMicros) :
      -999999999 * dayMicros ≤ micros ∧ micros < 1000000000 * dayMicros := by
    simp only [calendarMicros, dayMicros] at h ⊢
    omega
  have hwallRange := hrange (a.wall - b.wall) (by simp only [calendarMicros, dayMicros]; omega)
  have hoffsetRange := hrange (offset - offset') (by simp only [calendarMicros, dayMicros]; omega)
  have hnaive := TimeDelta.ofMicros_eq hwallRange.1 hwallRange.2
  have hcorrection := TimeDelta.ofMicros_eq hoffsetRange.1 hoffsetRange.2
  obtain ⟨hlower, hupper⟩ := hrange (a.wall - b.wall - (offset - offset'))
    (by simp only [calendarMicros, dayMicros]; omega)
  refine ⟨⟨_, hlower, hupper⟩, ?_, ?_⟩
  · simp only [sub, hoffset, hoffset', hnaive, hcorrection]
    exact TimeDelta.ofMicros_eq hlower hupper
  · simp only [utc, hoffset, hoffset', Option.getD_some]
    omega

/-- The ordering number of instants with offsets is their distance on the UTC line. -/
theorem difference_of_aware {a b : DateTime} (ha : a.Aware) (hb : b.Aware) :
    a.difference b = .ok (a.utc - b.utc) := by
  obtain ⟨d, hsub, hd⟩ := sub_of_aware ha hb
  obtain ⟨offset, hoffset⟩ := Option.ne_none_iff_exists'.mp ha
  obtain ⟨offset', hoffset'⟩ := Option.ne_none_iff_exists'.mp hb
  simp only [difference, hoffset, hoffset']
  by_cases hequal : offset = offset'
  · simp only [hequal, if_true, utc, hoffset, hoffset', Option.getD_some, Except.ok.injEq]
    omega
  · simp only [if_neg hequal, hsub, Functor.map, Except.map, hd]

/-- Comparison of instants with offsets never overflows, and is the order of the UTC line. -/
theorem ge_of_aware {a b : DateTime} (ha : a.Aware) (hb : b.Aware) : a.ge b = .ok (decide (b.utc ≤ a.utc)) := by
  simp only [ge, difference_of_aware ha hb, Functor.map, Except.map, Int.sub_nonneg]

/-- Strict comparison of instants with offsets never overflows either. -/
theorem lt_of_aware {a b : DateTime} (ha : a.Aware) (hb : b.Aware) : a.lt b = .ok (decide (a.utc < b.utc)) := by
  simp only [lt, difference_of_aware ha hb, Functor.map, Except.map, sub_neg]

end DateTime

end Chronology
