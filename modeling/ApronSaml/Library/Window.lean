import Mathlib.Algebra.Order.Group.Defs
import Mathlib.Order.Bounds.Basic
import Mathlib.Order.Interval.Set.Basic
import Mathlib.Algebra.Order.Group.Basic
import Mathlib.Data.Finset.Max
import Mathlib.Data.Set.Finite.Lattice

/-!
# Validity windows with a tolerance

A window over any ordered group of instants: an optional inclusive start, an exclusive
end, both widened by a tolerance. Programs that must not shift a bound compare it with the
instant first and then measure the distance; for a non-negative tolerance that is the same
window. An instant that must precede one of several ends precedes the greatest of them.
-/

namespace Window

variable {T : Type*} [LinearOrder T]

/-- Finitely many ends have a greatest. -/
theorem exists_greatest {ends : Set T} (hfinite : ends.Finite) (hne : ends.Nonempty) :
    ∃ greatest, IsGreatest ends greatest := by
  have hgreatest := hfinite.toFinset.isGreatest_max' (hfinite.toFinset_nonempty.mpr hne)
  rw [hfinite.coe_toFinset] at hgreatest
  exact ⟨_, hgreatest⟩

variable [AddCommGroup T] [IsOrderedAddMonoid T]

/-- Having reached an exclusive end by at least the tolerance is having left the widened window. -/
theorem reached_iff {now finish skew : T} (hskew : 0 ≤ skew) :
    (finish ≤ now ∧ skew ≤ now - finish) ↔ finish + skew ≤ now := by
  rw [le_sub_iff_add_le']
  exact ⟨fun h => h.2, fun h => ⟨(le_add_of_nonneg_right hskew).trans h, h⟩⟩

/-- Missing an inclusive start by more than the tolerance is not having entered the widened window. -/
theorem missed_iff {now start skew : T} (hskew : 0 ≤ skew) :
    (now < start ∧ skew < start - now) ↔ now < start - skew := by
  rw [lt_sub_comm]
  exact ⟨fun h => h.2, fun h => ⟨h.trans_le (sub_le_self start hskew), h⟩⟩

/-- The instants within an optional inclusive start and an exclusive end, widened by the tolerance. -/
def widened (start : Option T) (finish skew : T) : Set T :=
  {now | (∀ s ∈ start, s - skew ≤ now) ∧ now < finish + skew}

/-- With a start, the widened window is a half-open interval. -/
theorem widened_some (start finish skew : T) :
    widened (some start) finish skew = Set.Ico (start - skew) (finish + skew) := by
  ext now
  simp [widened]

/-- Without a start, the widened window is a lower ray open at its end. -/
theorem widened_none (finish skew : T) : widened none finish skew = Set.Iio (finish + skew) := by
  ext now
  simp [widened]

/-- A larger tolerance only widens the window. -/
theorem widened_mono (start : Option T) (finish : T) {skew skew' : T} (h : skew ≤ skew') :
    widened start finish skew ⊆ widened start finish skew' := by
  intro now hnow
  exact ⟨fun s hs => (sub_le_sub_left h s).trans (hnow.1 s hs), hnow.2.trans_le (add_le_add_right h finish)⟩

/-- Two ends leave the earlier one. -/
theorem widened_inter (start : Option T) (finish finish' skew : T) :
    widened start finish skew ∩ {now | now < finish' + skew} = widened start (min finish finish') skew := by
  ext now
  simp only [widened, Set.mem_inter_iff, Set.mem_ofPred_eq, ← sub_lt_iff_lt_add, lt_min_iff, and_assoc]

/-- Preceding one of several ends is preceding the greatest. -/
theorem exists_lt_iff_lt_greatest {ends : Set T} {greatest now skew : T} (h : IsGreatest ends greatest) :
    (∃ finish ∈ ends, now < finish + skew) ↔ now < greatest + skew := by
  constructor
  · intro hexists
    obtain ⟨finish, hmem, hnow⟩ := hexists
    exact hnow.trans_le (add_le_add_left (h.2 hmem) skew)
  · exact fun hnow => ⟨greatest, h.1, hnow⟩

end Window
