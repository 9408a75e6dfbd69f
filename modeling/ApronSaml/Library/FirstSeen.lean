import Mathlib.Data.List.Basic
import Mathlib.Data.List.Induction
import Mathlib.Data.List.Nodup

/-!
# Scans that keep what they see for the first time

A scan over items that appends an item unless it was seen before. What it has kept after
any number of items is the list of those items without their later repetitions: every item
once, in the order of the first occurrences.
-/

namespace FirstSeen

variable {A : Type*} [DecidableEq A]

/-- Append an item unless it is there already. -/
def record (seen : List A) (item : A) : List A := if item ∈ seen then seen else seen ++ [item]

/-- One more item is kept exactly when it was not seen before. -/
theorem eraseDups_concat (past : List A) (item : A) : (past ++ [item]).eraseDups = record past.eraseDups item := by
  rw [List.eraseDups_append, record]
  by_cases hseen : item ∈ past
  · simp [List.removeAll, hseen, List.mem_eraseDups]
  · simp [List.removeAll, hseen, List.mem_eraseDups, List.eraseDups_cons]

/-- The scan from what the past left keeps the first occurrences of past and present. -/
theorem foldl_record (past items : List A) : items.foldl record past.eraseDups = (past ++ items).eraseDups := by
  induction items generalizing past with
  | nil => rw [List.foldl_nil, List.append_nil]
  | cons item rest ih => rw [List.foldl_cons, ← eraseDups_concat, ih, List.append_assoc, List.singleton_append]

/-- The items kept stand in the order of their first occurrences. -/
theorem pairwise_eraseDups (items : List A) :
    items.eraseDups.Pairwise fun a b => items.idxOf a < items.idxOf b := by
  induction items using List.reverseRecOn with
  | nil => exact List.Pairwise.nil
  | append_singleton past item ih =>
    have hpast : past.eraseDups.Pairwise fun a b => (past ++ [item]).idxOf a < (past ++ [item]).idxOf b := by
      refine List.Pairwise.imp_of_mem (fun ha hb hlt => ?_) ih
      rw [List.mem_eraseDups] at ha hb
      rwa [List.idxOf_append_of_mem ha, List.idxOf_append_of_mem hb]
    rw [eraseDups_concat, record]
    split
    · exact hpast
    · rename_i hnew
      rw [List.mem_eraseDups] at hnew
      rw [List.pairwise_append]
      refine ⟨hpast, List.pairwise_singleton _ _, fun a ha b hb => ?_⟩
      rw [List.mem_eraseDups] at ha
      rw [List.mem_singleton.mp hb, List.idxOf_append_of_mem ha, List.idxOf_append_of_notMem hnew]
      exact Nat.lt_of_lt_of_le (List.idxOf_lt_length_of_mem ha) (Nat.le_add_right _ _)

/-- No item is kept twice. -/
theorem nodup_eraseDups (items : List A) : items.eraseDups.Nodup := by
  refine (pairwise_eraseDups items).imp ?_
  rintro a _ hlt rfl
  exact Nat.lt_irrefl _ hlt

end FirstSeen
