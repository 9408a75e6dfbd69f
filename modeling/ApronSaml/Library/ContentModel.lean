import Mathlib.Computability.RegularExpressions

/-!
# Occurrences in the words of a regular expression

A content model is a regular expression. How often letters of a kind can occur in its words
is read off the expression: at least so often, and at most so often or without a bound.
-/

namespace ContentModel

open RegularExpression

variable {α : Type*}

/-- One expression after the other. -/
def sequence (parts : List (RegularExpression α)) : RegularExpression α := parts.foldr (· * ·) 1

/-- One of several expressions. -/
def choice : List (RegularExpression α) → RegularExpression α
  | [] => 0
  | [P] => P
  | P :: Q :: rest => P + choice (Q :: rest)

/-- The expression or nothing. -/
def optional (P : RegularExpression α) : RegularExpression α := 1 + P

/-- The expression, once or more often. -/
def oneOrMore (P : RegularExpression α) : RegularExpression α := P * star P

/-- The letters of an expression. -/
def symbols : RegularExpression α → List α
  | .zero => []
  | .epsilon => []
  | .char a => [a]
  | .plus P Q => symbols P ++ symbols Q
  | .comp P Q => symbols P ++ symbols Q
  | .star P => symbols P

/-- The most letters of a kind that a word can have, where there is a bound. -/
def maxCount (p : α → Bool) : RegularExpression α → Option ℕ
  | .zero => some 0
  | .epsilon => some 0
  | .char a => some (if p a then 1 else 0)
  | .plus P Q => do some (max (← maxCount p P) (← maxCount p Q))
  | .comp P Q => do some ((← maxCount p P) + (← maxCount p Q))
  | .star P => if maxCount p P = some 0 then some 0 else none

/-- The fewest letters of a kind that a word can have. -/
def minCount (p : α → Bool) : RegularExpression α → ℕ
  | .zero => 0
  | .epsilon => 0
  | .char a => if p a then 1 else 0
  | .plus P Q => min (minCount p P) (minCount p Q)
  | .comp P Q => minCount p P + minCount p Q
  | .star _ => 0

/-- Words are written in the letters of the expression. -/
theorem mem_symbols {P : RegularExpression α} {word : List α} (hword : word ∈ P.matches') {a : α} (ha : a ∈ word) :
    a ∈ symbols P := by
  induction P generalizing word with
  | zero => exact absurd hword (Language.notMem_zero word)
  | epsilon =>
      rw [one_def, matches'_epsilon, Language.mem_one] at hword
      simp [hword] at ha
  | char b =>
      obtain rfl : word = [b] := hword
      exact ha
  | plus P Q ihP ihQ =>
      rw [symbols, List.mem_append]
      exact ((Language.mem_add _ _ _).mp hword).imp (ihP · ha) (ihQ · ha)
  | comp P Q ihP ihQ =>
      obtain ⟨first, hfirst, second, hsecond, rfl⟩ := Language.mem_mul.mp hword
      rw [symbols, List.mem_append]
      exact (List.mem_append.mp ha).imp (ihP hfirst) (ihQ hsecond)
  | star P ih =>
      obtain ⟨words, rfl, hwords⟩ := Language.mem_kstar.mp hword
      obtain ⟨part, hpart, ha⟩ := List.mem_flatten.mp ha
      exact ih (hwords part hpart) ha

/-- No word has more letters of a kind than the bound. -/
theorem countP_le_of_maxCount {p : α → Bool} {P : RegularExpression α} {word : List α} (hword : word ∈ P.matches')
    {n : ℕ} (hn : maxCount p P = some n) : word.countP p ≤ n := by
  induction P generalizing word n with
  | zero => exact absurd hword (Language.notMem_zero word)
  | epsilon =>
      rw [one_def, matches'_epsilon, Language.mem_one] at hword
      simp [hword]
  | char b =>
      obtain rfl : word = [b] := hword
      rw [maxCount, Option.some.injEq] at hn
      simp [← hn, List.countP_cons]
  | plus P Q ihP ihQ =>
      simp only [maxCount, Option.bind_eq_bind, Option.bind_eq_some_iff, Option.some.injEq] at hn
      obtain ⟨m, hm, k, hk, rfl⟩ := hn
      rcases (Language.mem_add _ _ _).mp hword with hP | hQ
      · exact (ihP hP hm).trans (le_max_left m k)
      · exact (ihQ hQ hk).trans (le_max_right m k)
  | comp P Q ihP ihQ =>
      simp only [maxCount, Option.bind_eq_bind, Option.bind_eq_some_iff, Option.some.injEq] at hn
      obtain ⟨m, hm, k, hk, rfl⟩ := hn
      obtain ⟨first, hfirst, second, hsecond, rfl⟩ := Language.mem_mul.mp hword
      rw [List.countP_append]
      exact Nat.add_le_add (ihP hfirst hm) (ihQ hsecond hk)
  | star P ih =>
      rw [maxCount] at hn
      split at hn
      · rename_i hnone
        rw [Option.some.injEq] at hn
        obtain ⟨words, rfl, hwords⟩ := Language.mem_kstar.mp hword
        rw [← hn, Nat.le_zero, List.countP_eq_zero]
        intro a ha
        obtain ⟨part, hpart, ha⟩ := List.mem_flatten.mp ha
        exact List.countP_eq_zero.mp (Nat.le_zero.mp (ih (hwords part hpart) hnone)) a ha
      · contradiction

/-- No word has fewer letters of a kind than the bound. -/
theorem minCount_le_countP {p : α → Bool} {P : RegularExpression α} {word : List α} (hword : word ∈ P.matches') :
    minCount p P ≤ word.countP p := by
  induction P generalizing word with
  | zero => exact absurd hword (Language.notMem_zero word)
  | epsilon => exact Nat.zero_le _
  | char b =>
      obtain rfl : word = [b] := hword
      simp [minCount, List.countP_cons]
  | plus P Q ihP ihQ =>
      rcases (Language.mem_add _ _ _).mp hword with hP | hQ
      · exact (min_le_left _ _).trans (ihP hP)
      · exact (min_le_right _ _).trans (ihQ hQ)
  | comp P Q ihP ihQ =>
      obtain ⟨first, hfirst, second, hsecond, rfl⟩ := Language.mem_mul.mp hword
      rw [List.countP_append]
      exact Nat.add_le_add (ihP hfirst) (ihQ hsecond)
  | star P _ => exact Nat.zero_le _

end ContentModel
