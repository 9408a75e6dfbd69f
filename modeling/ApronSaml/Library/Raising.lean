import Mathlib.Data.List.Basic

/-!
# Raising, re-raising and swallowing errors

Rules for programs whose steps either return or raise. Sequencing stops at the first
error; a guard raises when its condition holds; an `except` clause re-raises what it
catches under another name, or replaces it by a value. Two loops are developed beyond
that: one returns at the first item that succeeds and otherwise raises the first failure,
the other asks a fallible question of every item until one answers yes.
-/

namespace Raising

variable {ε α β : Type}

/-- A sequence returns exactly when both of its steps do. -/
theorem bind_ok_iff {x : Except ε α} {f : α → Except ε β} {b : β} :
    (x >>= f) = .ok b ↔ ∃ a, x = .ok a ∧ f a = .ok b := by
  cases x <;> simp [bind, Except.bind]

/-- A sequence raises when its first step does, or when its second does after the first returned. -/
theorem bind_error_iff {x : Except ε α} {f : α → Except ε β} {e : ε} :
    (x >>= f) = .error e ↔ x = .error e ∨ ∃ a, x = .ok a ∧ f a = .error e := by
  cases x <;> simp [bind, Except.bind]

/-- Sequencing after a returned value is application. -/
@[simp] theorem ok_bind (a : α) (f : α → Except ε β) : (Except.ok a >>= f) = f a := rfl

/-- Nothing runs after an error. -/
@[simp] theorem error_bind (e : ε) (f : α → Except ε β) : (Except.error e >>= f) = .error e := rfl

/-- What is made of a returned value is returned exactly when there is one. -/
theorem map_ok_iff {x : Except ε α} {f : α → β} {b : β} : x.map f = .ok b ↔ ∃ a, x = .ok a ∧ f a = b := by
  cases x <;> simp [Except.map]

/-- An error is kept by whatever is made of the returned value. -/
theorem map_error_iff {x : Except ε α} {f : α → β} {e : ε} : x.map f = .error e ↔ x = .error e := by
  cases x <;> simp [Except.map]

/-- `if condition: raise e`. -/
def raiseIf (condition : Prop) [Decidable condition] (e : ε) : Except ε Unit :=
  if condition then .error e else .ok ()

/-- A guard returns exactly when its condition fails. -/
@[simp] theorem raiseIf_ok_iff {condition : Prop} [Decidable condition] {e : ε} {u : Unit} :
    raiseIf condition e = .ok u ↔ ¬ condition := by
  by_cases h : condition <;> simp [raiseIf, h]

/-- A guard raises exactly its own error, and only when its condition holds. -/
@[simp] theorem raiseIf_error_iff {condition : Prop} [Decidable condition] {e e' : ε} :
    raiseIf condition e = .error e' ↔ condition ∧ e = e' := by
  by_cases h : condition <;> simp [raiseIf, h]

/-- A guard before a computation must be passed before the computation can return. -/
theorem raiseIf_bind_ok_iff {condition : Prop} [Decidable condition] {e : ε}
    {f : Unit → Except ε β} {b : β} :
    (raiseIf condition e >>= f) = .ok b ↔ ¬ condition ∧ f () = .ok b := by
  by_cases h : condition <;> simp [raiseIf, h]

/-- A guard that holds ends the computation with its error. -/
theorem raiseIf_bind_pos {condition : Prop} [Decidable condition] (h : condition) (e : ε)
    (f : Unit → Except ε β) : (raiseIf condition e >>= f) = .error e := by
  simp [raiseIf, h]

/-- A guard that fails leaves the computation as it is. -/
theorem raiseIf_bind_neg {condition : Prop} [Decidable condition] (h : ¬ condition) (e : ε)
    (f : Unit → Except ε β) : (raiseIf condition e >>= f) = f () := by
  simp [raiseIf, h]

/-- `if x is None: raise e`, and the value otherwise. -/
def required (x : Option α) (e : ε) : Except ε α :=
  match x with
  | some a => .ok a
  | none => .error e

/-- A required value is returned exactly when it is there. -/
@[simp] theorem required_ok_iff {x : Option α} {e : ε} {a : α} : required x e = .ok a ↔ x = some a := by
  cases x <;> simp [required]

/-- `except` clauses that re-raise: the caught errors are those the clauses translate. -/
def reraise (clauses : ε → Option ε) : Except ε α → Except ε α
  | .ok a => .ok a
  | .error e => .error ((clauses e).getD e)

/-- Re-raising touches no returned value. -/
@[simp] theorem reraise_ok_iff {clauses : ε → Option ε} {x : Except ε α} {a : α} :
    reraise clauses x = .ok a ↔ x = .ok a := by
  cases x <;> simp [reraise]

/-- Every error that leaves the clauses entered them under its old name. -/
theorem reraise_error_iff {clauses : ε → Option ε} {x : Except ε α} {e : ε} :
    reraise clauses x = .error e ↔ ∃ cause, x = .error cause ∧ (clauses cause).getD cause = e := by
  cases x <;> simp [reraise]

/-- `except` clauses that continue with a value. -/
def recover (caught : ε → Bool) (fallback : α) : Except ε α → Except ε α
  | .ok a => .ok a
  | .error e => if caught e then .ok fallback else .error e

/-- Where every error is caught, recovery returns the value or the fallback. -/
theorem recover_eq_of_caught {caught : ε → Bool} {fallback : α} {x : Except ε α}
    (h : ∀ e, x = .error e → caught e = true) : recover caught fallback x = .ok (x.toOption.getD fallback) := by
  cases x with
  | ok a => rfl
  | error e => simp [recover, h e rfl, Except.toOption]

/-- A loop of checks returns exactly when every check does. -/
theorem forM_ok_iff {f : α → Except ε Unit} {items : List α} :
    forM items f = .ok () ↔ ∀ item ∈ items, f item = .ok () := by
  induction items with
  | nil => simp [pure, Except.pure]
  | cons item rest ih =>
    rw [List.forM_cons, bind_ok_iff, List.forall_mem_cons]
    exact ⟨fun ⟨_, hitem, hrest⟩ => ⟨hitem, ih.mp hrest⟩, fun ⟨hitem, hrest⟩ => ⟨(), hitem, ih.mpr hrest⟩⟩

/-- The outcome of a loop of checks depends on the outcomes of its items alone. -/
theorem forM_congr_outcomes {f : α → Except ε Unit} {g : β → Except ε Unit} {items : List α} {items' : List β}
    (h : items.map f = items'.map g) : forM items f = forM items' g := by
  induction items generalizing items' with
  | nil =>
    obtain rfl : items' = [] := List.map_eq_nil_iff.mp h.symm
    rfl
  | cons item rest ih =>
    cases items' with
    | nil => cases h
    | cons item' rest' =>
      rw [List.map_cons, List.map_cons, List.cons.injEq] at h
      rw [List.forM_cons, List.forM_cons, h.1, ih h.2]

/-- The error of a loop of checks is the error of one of them. -/
theorem exists_of_forM_error {f : α → Except ε Unit} {items : List α} {e : ε}
    (h : forM items f = .error e) : ∃ item ∈ items, f item = .error e := by
  induction items with
  | nil => simp [pure, Except.pure] at h
  | cons item rest ih =>
    rw [List.forM_cons, bind_error_iff] at h
    rcases h with hitem | ⟨_, _, hrest⟩
    · exact ⟨item, List.mem_cons_self, hitem⟩
    · obtain ⟨other, hother, hfail⟩ := ih hrest
      exact ⟨other, List.mem_cons_of_mem _ hother, hfail⟩

/-- A loop over blocks of items is the loop over all of the items. -/
theorem foldlM_flatMap {f : β → α → Except ε β} {γ : Type} (blocks : γ → List α) (items : List γ) (state : β) :
    (items.flatMap blocks).foldlM f state =
      items.foldlM (fun state item => (blocks item).foldlM f state) state := by
  induction items generalizing state with
  | nil => rfl
  | cons item rest ih =>
    rw [List.flatMap_cons, List.foldlM_append, List.foldlM_cons]
    exact congrArg _ (funext ih)

/-- Try the items in order and collect the caught failures; `none` marks an early return. -/
def tryEach (caught : ε → Bool) (f : α → Except ε Unit) : List ε → List α → Except ε (Option (List ε))
  | failures, [] => .ok (some failures)
  | failures, item :: rest =>
    match f item with
    | .ok () => .ok none
    | .error e => if caught e then tryEach caught f (failures ++ [e]) rest else .error e

/-- Return at the first item that succeeds, and otherwise raise the first collected failure.
Indexing an empty collection raises `noItem`. -/
def firstSuccess (caught : ε → Bool) (noItem : ε) (f : α → Except ε Unit) (items : List α) : Except ε Unit := do
  match ← tryEach caught f [] items with
  | none => .ok ()
  | some [] => .error noItem
  | some (first :: _) => .error first

/-- What is tried depends on the outcomes of the items alone. -/
theorem tryEach_congr_outcomes {caught : ε → Bool} {f : α → Except ε Unit} {g : β → Except ε Unit} {items : List α}
    {items' : List β} (h : items.map f = items'.map g) (failures : List ε) :
    tryEach caught f failures items = tryEach caught g failures items' := by
  induction items generalizing items' failures with
  | nil =>
    obtain rfl : items' = [] := List.map_eq_nil_iff.mp h.symm
    rfl
  | cons item rest ih =>
    cases items' with
    | nil => cases h
    | cons item' rest' =>
      rw [List.map_cons, List.map_cons, List.cons.injEq] at h
      simp only [tryEach, h.1, ih h.2]

/-- The first success depends on the outcomes of the items alone. -/
theorem firstSuccess_congr_outcomes {caught : ε → Bool} {noItem : ε} {f : α → Except ε Unit} {g : β → Except ε Unit}
    {items : List α} {items' : List β} (h : items.map f = items'.map g) :
    firstSuccess caught noItem f items = firstSuccess caught noItem g items' := by
  rw [firstSuccess, firstSuccess, tryEach_congr_outcomes h]

/-- Once an item has succeeded the loop has returned, whatever was collected before. -/
theorem tryEach_of_success {caught : ε → Bool} {f : α → Except ε Unit} {items : List α}
    (hcaught : ∀ item ∈ items, ∀ e, f item = .error e → caught e = true)
    (hsuccess : ∃ item ∈ items, f item = .ok ()) (failures : List ε) :
    tryEach caught f failures items = .ok none := by
  induction items generalizing failures with
  | nil => simp at hsuccess
  | cons item rest ih =>
    rw [List.forall_mem_cons] at hcaught
    cases hitem : f item with
    | ok u => simp [tryEach, hitem]
    | error e =>
      have hrest : ∃ other ∈ rest, f other = .ok () := by simpa [hitem] using hsuccess
      simp [tryEach, hitem, hcaught.1 e hitem, ih hcaught.2 hrest]

/-- When no item succeeds, the loop keeps every failure in order, after those it started with. -/
theorem tryEach_of_failure {caught : ε → Bool} {f : α → Except ε Unit} {items : List α}
    (hcaught : ∀ item ∈ items, ∀ e, f item = .error e → caught e = true)
    (hfailure : ∀ item ∈ items, f item ≠ .ok ()) (failures : List ε) :
    ∃ later : List ε, List.Forall₂ (fun item e => f item = .error e) items later ∧
      tryEach caught f failures items = .ok (some (failures ++ later)) := by
  induction items generalizing failures with
  | nil => exact ⟨[], List.Forall₂.nil, by simp [tryEach]⟩
  | cons item rest ih =>
    rw [List.forall_mem_cons] at hcaught hfailure
    cases hitem : f item with
    | ok u => exact absurd hitem hfailure.1
    | error e =>
      obtain ⟨later, hlater, hrun⟩ := ih hcaught.2 hfailure.2 (failures ++ [e])
      refine ⟨e :: later, List.Forall₂.cons hitem hlater, ?_⟩
      simpa [tryEach, hitem, hcaught.1 e hitem] using hrun

/-- With every failure caught, the loop returns exactly when some single item succeeds. -/
theorem firstSuccess_ok_iff {caught : ε → Bool} {noItem : ε} {f : α → Except ε Unit} {items : List α}
    (hcaught : ∀ item ∈ items, ∀ e, f item = .error e → caught e = true) :
    firstSuccess caught noItem f items = .ok () ↔ ∃ item ∈ items, f item = .ok () := by
  by_cases hsuccess : ∃ item ∈ items, f item = .ok ()
  · simpa [firstSuccess, tryEach_of_success hcaught hsuccess] using hsuccess
  · have hfailure : ∀ item ∈ items, f item ≠ .ok () := fun item hitem h => hsuccess ⟨item, hitem, h⟩
    obtain ⟨later, _, hrun⟩ := tryEach_of_failure hcaught hfailure []
    cases later <;> simpa [firstSuccess, hrun] using hfailure

/-- When every item fails, the error raised is the one of the first item. -/
theorem firstSuccess_of_failure {caught : ε → Bool} {noItem e : ε} {f : α → Except ε Unit}
    {first : α} {rest : List α}
    (hcaught : ∀ item ∈ first :: rest, ∀ e, f item = .error e → caught e = true)
    (hfailure : ∀ item ∈ first :: rest, f item ≠ .ok ()) (hfirst : f first = .error e) :
    firstSuccess caught noItem f (first :: rest) = .error e := by
  obtain ⟨later, hlater, hrun⟩ := tryEach_of_failure hcaught hfailure []
  cases hlater with
  | cons hitem hrest =>
    rw [hfirst] at hitem
    simp only [Except.error.injEq] at hitem
    simp [firstSuccess, hrun, hitem]

/-- Ask every item until one answers yes; a caught error counts as no. -/
def anyTrue (caught : ε → Bool) (f : α → Except ε Bool) : List α → Except ε Bool
  | [] => .ok false
  | item :: rest => do
    if ← recover caught false (f item) then .ok true else anyTrue caught f rest

/-- A positive outcome was a positive answer of some single item. -/
theorem exists_of_anyTrue {caught : ε → Bool} {f : α → Except ε Bool} {items : List α}
    (h : anyTrue caught f items = .ok true) : ∃ item ∈ items, f item = .ok true := by
  induction items with
  | nil => simp [anyTrue] at h
  | cons item rest ih =>
    have hrest (htail : anyTrue caught f rest = .ok true) : ∃ other ∈ item :: rest, f other = .ok true := by
      obtain ⟨other, hother, hanswer⟩ := ih htail
      exact ⟨other, List.mem_cons_of_mem _ hother, hanswer⟩
    cases hitem : f item with
    | ok answer =>
      cases answer with
      | true => exact ⟨item, List.mem_cons_self, hitem⟩
      | false => exact hrest (by simpa [anyTrue, hitem, recover] using h)
    | error e =>
      by_cases he : caught e
      · exact hrest (by simpa [anyTrue, hitem, recover, he] using h)
      · simp [anyTrue, hitem, recover, he] at h

/-- Where every error is caught the question has an answer, and it is the any-of over the items. -/
theorem anyTrue_eq_of_caught {caught : ε → Bool} {f : α → Except ε Bool} {items : List α}
    (hcaught : ∀ item ∈ items, ∀ e, f item = .error e → caught e = true) :
    anyTrue caught f items = .ok (items.any fun item => (f item).toOption.getD false) := by
  induction items with
  | nil => rfl
  | cons item rest ih =>
    rw [List.forall_mem_cons] at hcaught
    rw [anyTrue, recover_eq_of_caught hcaught.1, ok_bind, ih hcaught.2, List.any_cons]
    cases (f item).toOption.getD false <;> simp

/-- Where every error is caught, the outcome is positive exactly when some single answer is. -/
theorem anyTrue_ok_true_iff {caught : ε → Bool} {f : α → Except ε Bool} {items : List α}
    (hcaught : ∀ item ∈ items, ∀ e, f item = .error e → caught e = true) :
    anyTrue caught f items = .ok true ↔ ∃ item ∈ items, f item = .ok true := by
  have hanswer (item : α) : (f item).toOption.getD false = true ↔ f item = .ok true := by
    cases f item <;> simp [Except.toOption]
  rw [anyTrue_eq_of_caught hcaught, Except.ok.injEq, List.any_eq_true]
  simp only [hanswer]

section Frontier

variable {P Q : ε → Prop}

/-- Every error a computation can raise belongs to `P`. -/
def RaisesOnly (P : ε → Prop) (x : Except ε α) : Prop := ∀ e, x = .error e → P e

/-- Errors of a narrower class are errors of a wider one. -/
theorem RaisesOnly.mono {x : Except ε α} (hx : RaisesOnly P x) (hPQ : ∀ e, P e → Q e) : RaisesOnly Q x :=
  fun e he => hPQ e (hx e he)

/-- A returned value raises nothing. -/
theorem RaisesOnly.ok (a : α) : RaisesOnly P (.ok a : Except ε α) := fun _ h => nomatch h

/-- A raised error is the only one. -/
theorem RaisesOnly.error {e : ε} (he : P e) : RaisesOnly P (.error e : Except ε α) := by
  intro e' h
  rw [Except.error.injEq] at h
  exact h ▸ he

/-- A sequence raises what its first step raises, or its second after a returned value. -/
theorem RaisesOnly.bind {x : Except ε α} {f : α → Except ε β} (hx : RaisesOnly P x)
    (hf : ∀ a, x = .ok a → RaisesOnly P (f a)) : RaisesOnly P (x >>= f) := by
  intro e h
  rcases bind_error_iff.mp h with hfirst | ⟨a, ha, hsecond⟩
  · exact hx e hfirst
  · exact hf a ha e hsecond

/-- A guard raises its own error. -/
theorem RaisesOnly.raiseIf {condition : Prop} [Decidable condition] {e : ε} (he : P e) :
    RaisesOnly P (raiseIf condition e) := by
  intro e' h
  exact (raiseIf_error_iff.mp h).2 ▸ he

/-- A missing value raises its own error. -/
theorem RaisesOnly.required {x : Option α} {e : ε} (he : P e) : RaisesOnly P (required x e) := by
  cases x with
  | none => exact RaisesOnly.error he
  | some a => exact RaisesOnly.ok a

/-- Clauses that translate every error outside `P` into `P` leave only `P`. -/
theorem RaisesOnly.reraise {clauses : ε → Option ε} {x : Except ε α} (hx : RaisesOnly Q x)
    (hclauses : ∀ e, Q e → P ((clauses e).getD e)) : RaisesOnly P (reraise clauses x) := by
  intro e h
  obtain ⟨cause, hcause, rfl⟩ := reraise_error_iff.mp h
  exact hclauses cause (hx cause hcause)

/-- A loop of checks raises what its checks raise. -/
theorem RaisesOnly.forM {f : α → Except ε Unit} {items : List α} (h : ∀ item ∈ items, RaisesOnly P (f item)) :
    RaisesOnly P (forM items f) := by
  intro e hrun
  obtain ⟨item, hitem, hfail⟩ := exists_of_forM_error hrun
  exact h item hitem e hfail

/-- A loop over an accumulator raises what its steps raise. -/
theorem RaisesOnly.foldlM {f : β → α → Except ε β} (h : ∀ state item, RaisesOnly P (f state item)) (items : List α)
    (state : β) : RaisesOnly P (items.foldlM f state) := by
  induction items generalizing state with
  | nil => exact RaisesOnly.ok state
  | cons item rest ih =>
    rw [List.foldlM_cons]
    exact (h state item).bind fun next _ => ih next

/-- A loop that returns at its first success, over a non-empty list and with every failure caught, raises
what its items raise. -/
theorem RaisesOnly.firstSuccess {caught : ε → Bool} {noItem : ε} {f : α → Except ε Unit} {items : List α}
    (hne : items ≠ []) (hcaught : ∀ e, P e → caught e = true) (h : ∀ item ∈ items, RaisesOnly P (f item)) :
    RaisesOnly P (firstSuccess caught noItem f items) := by
  have hall : ∀ item ∈ items, ∀ e, f item = .error e → caught e = true := fun item hitem e he =>
    hcaught e (h item hitem e he)
  by_cases hsuccess : ∃ item ∈ items, f item = .ok ()
  · rw [(firstSuccess_ok_iff hall).mpr hsuccess]
    exact RaisesOnly.ok ()
  · obtain ⟨first, rest, rfl⟩ := List.exists_cons_of_ne_nil hne
    have hfail : ∀ item ∈ first :: rest, f item ≠ .ok () := fun item hitem hok => hsuccess ⟨item, hitem, hok⟩
    cases hfirst : f first with
    | ok u => exact absurd hfirst (hfail first List.mem_cons_self)
    | error e =>
      rw [firstSuccess_of_failure hall hfail hfirst]
      exact RaisesOnly.error (h first List.mem_cons_self e hfirst)

end Frontier

end Raising
