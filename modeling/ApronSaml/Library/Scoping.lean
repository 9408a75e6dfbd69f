import Mathlib.Data.List.AList

/-!
# Declarations in nested scopes

A tree of scopes, each with declarations of its own. In scope at a position is, for every
name, the innermost declaration on the way there. A flat table gives every name one meaning
for the whole tree; it says what is in scope exactly when it agrees with each declaration.
-/

namespace Scoping

/-- A scope: its declarations, no name twice, and the scopes inside it. -/
inductive Scope (K V : Type)
  | node (declared : AList fun _ : K => V) (inner : List (Scope K V))

namespace Scope

variable {K V : Type} [DecidableEq K]

/-- The declarations of the scope itself. -/
def declared : Scope K V → AList fun _ : K => V
  | .node declared _ => declared

/-- The scopes directly inside. -/
def inner : Scope K V → List (Scope K V)
  | .node _ inner => inner

/-- Follow indexes of inner scopes. -/
def at? : List ℕ → Scope K V → Option (Scope K V)
  | [], s => some s
  | i :: path, s => s.inner[i]?.bind (at? path)

/-- The meaning of a name at a position: its innermost declaration on the way there. -/
def inScope : List ℕ → Scope K V → K → Option V
  | [], s, name => s.declared.lookup name
  | i :: path, s, name => (s.inner[i]?.bind fun t => inScope path t name).or (s.declared.lookup name)

mutual

/-- All declarations in document order. -/
def declarations : Scope K V → List (K × V)
  | .node declared inner => declared.entries.map (fun entry => (entry.1, entry.2)) ++ declarationsBelow inner

/-- The declarations of a block of scopes. -/
def declarationsBelow : List (Scope K V) → List (K × V)
  | [] => []
  | s :: rest => declarations s ++ declarationsBelow rest

end

/-- A declaration in the table of a scope is found by its name. -/
theorem mem_map_entries {table : AList fun _ : K => V} {name : K} {value : V} :
    (name, value) ∈ table.entries.map (fun entry => (entry.1, entry.2)) ↔ table.lookup name = some value := by
  rw [← Option.mem_def, AList.mem_lookup_iff, List.mem_map]
  constructor
  · rintro ⟨⟨name', value'⟩, hmem, heq⟩
    obtain ⟨rfl, rfl⟩ := Prod.mk.inj heq
    exact hmem
  · intro hmem
    exact ⟨⟨name, value⟩, hmem, rfl⟩

mutual

/-- Every declaration of the tree stands in a scope of it. -/
theorem mem_declarations : (s : Scope K V) → (name : K) → (value : V) →
    ((name, value) ∈ s.declarations ↔ ∃ path t, s.at? path = some t ∧ t.declared.lookup name = some value)
  | .node declared inner, name, value => by
      rw [declarations, List.mem_append, mem_map_entries, mem_declarationsBelow inner name value]
      constructor
      · rintro (hhere | ⟨i, path, t, hat, hlookup⟩)
        · exact ⟨[], .node declared inner, by rw [at?], hhere⟩
        · exact ⟨i :: path, t, by rw [at?]; exact hat, hlookup⟩
      · intro h
        obtain ⟨path, t, hat, hlookup⟩ := h
        cases path with
        | nil =>
            rw [at?, Option.some.injEq] at hat
            rw [← hat] at hlookup
            exact Or.inl hlookup
        | cons i path =>
            rw [at?] at hat
            exact Or.inr ⟨i, path, t, hat, hlookup⟩

/-- Every declaration of a block stands in a scope of it. -/
theorem mem_declarationsBelow : (scopes : List (Scope K V)) → (name : K) → (value : V) →
    ((name, value) ∈ declarationsBelow scopes ↔
      ∃ (i : ℕ) (path : List ℕ) (t : Scope K V), scopes[i]?.bind (at? path) = some t ∧
        t.declared.lookup name = some value)
  | [], name, value => by simp [declarationsBelow]
  | s :: rest, name, value => by
      rw [declarationsBelow, List.mem_append, mem_declarations s name value, mem_declarationsBelow rest name value]
      constructor
      · rintro (⟨path, t, hat, hlookup⟩ | ⟨i, path, t, hat, hlookup⟩)
        · exact ⟨0, path, t, hat, hlookup⟩
        · exact ⟨i + 1, path, t, hat, hlookup⟩
      · intro h
        obtain ⟨i, path, t, hat, hlookup⟩ := h
        cases i with
        | zero => exact Or.inl ⟨path, t, hat, hlookup⟩
        | succ i => exact Or.inr ⟨i, path, t, hat, hlookup⟩

end

/-- What a scope declares is in scope there. -/
theorem inScope_of_declared {s t : Scope K V} {path : List ℕ} (hat : s.at? path = some t) {name : K} {value : V}
    (h : t.declared.lookup name = some value) : s.inScope path name = some value := by
  induction path generalizing s with
  | nil =>
      rw [at?, Option.some.injEq] at hat
      rw [inScope, hat, h]
  | cons i path ih =>
      rw [at?] at hat
      obtain ⟨u, hu, hat⟩ := Option.bind_eq_some_iff.mp hat
      rw [inScope, hu, Option.bind_some, ih hat, Option.some_or]

/-- What is in scope is declared in the tree. -/
theorem mem_declarations_of_inScope {s : Scope K V} {path : List ℕ} {name : K} {value : V}
    (h : s.inScope path name = some value) : (name, value) ∈ s.declarations := by
  induction path generalizing s with
  | nil => exact (mem_declarations s name value).mpr ⟨[], s, by rw [at?], h⟩
  | cons i path ih =>
      rw [inScope, Option.or_eq_some_iff] at h
      rcases h with hinner | ⟨_, hhere⟩
      · obtain ⟨u, hu, hinner⟩ := Option.bind_eq_some_iff.mp hinner
        obtain ⟨below, t, hat, hlookup⟩ := (mem_declarations u name value).mp (ih hinner)
        exact (mem_declarations s name value).mpr ⟨i :: below, t, by rw [at?, hu]; exact hat, hlookup⟩
      · exact (mem_declarations s name value).mpr ⟨[], s, by rw [at?], hhere⟩

/-- A table says what is in scope, at every position, exactly when it agrees with each declaration. -/
theorem agrees_iff {s : Scope K V} {table : K → Option V} :
    (∀ path t, s.at? path = some t → ∀ name value, s.inScope path name = some value → table name = some value) ↔
      ∀ entry ∈ s.declarations, table entry.1 = some entry.2 := by
  constructor
  · intro h entry hentry
    obtain ⟨path, t, hat, hlookup⟩ := (mem_declarations s entry.1 entry.2).mp hentry
    exact h path t hat entry.1 entry.2 (inScope_of_declared hat hlookup)
  · intro h path t _ name value hscope
    exact h (name, value) (mem_declarations_of_inScope hscope)

end Scope

/-- The table that keeps the first declaration of every name. -/
def firstOf {K V : Type} [DecidableEq K] (declarations : List (K × V)) : AList fun _ : K => V :=
  declarations.foldl (fun table entry => if entry.1 ∈ table then table else table.insert entry.1 entry.2) ∅

section FirstOf

variable {K V : Type} [DecidableEq K]

/-- What is in the table stays, and what is not there is found among the declarations. -/
theorem lookup_foldl (declarations : List (K × V)) (table : AList fun _ : K => V) (name : K) :
    (declarations.foldl (fun table entry => if entry.1 ∈ table then table else table.insert entry.1 entry.2)
      table).lookup name = (table.lookup name).or (declarations.lookup name) := by
  induction declarations generalizing table with
  | nil => rw [List.foldl_nil, List.lookup_nil, Option.or_none]
  | cons entry rest ih =>
      rw [List.foldl_cons, ih]
      by_cases hname : name = entry.1
      · subst hname
        by_cases hmem : entry.1 ∈ table
        · obtain ⟨value, hvalue⟩ := Option.isSome_iff_exists.mp (AList.lookup_isSome.mpr hmem)
          rw [if_pos hmem, hvalue, Option.some_or, Option.some_or]
        · rw [if_neg hmem, AList.lookup_insert, AList.lookup_eq_none.mpr hmem, Option.some_or, Option.none_or,
            List.lookup_cons, beq_self_eq_true]
      · rw [List.lookup_cons, beq_eq_false_iff_ne.mpr hname]
        by_cases hmem : entry.1 ∈ table
        · rw [if_pos hmem]
        · rw [if_neg hmem, AList.lookup_insert_ne hname]

/-- Names have the meaning of their first declaration. -/
theorem lookup_firstOf (declarations : List (K × V)) (name : K) :
    (firstOf declarations).lookup name = declarations.lookup name := by
  rw [firstOf, lookup_foldl, AList.lookup_empty, Option.none_or]

/-- The first meaning is every meaning exactly when no name is declared with two. -/
theorem lookup_eq_iff {declarations : List (K × V)} :
    (∀ entry ∈ declarations, declarations.lookup entry.1 = some entry.2) ↔
      ∀ entry ∈ declarations, ∀ other ∈ declarations, entry.1 = other.1 → entry.2 = other.2 := by
  constructor
  · intro h entry hentry other hother hname
    have hvalue := h entry hentry
    rw [hname, h other hother, Option.some.injEq] at hvalue
    exact hvalue.symm
  · intro h entry hentry
    have hsome : (declarations.lookup entry.1).isSome = true :=
      List.lookup_isSome_iff.mpr ⟨entry, hentry, beq_self_eq_true entry.1⟩
    obtain ⟨value, hvalue⟩ := Option.isSome_iff_exists.mp hsome
    obtain ⟨before, after, hdeclarations, _⟩ := List.lookup_eq_some_iff.mp hvalue
    rw [hvalue, h entry hentry (entry.1, value) (by simp [hdeclarations]) rfl]

end FirstOf

end Scoping
