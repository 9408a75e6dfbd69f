import ApronSaml.Library.Raising
import Mathlib.Data.List.AList

/-!
# Keys claimed by owners

A scan in which owners claim keys one after the other. A dictionary remembers the owner of
every key claimed so far; an owner may claim a key again, and a claim to another owner's
key ends the scan. The scan ends that way exactly when two different owners claim one key,
whatever the order of the claims.
-/

namespace Ownership

open Raising

variable {K O : Type} {ε : Type} [DecidableEq K]

/-- A dictionary from keys to their owners. -/
abbrev Owners (K O : Type) := AList fun _ : K => O

/-- The dictionary records exactly the claims made so far. -/
def Tracks (owners : Owners K O) (claims : List (K × O)) : Prop :=
  ∀ key owner, owner ∈ owners.lookup key ↔ (key, owner) ∈ claims

/-- Before the scan there is nothing to record. -/
theorem tracks_empty : Tracks (∅ : Owners K O) [] := by
  intro key owner
  simp

variable [DecidableEq O]

/-- One claim: refused when the key has another owner, and recorded otherwise. -/
def claim (clash : ε) (owners : Owners K O) (key : K) (owner : O) : Except ε (Owners K O) := do
  raiseIf (∃ other ∈ owners.lookup key, other ≠ owner) clash
  .ok (owners.insert key owner)

/-- The claims of a scan, in order. -/
def claimAll (clash : ε) (owners : Owners K O) (claims : List (K × O)) : Except ε (Owners K O) :=
  claims.foldlM (fun owners c => claim clash owners c.1 c.2) owners

/-- An accepted claim is added to the record, and nothing else changes. -/
theorem Tracks.claim {clash : ε} {owners owners' : Owners K O} {past : List (K × O)} {key : K} {owner : O}
    (h : Tracks owners past) (hclaim : claim clash owners key owner = .ok owners') :
    Tracks owners' (past ++ [(key, owner)]) := by
  simp only [Ownership.claim, raiseIf_bind_ok_iff, Except.ok.injEq] at hclaim
  obtain ⟨hfree, rfl⟩ := hclaim
  intro key' owner'
  by_cases hkey : key' = key
  · subst hkey
    have hpast : (key', owner') ∈ past → owner' = owner := fun hmem =>
      not_not.mp fun hne => hfree ⟨owner', (h key' owner').mpr hmem, hne⟩
    simp only [AList.lookup_insert, Option.mem_some_iff, List.mem_append, List.mem_singleton, Prod.mk.injEq, true_and]
    exact ⟨fun heq => Or.inr heq.symm, fun hmem => hmem.elim (fun hmem => (hpast hmem).symm) Eq.symm⟩
  · rw [AList.lookup_insert_ne hkey, h key' owner']
    simp [hkey]

/-- A claim is refused exactly when another owner claimed the key before. -/
theorem Tracks.claim_error_iff {clash e : ε} {owners : Owners K O} {past : List (K × O)} {key : K} {owner : O}
    (h : Tracks owners past) :
    Ownership.claim clash owners key owner = .error e ↔
      (∃ other, (key, other) ∈ past ∧ other ≠ owner) ∧ clash = e := by
  simp only [Ownership.claim, bind_error_iff, raiseIf_error_iff, reduceCtorEq, and_false, exists_false, or_false,
    ← h key]

/-- A scan over a family of blocks of claims is the scan over all of them. -/
theorem claimAll_flatMap {A : Type} (clash : ε) (blocks : A → List (K × O)) (items : List A) (owners : Owners K O) :
    claimAll clash owners (items.flatMap blocks) =
      items.foldlM (fun owners item => claimAll clash owners (blocks item)) owners :=
  foldlM_flatMap blocks items owners

/-- A scan that skips the items without a claim is the scan over the claims made. -/
theorem claimAll_filterMap {A : Type} (clash : ε) (made : A → Option (K × O)) (items : List A)
    (owners : Owners K O) :
    claimAll clash owners (items.filterMap made) =
      items.foldlM (fun owners item =>
        match made item with
        | some c => claim clash owners c.1 c.2
        | none => .ok owners) owners := by
  rw [claimAll, List.foldlM_filterMap]
  congr 1
  funext owners item
  cases made item <;> rfl

/-- A scan raises nothing but its clash. -/
theorem claimAll_raisesOnly (clash : ε) (owners : Owners K O) (claims : List (K × O)) :
    RaisesOnly (clash = ·) (claimAll clash owners claims) :=
  RaisesOnly.foldlM (fun _ _ => (RaisesOnly.raiseIf rfl).bind fun _ _ => RaisesOnly.ok _) claims owners

/-- A scan that goes on from a record is accepted exactly when every claim agrees with all claims to
its key, the recorded ones and those of the scan. -/
theorem Tracks.claimAll_ok_iff {clash : ε} {owners : Owners K O} {past claims : List (K × O)}
    (h : Tracks owners past) :
    (∃ owners', claimAll clash owners claims = .ok owners') ↔
      ∀ c ∈ claims, ∀ c' ∈ past ++ claims, c.1 = c'.1 → c.2 = c'.2 := by
  induction claims generalizing owners past with
  | nil => exact ⟨fun _ c hc => absurd hc List.not_mem_nil, fun _ => ⟨owners, rfl⟩⟩
  | cons c rest ih =>
    obtain ⟨key, owner⟩ := c
    have hrun : claimAll clash owners ((key, owner) :: rest) =
        Ownership.claim clash owners key owner >>= fun next => claimAll clash next rest := rfl
    cases hclaim : Ownership.claim clash owners key owner with
    | error e =>
      obtain ⟨⟨other, hother, hne⟩, _⟩ := h.claim_error_iff.mp hclaim
      rw [hrun, hclaim]
      refine ⟨fun ⟨_, hok⟩ => absurd hok (by simp), fun hagree => absurd ?_ hne⟩
      exact (hagree (key, owner) List.mem_cons_self (key, other) (List.mem_append_left _ hother) rfl).symm
    | ok next =>
      have hfree : ∀ other, (key, other) ∈ past → other = owner := by
        intro other hother
        by_contra hne
        simp [h.claim_error_iff.mpr ⟨⟨other, hother, hne⟩, rfl⟩] at hclaim
      rw [hrun, hclaim, ok_bind, ih (h.claim hclaim)]
      simp only [List.mem_append, List.mem_cons, List.not_mem_nil, or_false]
      constructor
      · rintro hagree c (rfl | hc) c' (hc' | rfl | hc') hkey
        · exact (hfree c'.2 (by rwa [show key = c'.1 from hkey])).symm
        · rfl
        · exact (hagree c' hc' (key, owner) (Or.inl (Or.inr rfl)) hkey.symm).symm
        · exact hagree c hc c' (Or.inl (Or.inl hc')) hkey
        · exact hagree c hc (key, owner) (Or.inl (Or.inr rfl)) hkey
        · exact hagree c hc c' (Or.inr hc') hkey
      · rintro hagree c hc c' ((hc' | rfl) | hc') hkey
        · exact hagree c (Or.inr hc) c' (Or.inl hc') hkey
        · exact hagree c (Or.inr hc) _ (Or.inr (Or.inl rfl)) hkey
        · exact hagree c (Or.inr hc) c' (Or.inr (Or.inr hc')) hkey

/-- A whole scan is refused exactly when two different owners claim one key. -/
theorem claimAll_error_iff {clash e : ε} {claims : List (K × O)} :
    claimAll clash ∅ claims = .error e ↔
      (∃ c ∈ claims, ∃ c' ∈ claims, c.1 = c'.1 ∧ c.2 ≠ c'.2) ∧ clash = e := by
  have haccept : (∃ owners, claimAll clash ∅ claims = .ok owners) ↔
      ∀ c ∈ claims, ∀ c' ∈ [] ++ claims, c.1 = c'.1 → c.2 = c'.2 := tracks_empty.claimAll_ok_iff
  rw [List.nil_append] at haccept
  cases hrun : claimAll clash ∅ claims with
  | ok owners =>
    have hagree := haccept.mp ⟨owners, hrun⟩
    simp only [reduceCtorEq, false_iff, not_and]
    intro h
    obtain ⟨c, hc, c', hc', hkey, hne⟩ := h
    exact absurd (hagree c hc c' hc' hkey) hne
  | error e' =>
    have hclash : clash = e' := claimAll_raisesOnly clash ∅ claims e' hrun
    have hdisagree : ¬ ∀ c ∈ claims, ∀ c' ∈ claims, c.1 = c'.1 → c.2 = c'.2 := fun hagree => by
      obtain ⟨owners, hok⟩ := haccept.mpr hagree
      simp [hrun] at hok
    push Not at hdisagree
    rw [Except.error.injEq, ← hclash]
    exact ⟨fun he => ⟨hdisagree, he⟩, And.right⟩

end Ownership
