import Mathlib.Data.List.Nodup
import Mathlib.Data.Set.Insert
import Mathlib.Logic.Relation

/-!
# Tickets that are used once

A ledger of tickets: each is issued once, to one holder, and stays pending until it is
redeemed or dropped. Whatever the order of these steps, every redeemed ticket was issued
to the holder who redeems it, and none is redeemed twice.
-/

namespace SingleUse

variable {H T : Type*}

/-- The tickets that were issued, those that are pending, and the redemptions so far. -/
structure Ledger (H T : Type*) where
  issued : Set (H × T)
  pending : Set (H × T)
  redeemed : List (H × T)

/-- The ledger at the start. -/
def Ledger.empty : Ledger H T := ⟨∅, ∅, []⟩

/-- What can happen to a ledger. -/
inductive Step : Ledger H T → Ledger H T → Prop
  | issue {l : Ledger H T} (holder : H) (ticket : T) (hfresh : ∀ other, (other, ticket) ∉ l.issued) :
    Step l { l with issued := insert (holder, ticket) l.issued, pending := insert (holder, ticket) l.pending }
  | drop {l : Ledger H T} (entry : H × T) : Step l { l with pending := l.pending \ {entry} }
  | redeem {l : Ledger H T} (entry : H × T) (hpending : entry ∈ l.pending) :
    Step l { l with pending := l.pending \ {entry}, redeemed := l.redeemed ++ [entry] }

/-- Issued tickets have one holder, pending and redeemed ones were issued, and redeemed ones are gone. -/
structure Ledger.Sound (l : Ledger H T) : Prop where
  holder_unique : ∀ holder other ticket, (holder, ticket) ∈ l.issued → (other, ticket) ∈ l.issued → holder = other
  pending_issued : ∀ entry ∈ l.pending, entry ∈ l.issued
  redeemed_issued : ∀ entry ∈ l.redeemed, entry ∈ l.issued
  redeemed_gone : ∀ entry ∈ l.redeemed, entry ∉ l.pending
  redeemed_nodup : l.redeemed.Nodup

/-- The empty ledger is sound. -/
theorem Ledger.Sound.empty : (Ledger.empty : Ledger H T).Sound :=
  ⟨by simp [Ledger.empty], by simp [Ledger.empty], by simp [Ledger.empty], by simp [Ledger.empty], List.nodup_nil⟩

/-- A step keeps a ledger sound. -/
theorem Ledger.Sound.step {l l' : Ledger H T} (h : l.Sound) (hstep : Step l l') : l'.Sound := by
  cases hstep with
  | issue holder ticket hfresh =>
    have hnew (entry : H × T) (hentry : entry ∈ l.redeemed) : entry ≠ (holder, ticket) := by
      rintro rfl
      exact hfresh holder (h.redeemed_issued _ hentry)
    refine ⟨?_, ?_, fun entry hentry => Or.inr (h.redeemed_issued entry hentry), ?_, h.redeemed_nodup⟩
    · rintro a b t (ha | ha) (hb | hb)
      · exact (Prod.mk.inj ha).1.trans (Prod.mk.inj hb).1.symm
      · exact absurd ((Prod.mk.inj ha).2 ▸ hb) (hfresh b)
      · exact absurd ((Prod.mk.inj hb).2 ▸ ha) (hfresh a)
      · exact h.holder_unique a b t ha hb
    · rintro entry (rfl | hentry)
      · exact Or.inl rfl
      · exact Or.inr (h.pending_issued entry hentry)
    · rintro entry hentry (rfl | hpending)
      · exact hnew _ hentry rfl
      · exact h.redeemed_gone entry hentry hpending
  | drop entry =>
    exact ⟨h.holder_unique, fun e he => h.pending_issued e he.1, h.redeemed_issued,
      fun e he hpending => h.redeemed_gone e he hpending.1, h.redeemed_nodup⟩
  | redeem entry hpending =>
    refine ⟨h.holder_unique, fun e he => h.pending_issued e he.1, ?_, ?_, ?_⟩
    · rw [List.forall_mem_append, List.forall_mem_singleton]
      exact ⟨h.redeemed_issued, h.pending_issued entry hpending⟩
    · rw [List.forall_mem_append, List.forall_mem_singleton]
      exact ⟨fun e he hgone => h.redeemed_gone e he hgone.1, fun hgone => hgone.2 rfl⟩
    · rw [List.nodup_append_comm, List.singleton_append, List.nodup_cons]
      exact ⟨fun hentry => h.redeemed_gone entry hentry hpending, h.redeemed_nodup⟩

/-- Every run from the empty ledger is sound. -/
theorem Ledger.Sound.of_run {l : Ledger H T} (h : Relation.ReflTransGen Step Ledger.empty l) : l.Sound := by
  induction h with
  | refl => exact Ledger.Sound.empty
  | tail _ hstep ih => exact ih.step hstep

/-- No ticket of a sound ledger is redeemed twice, by whichever holders. -/
theorem Ledger.Sound.tickets_nodup {l : Ledger H T} (h : l.Sound) : (l.redeemed.map Prod.snd).Nodup := by
  refine List.Nodup.map_on ?_ h.redeemed_nodup
  rintro ⟨a, t⟩ ha ⟨b, t'⟩ hb (rfl : t = t')
  rw [h.holder_unique a b t (h.redeemed_issued _ ha) (h.redeemed_issued _ hb)]

end SingleUse
