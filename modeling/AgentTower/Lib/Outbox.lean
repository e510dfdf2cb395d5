import Mathlib.Data.Finset.Basic

/-!
# Outboxes

The items of a store are copied to a place that the store's transactions do not reach, and marked in
the store afterwards; without a mark an item is copied again.  `Inv.balance` is the account of the
copies: marked, given up, or with the mark still to come.
-/

@[ext]
structure Outbox (ι : Type*) where
  items : Finset ι
  marked : Finset ι
  copies : Multiset ι
  /-- The item whose copy has been made and whose mark is next. -/
  copied : Option ι
  /-- The copies whose mark did not come. -/
  givenUp : Multiset ι

namespace Outbox

variable {ι : Type*} [DecidableEq ι]

inductive Step : Outbox ι → Outbox ι → Prop
  | commit (o : Outbox ι) (new : Finset ι) : Step o { o with items := o.items ∪ new }
  | copy {o : Outbox ι} {i : ι} (hitem : i ∈ o.items) (hopen : i ∉ o.marked)
      (hidle : o.copied = none) : Step o { o with copies := i ::ₘ o.copies, copied := some i }
  | mark {o : Outbox ι} {i : ι} (hcopied : o.copied = some i) :
      Step o { o with marked := insert i o.marked, copied := none }
  | giveUp {o : Outbox ι} {i : ι} (hcopied : o.copied = some i) :
      Step o { o with givenUp := i ::ₘ o.givenUp, copied := none }

structure Inv (o : Outbox ι) : Prop where
  marked_items : o.marked ⊆ o.items
  copied_open : ∀ i, o.copied = some i → i ∈ o.items ∧ i ∉ o.marked
  balance : ∀ i, o.copies.count i =
    (if i ∈ o.marked then 1 else 0) + o.givenUp.count i + (if o.copied = some i then 1 else 0)

variable {o o' : Outbox ι} {i : ι}

theorem Inv.step (h : Inv o) (hstep : Step o o') : Inv o' := by
  cases hstep with
  | commit new =>
    refine ⟨h.marked_items.trans Finset.subset_union_left, fun i hi => ?_, h.balance⟩
    exact ⟨Finset.mem_union_left _ (h.copied_open i hi).1, (h.copied_open i hi).2⟩
  | @copy i hitem hopen hidle =>
    refine ⟨h.marked_items, fun j hj => ?_, fun j => ?_⟩
    · cases hj
      exact ⟨hitem, hopen⟩
    · have hbalance := h.balance j
      rw [hidle] at hbalance
      by_cases hij : j = i
      · subst hij
        simp [hbalance]
      · simp [hbalance, hij, Ne.symm hij]
  | @mark i hcopied =>
    obtain ⟨hitem, hopen⟩ := h.copied_open i hcopied
    refine ⟨Finset.insert_subset hitem h.marked_items, nofun, fun j => ?_⟩
    have hbalance := h.balance j
    rw [hcopied] at hbalance
    by_cases hij : j = i
    · subst hij
      simp only [hopen, if_false, if_true, Nat.zero_add] at hbalance
      simp [hbalance, Nat.add_comm]
    · simpa [hij, Ne.symm hij] using hbalance
  | @giveUp i hcopied =>
    refine ⟨h.marked_items, nofun, fun j => ?_⟩
    have hbalance := h.balance j
    rw [hcopied] at hbalance
    by_cases hij : j = i
    · subst hij
      simpa [Nat.add_assoc] using hbalance
    · simpa [hij, Ne.symm hij] using hbalance

theorem Inv.steps (h : Inv o) (hsteps : Relation.ReflTransGen Step o o') : Inv o' := by
  induction hsteps with
  | refl => exact h
  | tail _ hstep ih => exact ih.step hstep

theorem copy_giveUp (hitem : i ∈ o.items) (hopen : i ∉ o.marked) (hidle : o.copied = none) :
    Relation.ReflTransGen Step o
      { o with copies := i ::ₘ o.copies, copied := none, givenUp := i ::ₘ o.givenUp } :=
  .tail (.single (.copy hitem hopen hidle)) (.giveUp rfl)

theorem Inv.mem_copies (h : Inv o) (hi : i ∈ o.marked) : i ∈ o.copies := by
  have hbalance := h.balance i
  rw [if_pos hi] at hbalance
  exact Multiset.count_pos.mp (by omega)

theorem Inv.count_copies_le (h : Inv o) (i : ι) : o.copies.count i ≤ 1 + o.givenUp.count i := by
  have hbalance := h.balance i
  by_cases hcopied : o.copied = some i
  · rw [if_neg (h.copied_open i hcopied).2, if_pos hcopied] at hbalance
    omega
  · rw [if_neg hcopied] at hbalance
    split at hbalance <;> omega

end Outbox
