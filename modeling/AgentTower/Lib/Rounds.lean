import Mathlib.Data.List.Basic

/-!
# Work that is done in rounds

A round gets something done of what is left, and what is done stays done.  After as many rounds as
there were items left everything is done (`Rounds.all_done`), whatever happens between the rounds.
-/

theorem countP_lt_countP {α : Type*} {p q : α → Bool} {l : List α} {a : α} (ha : a ∈ l)
    (h : ∀ b ∈ l, p b = true → q b = true) (hq : q a = true) (hp : p a = false) :
    l.countP p < l.countP q := by
  obtain ⟨front, back, rfl⟩ := List.append_of_mem ha
  have hfront : front.countP p ≤ front.countP q :=
    List.countP_mono_left fun b hb => h b (List.mem_append_left _ hb)
  have hback : back.countP p ≤ back.countP q :=
    List.countP_mono_left fun b hb => h b (List.mem_append_right _ (List.mem_cons_of_mem _ hb))
  rw [List.countP_append, List.countP_append, List.countP_cons, List.countP_cons, hq, hp]
  simp only [if_true, Bool.false_eq_true, if_false]
  omega

namespace Transition

open List

variable {σ ρ : Type*}

/-- `n` rounds, with anything that `between` allows before, between and after them. -/
inductive Rounds (between round : σ → σ → Prop) : Nat → σ → σ → Prop
  | none {s t : σ} : between s t → Rounds between round 0 s t
  | more {n : Nat} {s s₁ s₂ t : σ} :
      between s s₁ → round s₁ s₂ → Rounds between round n s₂ t → Rounds between round (n + 1) s t

theorem Rounds.all_done {between round : σ → σ → Prop} {inv : σ → Prop} {done : σ → ρ → Prop}
    [∀ s, DecidablePred (done s)] {items : List ρ}
    (hbetween : ∀ s t, inv s → between s t → inv t ∧ ∀ x, done s x → done t x)
    (hround : ∀ s t, inv s → round s t → inv t ∧ (∀ x, done s x → done t x) ∧
      ∀ x ∈ items, ¬ done s x → ∃ y ∈ items, ¬ done s y ∧ done t y)
    {n : Nat} {s t : σ} (h : Rounds between round n s t) (hs : inv s)
    (hn : items.countP (fun x => decide (¬ done s x)) ≤ n) : ∀ x ∈ items, done t x := by
  -- the number of items that are left goes down with every round
  have hless : ∀ {s t : σ}, (∀ x, done s x → done t x) →
      items.countP (fun x => decide (¬ done t x)) ≤ items.countP (fun x => decide (¬ done s x)) := by
    intro s t hkeep
    refine List.countP_mono_left fun x _ hx => ?_
    simp only [decide_eq_true_eq] at hx ⊢
    exact fun hdone => hx (hkeep x hdone)
  induction h with
  | @none s t hst =>
    intro x hx
    have hzero := countP_eq_zero.mp (Nat.le_zero.mp hn) x hx
    simp only [decide_eq_true_eq, not_not] at hzero
    exact (hbetween s t hs hst).2 x hzero
  | @more n s s₁ s₂ t hst hrnd _ ih =>
    obtain ⟨hs₁, hkeep₁⟩ := hbetween s s₁ hs hst
    obtain ⟨hs₂, hkeep₂, hprogress⟩ := hround s₁ s₂ hs₁ hrnd
    refine ih hs₂ ?_
    have hle := hless hkeep₁
    by_cases hleft : ∃ x ∈ items, ¬ done s₁ x
    · obtain ⟨x, hx, hnot⟩ := hleft
      obtain ⟨y, hy, hbefore, hafter⟩ := hprogress x hx hnot
      have hlt : items.countP (fun x => decide (¬ done s₂ x)) <
          items.countP (fun x => decide (¬ done s₁ x)) := by
        refine countP_lt_countP hy (fun x _ hx => ?_) (by simpa using hbefore)
          (by simpa using hafter)
        simp only [decide_eq_true_eq] at hx ⊢
        exact fun hdone => hx (hkeep₂ x hdone)
      omega
    · have hzero : items.countP (fun x => decide (¬ done s₂ x)) = 0 := by
        rw [countP_eq_zero]
        intro x hx hnot
        exact (of_decide_eq_true hnot) (hkeep₂ x (by_contra fun hn => hleft ⟨x, hx, hn⟩))
      omega

end Transition
