import Mathlib.Data.List.Perm.Basic

/-!
# Calls in progress

A pool is the list of the calls that have been made and not returned.  A step picks one by its place
and replaces it or takes it out.
-/

namespace Pool

open List

variable {α β : Type*}

def held (hold : α → List β) (calls : List α) : List β := calls.flatMap hold

@[simp] theorem held_nil (hold : α → List β) : held hold [] = [] := rfl

@[simp] theorem held_singleton (hold : α → List β) (c : α) : held hold [c] = hold c := by
  simp [held]

theorem held_append (hold : α → List β) (calls calls' : List α) :
    held hold (calls ++ calls') = held hold calls ++ held hold calls' :=
  flatMap_append

variable {calls : List α} {i : Nat} {c c' d : α} {r : α → α → Prop}

theorem held_perm (hold : α → List β) (h : calls[i]? = some c) :
    (held hold calls).Perm (hold c ++ held hold (calls.eraseIdx i)) := by
  obtain ⟨hi, rfl⟩ := List.getElem?_eq_some_iff.mp h
  have hperm := (getElem_cons_eraseIdx_perm hi).flatMap_right hold
  rw [flatMap_cons] at hperm
  exact hperm.symm

theorem held_set_perm (hold : α → List β) (h : calls[i]? = some c) (c' : α) :
    (held hold (calls.set i c')).Perm (hold c' ++ held hold (calls.eraseIdx i)) := by
  obtain ⟨hi, -⟩ := List.getElem?_eq_some_iff.mp h
  have hperm := (set_perm_cons_eraseIdx hi c').flatMap_right hold
  rw [flatMap_cons] at hperm
  exact hperm

theorem mem_held {hold : α → List β} {x : β} (hc : c ∈ calls)
    (hx : x ∈ hold c) : x ∈ held hold calls :=
  mem_flatMap.mpr ⟨c, hc, hx⟩

theorem pairwise_set
    (h : calls.Pairwise r) (hc : calls[i]? = some c) (hbefore : ∀ d, r d c → r d c')
    (hafter : ∀ d, r c d → r c' d) : (calls.set i c').Pairwise r := by
  induction calls generalizing i with
  | nil => exact .nil
  | cons d calls ih =>
    rw [pairwise_cons] at h
    cases i with
    | zero =>
      cases hc
      exact pairwise_cons.mpr ⟨fun e he => hafter e (h.1 e he), h.2⟩
    | succ i =>
      refine pairwise_cons.mpr ⟨fun e he => ?_, ih h.2 hc⟩
      rcases mem_or_eq_of_mem_set he with he | rfl
      · exact h.1 e he
      · exact hbefore d (h.1 c (mem_of_getElem? hc))

theorem pairwise_other {j : Nat}
    (h : calls.Pairwise r) (hc : calls[i]? = some c) (hd : calls[j]? = some d) (hne : j ≠ i) :
    r c d ∨ r d c := by
  rw [pairwise_iff_getElem] at h
  obtain ⟨hi, rfl⟩ := List.getElem?_eq_some_iff.mp hc
  obtain ⟨hj, rfl⟩ := List.getElem?_eq_some_iff.mp hd
  rcases Nat.lt_or_gt_of_ne hne with hlt | hgt
  · exact .inr (h j i hj hi hlt)
  · exact .inl (h i j hi hj hgt)

theorem mem_set (h : d ∈ calls.set i c') : d = c' ∨ ∃ j, j ≠ i ∧ calls[j]? = some d := by
  obtain ⟨j, hj⟩ := mem_iff_getElem?.mp h
  by_cases hji : j = i
  · subst hji
    rw [List.getElem?_set_self'] at hj
    obtain ⟨_, _, rfl⟩ := Option.map_eq_some_iff.mp hj
    exact .inl rfl
  · rw [List.getElem?_set_ne (Ne.symm hji)] at hj
    exact .inr ⟨j, hji, hj⟩

end Pool
