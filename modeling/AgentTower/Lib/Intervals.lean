import Mathlib.Algebra.GroupWithZero.Nat
import Mathlib.Data.List.Basic

/-!
# Lists of half-open intervals

A list of intervals `[start, end)` of natural numbers that lie one after another in `[a, b)`.  Such a
list covers `[a, b)` exactly if its lengths add up to `b - a`; that is how a tiling is counted.
-/

namespace Intervals

open List

/-- The intervals lie in order and without overlap between `a` and `b`. -/
def Within (a b : Nat) : List (Nat × Nat) → Prop
  | [] => a ≤ b
  | r :: rs => a ≤ r.1 ∧ r.1 ≤ r.2 ∧ Within r.2 b rs

def total (rs : List (Nat × Nat)) : Nat := (rs.map fun r => r.2 - r.1).sum

def Covers (a b : Nat) (rs : List (Nat × Nat)) : Prop :=
  ∀ n, (∃ r ∈ rs, r.1 ≤ n ∧ n < r.2) ↔ a ≤ n ∧ n < b

@[simp] theorem total_nil : total [] = 0 := rfl

@[simp] theorem total_cons (r : Nat × Nat) (rs : List (Nat × Nat)) :
    total (r :: rs) = (r.2 - r.1) + total rs := rfl

theorem total_append (rs rs' : List (Nat × Nat)) : total (rs ++ rs') = total rs + total rs' := by
  unfold total
  rw [map_append, sum_append]

namespace Within

variable {a b c : Nat} {rs rs' : List (Nat × Nat)}

section

variable (h : Within a b rs)
include h

theorem le : a ≤ b := by
  induction rs generalizing a with
  | nil => exact h
  | cons r rs ih =>
    have hrest := ih h.2.2
    have hlow := h.1
    have hr := h.2.1
    omega

theorem append (h' : Within b c rs') : Within a c (rs ++ rs') := by
  induction rs generalizing a with
  | nil =>
    cases rs' with
    | nil => exact Nat.le_trans h h'
    | cons r rs' => exact ⟨Nat.le_trans h h'.1, h'.2⟩
  | cons r rs ih => exact ⟨h.1, h.2.1, ih h.2.2⟩

theorem mem {r : Nat × Nat} (hr : r ∈ rs) : a ≤ r.1 ∧ r.1 ≤ r.2 ∧ r.2 ≤ b := by
  induction rs generalizing a with
  | nil => cases hr
  | cons x rs ih =>
    have hle := h.2.2.le
    rcases mem_cons.mp hr with rfl | hr
    · exact ⟨h.1, h.2.1, hle⟩
    · have hrest := ih h.2.2 hr
      have hlow := h.1
      have hx := h.2.1
      omega

theorem pairwise : rs.Pairwise fun r r' => r.2 ≤ r'.1 := by
  induction rs generalizing a with
  | nil => exact List.Pairwise.nil
  | cons r rs ih => exact List.Pairwise.cons (fun _ hr' => (h.2.2.mem hr').1) (ih h.2.2)

theorem total_le : total rs ≤ b - a := by
  induction rs generalizing a with
  | nil => exact Nat.zero_le _
  | cons r rs ih =>
    have hrest := ih h.2.2
    have hle := h.2.2.le
    have hlow := h.1
    have hr := h.2.1
    rw [total_cons]
    omega

end

theorem covers_cons {r : Nat × Nat} (h : Within a b (r :: rs)) :
    Covers a b (r :: rs) ↔ r.1 = a ∧ Covers r.2 b rs := by
  obtain ⟨hlow, hr, hrest⟩ := h
  have hle := hrest.le
  constructor
  · intro hcovers
    have hstart : r.1 = a := by
      by_contra hne
      obtain ⟨x, hx, hxa, hax⟩ := (hcovers a).mpr ⟨Nat.le_refl a, by omega⟩
      rcases mem_cons.mp hx with rfl | hx
      · omega
      · have := (hrest.mem hx).1
        omega
    refine ⟨hstart, fun n => ⟨fun ⟨x, hx, hn⟩ => ?_, fun hn => ?_⟩⟩
    · have := hrest.mem hx
      omega
    · obtain ⟨x, hx, hxn⟩ := (hcovers n).mpr (by omega)
      rcases mem_cons.mp hx with rfl | hx
      · omega
      · exact ⟨x, hx, hxn⟩
  · rintro ⟨hstart, hcovers⟩ n
    constructor
    · rintro ⟨x, hx, hxn⟩
      rcases mem_cons.mp hx with rfl | hx
      · omega
      · have := hrest.mem hx
        omega
    · intro hn
      by_cases hnr : n < r.2
      · exact ⟨r, mem_cons_self .., by omega⟩
      · obtain ⟨x, hx, hxn⟩ := (hcovers n).mpr ⟨by omega, hn.2⟩
        exact ⟨x, mem_cons_of_mem _ hx, hxn⟩

theorem covers_iff (h : Within a b rs) : Covers a b rs ↔ total rs = b - a := by
  induction rs generalizing a with
  | nil =>
    have hle : a ≤ b := h
    constructor
    · intro hcovers
      by_contra hne
      rw [total_nil] at hne
      obtain ⟨x, hx, -⟩ := (hcovers a).mpr ⟨Nat.le_refl a, by omega⟩
      cases hx
    · intro htotal n
      rw [total_nil] at htotal
      refine ⟨fun ⟨x, hx, _⟩ => (by cases hx), fun hn => by omega⟩
  | cons r rs ih =>
    rw [covers_cons h, ih h.2.2, total_cons]
    have hrest := h.2.2.total_le
    have hle := h.2.2.le
    have hlow := h.1
    have hr := h.2.1
    omega

end Within

end Intervals
