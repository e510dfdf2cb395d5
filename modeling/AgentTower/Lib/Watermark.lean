import Mathlib.Data.List.Perm.Basic

/-!
# Reading a growing log by a watermark

A log whose entries have growing numbers is read in pages.  The reader keeps one number: what it has
had is at most the number, what it has still to get is above it.
-/

namespace Watermark

open List

variable {α : Type*} {number : α → Nat} {log seen rest : List α} {bound : Nat}

structure Split (number : α → Nat) (log : List α) (bound : Nat) (seen rest : List α) : Prop where
  log_eq : log = seen ++ rest
  seen_le : ∀ a ∈ seen, number a ≤ bound
  lt_rest : ∀ a ∈ rest, bound < number a

namespace Split

theorem of_ordered (h : log.Pairwise fun a b => number a < number b) (bound : Nat) :
    Split number log bound (log.filter fun a => decide (number a ≤ bound))
      (log.filter fun a => decide (bound < number a)) := by
  refine ⟨?_, fun a ha => of_decide_eq_true (mem_filter.mp ha).2,
    fun a ha => of_decide_eq_true (mem_filter.mp ha).2⟩
  induction log with
  | nil => rfl
  | cons a log ih =>
    obtain ⟨hfirst, hrest⟩ := pairwise_cons.mp h
    by_cases ha : number a ≤ bound
    · rw [filter_cons, filter_cons, if_pos (by simpa using ha),
        if_neg (by simpa using ha), cons_append, ← ih hrest]
    · -- the first is above the bound, and so is everything after it
      have hnone : log.filter (fun a => decide (number a ≤ bound)) = [] := by
        refine filter_eq_nil_iff.mpr fun b hb => ?_
        have hlt := hfirst b hb
        simp only [decide_eq_true_eq]
        omega
      have hall : log.filter (fun a => decide (bound < number a)) = log := by
        have hlog := ih hrest
        rw [hnone, nil_append] at hlog
        exact hlog.symm
      rw [filter_cons, filter_cons, if_neg (by simpa using ha),
        if_pos (by simpa using ha), hnone, hall, nil_append]

theorem filter_lt (h : Split number log bound seen rest) :
    log.filter (fun a => decide (bound < number a)) = rest := by
  have hseen : seen.filter (fun a => decide (bound < number a)) = [] := by
    refine filter_eq_nil_iff.mpr fun a ha => ?_
    have hle := h.seen_le a ha
    simpa using hle
  have hrest : rest.filter (fun a => decide (bound < number a)) = rest :=
    filter_eq_self.mpr fun a ha => decide_eq_true (h.lt_rest a ha)
  rw [h.log_eq, filter_append, hseen, hrest, nil_append]

theorem grow (h : Split number log bound seen rest) {new : List α}
    (hnew : ∀ a ∈ new, bound < number a) : Split number (log ++ new) bound seen (rest ++ new) := by
  refine ⟨?_, h.seen_le, ?_⟩
  · rw [h.log_eq, append_assoc]
  · intro a ha
    rcases mem_append.mp ha with ha | ha
    · exact h.lt_rest a ha
    · exact hnew a ha

theorem advance {page rest' : List α} {last : α} (h : Split number log bound seen (page ++ rest'))
    (hordered : (page ++ rest').Pairwise fun a b => number a < number b)
    (hlast : page.getLast? = some last) : Split number log (number last) (seen ++ page) rest' := by
  obtain ⟨hpage, -, hacross⟩ := pairwise_append.mp hordered
  -- the page in front of its last element
  obtain ⟨front, rfl⟩ := List.getLast?_eq_some_iff.mp hlast
  have hmem : last ∈ front ++ [last] := mem_append_right _ mem_cons_self
  refine ⟨?_, fun a ha => ?_, fun a ha => hacross last hmem a ha⟩
  · rw [h.log_eq, append_assoc seen]
  · rcases mem_append.mp ha with ha | ha
    · have hle := h.seen_le a ha
      have hlt := h.lt_rest last (mem_append_left _ hmem)
      omega
    · rcases mem_append.mp ha with ha | ha
      · exact Nat.le_of_lt ((pairwise_append.mp hpage).2.2 a ha last mem_cons_self)
      · exact Nat.le_of_eq (congrArg number (mem_singleton.mp ha))

theorem rest_sublist (h : Split number log bound seen rest) : rest.Sublist log := by
  rw [h.log_eq]
  exact sublist_append_right _ _

end Split

end Watermark
