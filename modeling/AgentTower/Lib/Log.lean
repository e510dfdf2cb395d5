import Mathlib.Data.List.Nodup
import Mathlib.Data.List.Pairwise

/-!
# Append-only logs and the cursors of their readers

A log hands out increasing ids.  A reader remembers the id up to which it has read and works off a
batch from the front.  `Ahead` is what a batch keeps while the log grows behind it, and `Covered` is
what the reader owes: every row that the cursor has passed has been settled.
-/

structure Log (α : Type*) (id : α → Nat) where
  rows : List α
  sorted : rows.Pairwise fun a b => id a < id b

namespace Log

open List Option

variable {α : Type*} {id : α → Nat}

def empty : Log α id := ⟨[], List.Pairwise.nil⟩

/-- The greatest id so far, `0` in the empty log. -/
def maxId (log : Log α id) : Nat := (log.rows.getLast?.map id).getD 0

theorem le_maxId {log : Log α id} {e : α} (h : e ∈ log.rows) : id e ≤ log.maxId := by
  have hsorted := log.sorted
  unfold maxId
  rcases eq_nil_or_concat log.rows with hnil | ⟨rows, last, hrows⟩
  · rw [hnil] at h
    cases h
  · rw [hrows, concat_eq_append] at h hsorted ⊢
    rw [List.getLast?_append, List.getLast?_singleton, some_or, map_some, getD_some]
    rcases mem_append.mp h with hmem | hlast
    · exact Nat.le_of_lt ((pairwise_append.mp hsorted).2.2 e hmem last (mem_singleton_self last))
    · exact Nat.le_of_eq (congrArg id (mem_singleton.mp hlast))

def push (log : Log α id) (row : Nat → α) (hrow : ∀ n, id (row n) = n) : Log α id where
  rows := log.rows ++ [row (log.maxId + 1)]
  sorted := by
    refine pairwise_append.mpr ⟨log.sorted, pairwise_singleton _ _, ?_⟩
    intro a ha b hb
    rw [mem_singleton.mp hb, hrow]
    exact Nat.lt_succ_of_le (le_maxId ha)

section Push

variable {log : Log α id} {row : Nat → α} {hrow : ∀ n, id (row n) = n}

theorem maxId_push : (log.push row hrow).maxId = log.maxId + 1 := by
  unfold push
  rw [maxId, List.getLast?_append, List.getLast?_singleton, some_or, map_some, getD_some, hrow]

theorem mem_push_of_mem {e : α} (h : e ∈ log.rows) : e ∈ (log.push row hrow).rows :=
  mem_append_left _ h

theorem mem_push {e : α} (h : e ∈ (log.push row hrow).rows) :
    e ∈ log.rows ∨ id e = log.maxId + 1 := by
  rcases mem_append.mp h with hold | hnew
  · exact .inl hold
  · rw [mem_singleton.mp hnew, hrow]
    exact .inr rfl

end Push

def map (log : Log α id) (f : α → α) (hf : ∀ a, id (f a) = id a) : Log α id where
  rows := log.rows.map f
  sorted := by
    rw [pairwise_map]
    simpa only [hf] using log.sorted

theorem eq_of_id {log : Log α id} {a b : α} (ha : a ∈ log.rows) (hb : b ∈ log.rows)
    (h : id a = id b) : a = b := by
  have hnodup : (log.rows.map id).Nodup := by
    rw [List.Nodup, pairwise_map]
    exact log.sorted.imp fun hlt => Nat.ne_of_lt hlt
  exact inj_on_of_nodup_map hnodup ha hb h

/-- The first `limit` rows behind the cursor that pass the test. -/
def after (log : Log α id) (cursor : Nat) (p : α → Bool) (limit : Nat) : List α :=
  (log.rows.filter fun e => decide (cursor < id e) && p e).take limit

/-! ## Batches -/

/-- `batch` is the front of what the reader has not read. -/
structure Ahead (log : Log α id) (cursor : Nat) (p : α → Bool) (batch : List α) : Prop where
  sorted : batch.Pairwise fun a b => id a < id b
  unread : ∀ e ∈ batch, e ∈ log.rows ∧ p e = true ∧ cursor < id e
  front : ∀ e ∈ log.rows, p e = true → cursor < id e → e ∈ batch ∨ ∀ x ∈ batch, id x < id e

/-- `e` is what the reader comes to next. -/
structure IsNext (log : Log α id) (cursor : Nat) (p : α → Bool) (e : α) : Prop where
  mem : e ∈ log.rows
  test : p e = true
  unread : cursor < id e
  first : ∀ x ∈ log.rows, p x = true → cursor < id x → x = e ∨ id e < id x

variable {log : Log α id} {cursor : Nat} {p : α → Bool}

theorem ahead_after (log : Log α id) (cursor : Nat) (p : α → Bool) (limit : Nat) :
    Ahead log cursor p (log.after cursor p limit) := by
  have hsorted : (log.rows.filter fun e => decide (cursor < id e) && p e).Pairwise
      fun a b => id a < id b := log.sorted.filter _
  refine ⟨hsorted.take, fun e he => ?_, fun e he hp hcursor => ?_⟩
  · have hmem := mem_filter.mp (mem_of_mem_take he)
    simp only [Bool.and_eq_true, decide_eq_true_eq] at hmem
    exact ⟨hmem.1, hmem.2.2, hmem.2.1⟩
  · have hmem : e ∈ log.rows.filter fun e => decide (cursor < id e) && p e :=
      mem_filter.mpr ⟨he, by simp [hp, hcursor]⟩
    -- what the limit cut off comes after what it left
    rw [← take_append_drop limit (log.rows.filter _)] at hmem hsorted
    rcases mem_append.mp hmem with htake | hdrop
    · exact .inl htake
    · exact .inr fun x hx => (pairwise_append.mp hsorted).2.2 x hx e hdrop

namespace Ahead

variable {e : α} {batch : List α}

theorem isNext (h : Ahead log cursor p (e :: batch)) : IsNext log cursor p e := by
  obtain ⟨he, hp, hcursor⟩ := h.unread e mem_cons_self
  refine ⟨he, hp, hcursor, fun x hx hpx hcursorx => ?_⟩
  rcases h.front x hx hpx hcursorx with hmem | hafter
  · rcases mem_cons.mp hmem with rfl | htail
    · exact .inl rfl
    · exact .inr ((pairwise_cons.mp h.sorted).1 x htail)
  · exact .inr (hafter e mem_cons_self)

theorem tail (h : Ahead log cursor p (e :: batch)) : Ahead log (id e) p batch := by
  obtain ⟨hhead, htail⟩ := pairwise_cons.mp h.sorted
  refine ⟨htail, fun x hx => ?_, fun x hx hp hcursor => ?_⟩
  · have hunread := h.unread x (mem_cons_of_mem _ hx)
    exact ⟨hunread.1, hunread.2.1, hhead x hx⟩
  · have hbefore := (h.unread e mem_cons_self).2.2
    rcases h.front x hx hp (by omega) with hmem | hafter
    · rcases mem_cons.mp hmem with rfl | hbatch
      · exact absurd hcursor (Nat.lt_irrefl _)
      · exact .inl hbatch
    · exact .inr fun y hy => hafter y (mem_cons_of_mem _ hy)

theorem push (h : Ahead log cursor p batch) {row : Nat → α} {hrow : ∀ n, id (row n) = n} :
    Ahead (log.push row hrow) cursor p batch := by
  refine ⟨h.sorted, fun x hx => ?_, fun x hx hp hcursor => ?_⟩
  · exact ⟨mem_push_of_mem (h.unread x hx).1, (h.unread x hx).2⟩
  · rcases mem_push hx with hold | hnew
    · exact h.front x hold hp hcursor
    · refine .inr fun y hy => ?_
      have hle := le_maxId (h.unread y hy).1
      omega

end Ahead

namespace IsNext

variable {e : α}

theorem push (h : IsNext log cursor p e) {row : Nat → α} {hrow : ∀ n, id (row n) = n} :
    IsNext (log.push row hrow) cursor p e := by
  refine ⟨mem_push_of_mem h.mem, h.test, h.unread, fun x hx hp hcursor => ?_⟩
  rcases mem_push hx with hold | hnew
  · exact h.first x hold hp hcursor
  · have hle := le_maxId h.mem
    exact .inr (by omega)

theorem mono (h : IsNext log cursor p e) {cursor' : Nat} (hle : cursor ≤ cursor')
    (hlt : cursor' < id e) : IsNext log cursor' p e :=
  ⟨h.mem, h.test, hlt, fun x hx hp hcursor => h.first x hx hp (by omega)⟩

theorem head?_after (h : IsNext log cursor p e) {limit : Nat} (hlimit : 0 < limit) :
    (log.after cursor p limit).head? = some e := by
  have hahead := ahead_after log cursor p limit
  cases hbatch : log.after cursor p limit with
  | nil =>
    unfold after at hbatch
    rcases take_eq_nil_iff.mp hbatch with hzero | hnone
    · omega
    · have hmem := filter_eq_nil_iff.mp hnone e h.mem
      simp [h.test, h.unread] at hmem
  | cons x batch =>
    rw [hbatch] at hahead
    have hx := hahead.isNext
    rcases hx.first e h.mem h.test h.unread with rfl | hlt
    · rfl
    · rcases h.first x hx.mem hx.test hx.unread with rfl | hgt
      · rfl
      · omega

end IsNext

def Covered (log : Log α id) (p : α → Bool) (start cursor : Nat) (settled : α → Prop) : Prop :=
  ∀ e ∈ log.rows, p e = true → start < id e → id e ≤ cursor → settled e

namespace Covered

variable {start : Nat} {settled : α → Prop}

theorem refl (log : Log α id) (p : α → Bool) (cursor : Nat) (settled : α → Prop) :
    Covered log p cursor cursor settled := by
  intro e _ _ hstart hle
  omega

section

variable (h : Covered log p start cursor settled)
include h

theorem imp {settled' : α → Prop}
    (himp : ∀ e, settled e → settled' e) : Covered log p start cursor settled' :=
  fun e he hp hstart hle => himp e (h e he hp hstart hle)

theorem advance {e : α} {batch : List α}
    (hahead : Ahead log cursor p (e :: batch)) (he : settled e) :
    Covered log p start (id e) settled := by
  intro x hx hp hstart hle
  by_cases hcursor : id x ≤ cursor
  · exact h x hx hp hstart hcursor
  · rcases hahead.isNext.first x hx hp (by omega) with rfl | hlt
    · exact he
    · omega

theorem push (hcursor : cursor ≤ log.maxId)
    {row : Nat → α} {hrow : ∀ n, id (row n) = n} :
    Covered (log.push row hrow) p start cursor settled := by
  intro x hx hp hstart hle
  rcases mem_push hx with hold | hnew
  · exact h x hold hp hstart hle
  · omega

end

end Covered

end Log
