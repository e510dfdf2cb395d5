import Mathlib.Data.List.Induction

/-!
# Double-ended queues with a maximal length

`append` on a full queue evicts from the left.  Evictions and contents together are the old contents
and the new element, in order.
-/

/-- `deque(maxlen=maxlen)`; the bound is part of the type. -/
structure Deque (α : Type*) (maxlen : Nat) where
  items : List α
  bounded : items.length ≤ maxlen

namespace Deque

open List

variable {α : Type*} {maxlen : Nat}

def empty : Deque α maxlen := ⟨[], Nat.zero_le _⟩

section

variable (d : Deque α maxlen)

def evicted (x : α) : List α :=
  (d.items ++ [x]).take (d.items.length + 1 - maxlen)

def append (x : α) : Deque α maxlen where
  items := (d.items ++ [x]).drop (d.items.length + 1 - maxlen)
  bounded := by
    rw [length_drop, length_append, length_singleton]
    omega

def popleft : Deque α maxlen where
  items := d.items.tail
  bounded := by
    have hbounded := d.bounded
    rw [length_tail]
    omega

def modifyHead (f : α → α) : Deque α maxlen where
  items := d.items.modifyHead f
  bounded := by
    rw [length_modifyHead]
    exact d.bounded

theorem evicted_append_items (x : α) : d.evicted x ++ (d.append x).items = d.items ++ [x] :=
  take_append_drop _ _

end

theorem evicted_eq (hpos : 0 < maxlen) (d : Deque α maxlen) (x : α) :
    d.evicted x = if d.items.length = maxlen then d.items.take 1 else [] := by
  have hbounded := d.bounded
  unfold evicted
  split
  · rename_i hfull
    rw [hfull, show maxlen + 1 - maxlen = 1 by omega, take_append_of_le_length (by omega)]
  · rw [show d.items.length + 1 - maxlen = 0 by omega, take_zero]

theorem evicted_of_room {d : Deque α maxlen} (h : d.items.length < maxlen) (x : α) :
    d.evicted x = [] := by
  unfold evicted
  rw [show d.items.length + 1 - maxlen = 0 by omega, take_zero]

theorem items_append_of_room {d : Deque α maxlen} (h : d.items.length < maxlen) (x : α) :
    (d.append x).items = d.items ++ [x] := by
  rw [← d.evicted_append_items x, evicted_of_room h x, nil_append]

theorem length_evicted (d : Deque α maxlen) (x : α) :
    (d.evicted x).length = if maxlen ≤ d.items.length then 1 else 0 := by
  have hbounded := d.bounded
  unfold evicted
  rw [length_take, length_append, length_singleton]
  split <;> omega

/-- Appended to one after another, an empty queue has the last elements. -/
theorem items_foldl_append (xs : List α) :
    (xs.foldl append (empty : Deque α maxlen)).items = xs.drop (xs.length - maxlen) := by
  induction xs using reverseRecOn with
  | nil => exact drop_nil.symm
  | append_singleton xs x ih =>
    rw [foldl_append]
    show ((xs.foldl append (empty : Deque α maxlen)).items ++ [x]).drop _ = _
    rw [ih, length_drop, ← drop_append_of_le_length (by omega), drop_drop, length_append,
      length_singleton]
    congr 1
    omega

end Deque
