import Mathlib.Algebra.GroupWithZero.Nat
import Mathlib.Data.List.Nodup

/-!
# Insertion-ordered dictionaries

A dictionary is a list of entries with distinct keys.  `set` replaces a value in place or appends a new
entry; `total` adds a weight up over all entries.
-/

structure Dict (κ ν : Type) where
  entries : List (κ × ν)
  nodup : (entries.map Prod.fst).Nodup

namespace Dict

open List

variable {κ ν : Type}

def empty : Dict κ ν := ⟨[], nodup_nil⟩

def filter (d : Dict κ ν) (p : κ → ν → Bool) : Dict κ ν where
  entries := d.entries.filter fun e => p e.1 e.2
  nodup := d.nodup.sublist (filter_sublist.map Prod.fst)

def total (f : κ → ν → Nat) (d : Dict κ ν) : Nat := (d.entries.map fun e => f e.1 e.2).sum

theorem total_filter (f : κ → ν → Nat) (d : Dict κ ν) (p : κ → ν → Bool) :
    (d.filter p).total f +
      ((d.entries.filter fun e => !p e.1 e.2).map fun e => f e.1 e.2).sum = d.total f := by
  show ((d.entries.filter fun e => p e.1 e.2).map fun e => f e.1 e.2).sum + _ = _
  unfold total
  induction d.entries with
  | nil => rfl
  | cons e entries ih =>
    cases hp : p e.1 e.2 <;> simp only [filter_cons, hp, Bool.not_true, Bool.not_false,
      if_true, Bool.false_eq_true, if_false, map_cons, sum_cons]
    · omega
    · omega

variable [DecidableEq κ]

section

variable (d : Dict κ ν) (k : κ)

def get : Option ν := (d.entries.find? fun e => decide (e.1 = k)).map Prod.snd

/-- `del d[k]`. -/
def erase : Dict κ ν := d.filter fun j _ => !decide (j = k)

/-- `d[k] = v`. -/
def set (v : ν) : Dict κ ν :=
  if h : k ∈ d.entries.map Prod.fst then
    { entries := d.entries.map fun e => if e.1 = k then (k, v) else e
      nodup := by
        have hkeys : (d.entries.map fun e => if e.1 = k then (k, v) else e).map Prod.fst
            = d.entries.map Prod.fst := by
          rw [map_map]
          refine map_congr_left fun e _ => ?_
          by_cases he : e.1 = k <;> simp [he]
        rw [hkeys]
        exact d.nodup }
  else
    { entries := d.entries ++ [(k, v)]
      nodup := by
        rw [map_append, map_singleton]
        exact d.nodup.append (nodup_singleton k) (disjoint_singleton.mpr h) }

theorem filter_key :
    d.entries.filter (fun e => decide (e.1 = k)) = (d.get k).toList.map fun v => (k, v) := by
  have hnodup := d.nodup
  unfold get
  generalize d.entries = entries at hnodup ⊢
  induction entries with
  | nil => rfl
  | cons e entries ih =>
    rw [map_cons, nodup_cons] at hnodup
    by_cases he : e.1 = k
    · -- no later entry has the key
      have hrest : entries.filter (fun e => decide (e.1 = k)) = [] := by
        refine filter_eq_nil_iff.mpr fun e' he' => ?_
        rw [decide_eq_true_eq, ← he]
        exact fun heq => hnodup.1 (mem_map.mpr ⟨e', he', heq⟩)
      subst he
      simp [hrest]
    · simp [he, ih hnodup.2]

theorem get_erase_self : (d.erase k).get k = none := by
  refine Option.map_eq_none_iff.mpr (List.find?_eq_none.mpr fun e he => ?_)
  simpa using (mem_filter.mp he).2

end

variable {k j : κ} {pairs : List (κ × ν)}

theorem get_eq_some_iff (d : Dict κ ν) {v : ν} : d.get k = some v ↔ (k, v) ∈ d.entries := by
  have hkey : (k, v) ∈ d.entries.filter (fun e => decide (e.1 = k)) ↔ (k, v) ∈ d.entries := by
    rw [mem_filter, decide_eq_true_eq, and_iff_left rfl]
  rw [← hkey, filter_key]
  simp

theorem get_filter (d : Dict κ ν) (p : κ → ν → Bool) (k : κ) :
    (d.filter p).get k = (d.get k).filter (p k) := by
  refine Option.ext fun v => ?_
  rw [get_eq_some_iff, Option.filter_eq_some_iff, get_eq_some_iff]
  exact mem_filter

theorem get_erase_ne (d : Dict κ ν) (h : j ≠ k) : (d.erase k).get j = d.get j := by
  unfold erase
  rw [get_filter]
  cases d.get j with
  | none => rfl
  | some v => simp [h]

def weight (f : κ → ν → Nat) (d : Dict κ ν) (k : κ) : Nat := (d.get k).elim 0 (f k)

theorem total_erase (f : κ → ν → Nat) (d : Dict κ ν) (k : κ) :
    (d.erase k).total f + d.weight f k = d.total f := by
  have hfilter := total_filter f d fun j _ => !decide (j = k)
  simp only [Bool.not_not, filter_key] at hfilter
  unfold erase weight
  cases hget : d.get k with
  | some v | none => simpa [hget] using hfilter

theorem get_set_self (d : Dict κ ν) (k : κ) (v : ν) : (d.set k v).get k = some v := by
  unfold set get
  split
  · rename_i hmem
    simp only [List.find?_map]
    obtain ⟨e, he, hkey⟩ := mem_map.mp hmem
    cases hfind : d.entries.find? ((fun e => decide (e.1 = k)) ∘ fun e =>
        if e.1 = k then (k, v) else e) with
    | none =>
      have hnot := List.find?_eq_none.mp hfind e he
      simp [hkey] at hnot
    | some e' =>
      have hfound := List.find?_some hfind
      by_cases he' : e'.1 = k
      · simp [he']
      · simp [he'] at hfound
  · rename_i hmem
    have hnone : d.entries.find? (fun e => decide (e.1 = k)) = none := by
      refine List.find?_eq_none.mpr fun e he => ?_
      rw [decide_eq_true_eq]
      exact fun hkey => hmem (mem_map.mpr ⟨e, he, hkey⟩)
    simp [List.find?_append, hnone]

theorem erase_set (d : Dict κ ν) (k : κ) (v : ν) :
    ((d.set k v).erase k).entries = (d.erase k).entries := by
  unfold erase filter set
  split
  · simp only
    induction d.entries with
    | nil => rfl
    | cons e entries ih =>
      by_cases he : e.1 = k
      · simpa [he] using ih
      · simpa [he] using ih
  · simp

theorem get_set_ne (d : Dict κ ν) (h : j ≠ k) (v : ν) : (d.set k v).get j = d.get j := by
  rw [← get_erase_ne (d.set k v) h, ← get_erase_ne d h]
  unfold get
  rw [erase_set]

theorem total_set (f : κ → ν → Nat) (d : Dict κ ν) (k : κ) (v : ν) :
    (d.set k v).total f + d.weight f k = d.total f + f k v := by
  have hbefore := total_erase f d k
  have hafter := total_erase f (d.set k v) k
  have hrest : ((d.set k v).erase k).total f = (d.erase k).total f := by
    unfold total
    rw [erase_set]
  have hweight : (d.set k v).weight f k = f k v := by
    unfold weight
    rw [get_set_self]
    rfl
  omega

/-- `d[k] = v` for each of the pairs. -/
def setAll (d : Dict κ ν) (pairs : List (κ × ν)) : Dict κ ν :=
  pairs.foldl (fun d e => d.set e.1 e.2) d

theorem get_setAll_of_not_mem {d : Dict κ ν}
    (h : k ∉ pairs.map Prod.fst) : (d.setAll pairs).get k = d.get k := by
  induction pairs generalizing d with
  | nil => rfl
  | cons e pairs ih =>
    rw [map_cons, mem_cons, not_or] at h
    show ((d.set e.1 e.2).setAll pairs).get k = d.get k
    rw [ih h.2, get_set_ne d h.1]

theorem get_setAll_of_mem (d : Dict κ ν)
    (h : k ∈ pairs.map Prod.fst) : ∃ v, (d.setAll pairs).get k = some v ∧ (k, v) ∈ pairs := by
  induction pairs generalizing d with
  | nil => exact absurd h not_mem_nil
  | cons e pairs ih =>
    by_cases hrest : k ∈ pairs.map Prod.fst
    · obtain ⟨v, hget, hmem⟩ := ih (d.set e.1 e.2) hrest
      exact ⟨v, hget, mem_cons_of_mem _ hmem⟩
    · rw [map_cons, mem_cons, or_iff_left hrest] at h
      subst h
      refine ⟨e.2, ?_, mem_cons_self⟩
      show ((d.set e.1 e.2).setAll pairs).get e.1 = some e.2
      rw [get_setAll_of_not_mem hrest, get_set_self]

theorem mem_of_mem_setAll_empty {e : κ × ν}
    (h : e ∈ ((empty : Dict κ ν).setAll pairs).entries) : e ∈ pairs := by
  have hget : ((empty : Dict κ ν).setAll pairs).get e.1 = some e.2 := (get_eq_some_iff _).mpr h
  by_cases hmem : e.1 ∈ pairs.map Prod.fst
  · obtain ⟨v, hv, hpair⟩ := get_setAll_of_mem empty hmem
    rw [hget] at hv
    cases hv
    exact hpair
  · rw [get_setAll_of_not_mem hmem] at hget
    cases hget

/-- The last pair of a key is the one that stays. -/
theorem get_setAll_last (d : Dict κ ν) {before after : List (κ × ν)} {v : ν}
    (h : k ∉ after.map Prod.fst) : (d.setAll (before ++ (k, v) :: after)).get k = some v := by
  have hsplit : d.setAll (before ++ (k, v) :: after) = ((d.setAll before).set k v).setAll after :=
    foldl_append
  rw [hsplit, get_setAll_of_not_mem h, get_set_self]

theorem mem_setAll_empty_iff {e : κ × ν}
    (h : ∀ k v v', (k, v) ∈ pairs → (k, v') ∈ pairs → v = v') :
    e ∈ ((empty : Dict κ ν).setAll pairs).entries ↔ e ∈ pairs := by
  refine ⟨mem_of_mem_setAll_empty, fun he => ?_⟩
  obtain ⟨v, hget, hmem⟩ := get_setAll_of_mem empty (mem_map.mpr ⟨e, he, rfl⟩)
  rw [h e.1 v e.2 hmem he] at hget
  exact (get_eq_some_iff _).mp hget

end Dict
