import Mathlib.Data.List.Nodup
import Mathlib.Data.List.Pairwise

/-!
# Tables with a primary key, a partial unique index and a CHECK

The rows of a table are a list in insertion order.  The constraints are part of the type: a statement
that would break them is refused.  `UPDATE … SET … WHERE …` is `update`; a `Patch` is the `SET` part,
which keeps both keys.
-/

namespace Sql

open List

variable {ρ κ υ : Type*}

/-- `index r = none` says that the partial index does not cover `r`. -/
structure Table (key : ρ → κ) (index : ρ → Option υ) (check : ρ → Bool) where
  rows : List ρ
  primary : (rows.map key).Nodup
  unique : (rows.filterMap index).Nodup
  checked : ∀ r ∈ rows, check r = true

/-- The `SET` part of an `UPDATE` on non-key columns. -/
structure Patch (key : ρ → κ) (index : ρ → Option υ) where
  set : ρ → ρ
  key_set : ∀ r, key (set r) = key r
  index_set : ∀ r, index (set r) = index r

/-- The `SET` part of an `UPDATE` on columns that the unique index may cover. -/
structure Rewrite (key : ρ → κ) where
  set : ρ → ρ
  key_set : ∀ r, key (set r) = key r

namespace Table

variable {key : ρ → κ} {index : ρ → Option υ} {check : ρ → Bool}

def empty : Table key index check :=
  ⟨[], nodup_nil, nodup_nil, by simp⟩

section

variable (p : Patch key index) (sel : ρ → Bool) (r : ρ)

/-- The rows after the `SET` part of an `UPDATE` over the selected rows. -/
def patched : ρ := if sel r then p.set r else r

theorem key_patched : key (patched p sel r) = key r := by
  unfold patched
  split
  · exact p.key_set r
  · rfl

theorem index_patched : index (patched p sel r) = index r := by
  unfold patched
  split
  · exact p.index_set r
  · rfl

end

/-- Apply the patch to the rows that `sel` selects; `none` is a violated `CHECK`. -/
def update (t : Table key index check) (sel : ρ → Bool) (p : Patch key index) :
    Option (Table key index check) :=
  if h : ∀ r ∈ t.rows, sel r = true → check (p.set r) = true then
    some
      { rows := t.rows.map (patched p sel)
        primary := by
          have hkeys : (t.rows.map (patched p sel)).map key = t.rows.map key := by
            rw [map_map]
            exact map_congr_left fun r _ => key_patched p sel r
          rw [hkeys]
          exact t.primary
        unique := by
          have hindex : (t.rows.map (patched p sel)).filterMap index
              = t.rows.filterMap index := by
            rw [filterMap_map]
            exact filterMap_congr fun r _ => index_patched p sel r
          rw [hindex]
          exact t.unique
        checked := by
          intro r hr
          obtain ⟨r₀, hr₀, rfl⟩ := mem_map.mp hr
          unfold patched
          split
          · exact h r₀ hr₀ ‹_›
          · exact t.checked r₀ hr₀ }
  else none

/-- `cursor.rowcount` of the same `UPDATE`. -/
def rowcount (t : Table key index check) (sel : ρ → Bool) : Nat := t.rows.countP sel

variable {t t' : Table key index check} {sel : ρ → Bool} {p : Patch key index} {r : ρ} {k : κ}

theorem rowcount_eq_zero_iff : t.rowcount sel = 0 ↔ ∀ r ∈ t.rows, sel r = false := by
  unfold rowcount
  rw [countP_eq_zero]
  simp

theorem rows_update (h : t.update sel p = some t') : t'.rows = t.rows.map (patched p sel) := by
  unfold update at h
  split at h <;> cases h
  rfl

theorem update_succeeds
    (h : ∀ r ∈ t.rows, sel r = true → check (p.set r) = true) : ∃ t', t.update sel p = some t' := by
  unfold update
  rw [dif_pos h]
  exact ⟨_, rfl⟩

theorem eq_of_index {s : ρ} {u : υ} (hr : r ∈ t.rows)
    (hs : s ∈ t.rows) (hru : index r = some u) (hsu : index s = some u) : r = s := by
  by_contra hne
  have hunique := pairwise_filterMap.mp t.unique
  have hsymm : Std.Symm fun a b : ρ => ∀ v, index a = some v → ∀ w, index b = some w → v ≠ w :=
    ⟨fun _ _ hab v hv w hw hvw => hab w hw v hv hvw.symm⟩
  exact hunique.forall hr hs hne u hru u hsu rfl

def rewritten (p : Rewrite key) (sel : ρ → Bool) (r : ρ) : ρ := if sel r then p.set r else r

theorem key_rewritten (p : Rewrite key) (sel : ρ → Bool) (r : ρ) :
    key (rewritten p sel r) = key r := by
  unfold rewritten
  split
  · exact p.key_set r
  · rfl

/-- An `UPDATE` that may take rows into the unique index or out of it; `none` is a violated
constraint. -/
def rewrite [DecidableEq υ] (t : Table key index check) (sel : ρ → Bool) (p : Rewrite key) :
    Option (Table key index check) :=
  if h : (∀ r ∈ t.rows, sel r = true → check (p.set r) = true) ∧
      ((t.rows.map (rewritten p sel)).filterMap index).Nodup then
    some
      { rows := t.rows.map (rewritten p sel)
        primary := by
          have hkeys : (t.rows.map (rewritten p sel)).map key = t.rows.map key := by
            rw [map_map]
            exact map_congr_left fun r _ => key_rewritten p sel r
          rw [hkeys]
          exact t.primary
        unique := h.2
        checked := by
          intro r hr
          obtain ⟨r₀, hr₀, rfl⟩ := mem_map.mp hr
          unfold rewritten
          split
          · exact h.1 r₀ hr₀ ‹_›
          · exact t.checked r₀ hr₀ }
  else none

theorem rows_rewrite [DecidableEq υ]
    {p : Rewrite key} (h : t.rewrite sel p = some t') : t'.rows = t.rows.map (rewritten p sel) := by
  unfold rewrite at h
  split at h <;> cases h
  rfl

theorem rewrite_succeeds [DecidableEq υ]
    {p : Rewrite key} (hcheck : ∀ r ∈ t.rows, sel r = true → check (p.set r) = true)
    (hfree : ∀ r ∈ t.rows, sel r = true → ∀ u, index (p.set r) = some u →
      ∀ r' ∈ t.rows, key r' ≠ key r → index (rewritten p sel r') ≠ some u) :
    ∃ t', t.rewrite sel p = some t' := by
  have hnodup : ((t.rows.map (rewritten p sel)).filterMap index).Nodup := by
    rw [List.Nodup, pairwise_filterMap, pairwise_map]
    have hkeys := pairwise_map.mp t.primary
    have hvalues := pairwise_filterMap.mp t.unique
    refine (hkeys.and hvalues).imp_of_mem ?_
    rintro a b ha hb ⟨hkey, hunique⟩ u hu v hv rfl
    -- one of the two rows is selected, or both have the value they had before
    by_cases hsela : sel a = true
    · have hset : rewritten p sel a = p.set a := if_pos hsela
      exact hfree a ha hsela u (hset ▸ hu) b hb (Ne.symm hkey) hv
    · by_cases hselb : sel b = true
      · have hset : rewritten p sel b = p.set b := if_pos hselb
        exact hfree b hb hselb u (hset ▸ hv) a ha hkey hu
      · have hsame : rewritten p sel a = a := if_neg hsela
        have hsame' : rewritten p sel b = b := if_neg hselb
        exact hunique u (hsame ▸ hu) u (hsame' ▸ hv) rfl
  unfold rewrite
  rw [dif_pos ⟨hcheck, hnodup⟩]
  exact ⟨_, rfl⟩

def delete (t : Table key index check) (sel : ρ → Bool) : Table key index check where
  rows := t.rows.filter fun r => !sel r
  primary := t.primary.sublist (filter_sublist.map key)
  unique := t.unique.sublist (filter_sublist.filterMap index)
  checked r hr := t.checked r (mem_of_mem_filter hr)

def noIndex : ρ → Option Unit := fun _ => none

/-- A table with no `CHECK` that its column types do not express. -/
def noCheck : ρ → Bool := fun _ => true

def view {ρ' : Type*} {key' : ρ' → κ} {index' : ρ' → Option υ} {check' : ρ' → Bool}
    (t : Table key index check) (f : ρ → ρ') (hkey : ∀ r, key' (f r) = key r)
    (hindex : ∀ r, index' (f r) = index r) (hcheck : ∀ r, check r = true → check' (f r) = true) :
    Table key' index' check' where
  rows := t.rows.map f
  primary := by
    have hkeys : (t.rows.map f).map key' = t.rows.map key := by
      rw [map_map]
      exact map_congr_left fun r _ => hkey r
    rw [hkeys]
    exact t.primary
  unique := by
    have hvalues : (t.rows.map f).filterMap index' = t.rows.filterMap index := by
      rw [filterMap_map]
      exact filterMap_congr fun r _ => hindex r
    rw [hvalues]
    exact t.unique
  checked := by
    intro r hr
    obtain ⟨r₀, hr₀, rfl⟩ := mem_map.mp hr
    exact hcheck r₀ (t.checked r₀ hr₀)

section

variable (t : Table key index noCheck) (sel : ρ → Bool) (p : Patch key index)

/-- An `UPDATE` on a table with no `CHECK`, which nothing refuses. -/
def updateAll :
    Table key index noCheck :=
  (t.update sel p).get (Option.isSome_iff_exists.mpr (update_succeeds fun _ _ _ => rfl))

theorem update_noCheck : t.update sel p = some (t.updateAll sel p) := by
  unfold updateAll
  rw [Option.some_get]

@[simp] theorem rows_updateAll : (t.updateAll sel p).rows = t.rows.map (patched p sel) :=
  rows_update (update_noCheck t sel p)

theorem updateAll_of_unchanged (h : ∀ r ∈ t.rows, sel r = true → p.set r = r) :
    t.updateAll sel p = t := by
  have hrows : (t.updateAll sel p).rows = t.rows := by
    rw [rows_updateAll]
    refine (map_congr_left fun r hr => ?_).trans (map_id _)
    unfold patched
    split
    · rename_i hsel
      exact h r hr hsel
    · rfl
  generalize t.updateAll sel p = t' at hrows
  obtain ⟨rows, _, _, _⟩ := t
  obtain ⟨rows', _, _, _⟩ := t'
  obtain rfl : rows' = rows := hrows
  rfl

end

variable [DecidableEq κ]

def get (t : Table key index check) (k : κ) : Option ρ := t.rows.find? fun r => decide (key r = k)

/-- `INSERT`; `none` is a violated constraint. -/
def insert [DecidableEq υ] (t : Table key index check) (r : ρ) : Option (Table key index check) :=
  if h : (key r ∉ t.rows.map key ∧ ∀ u ∈ index r, u ∉ t.rows.filterMap index) ∧ check r = true then
    some
      { rows := t.rows ++ [r]
        primary := by
          rw [map_append, map_singleton]
          exact List.Nodup.append t.primary (nodup_singleton _) (disjoint_singleton.mpr h.1.1)
        unique := by
          rw [filterMap_append]
          refine List.Nodup.append t.unique ?_ ?_
          · cases hr : index r <;> simp [hr]
          · cases hr : index r with
            | none => simp [hr]
            | some u => simpa [hr] using h.1.2 u hr
        checked := by
          intro r' hr'
          rcases mem_append.mp hr' with hold | hnew
          · exact t.checked r' hold
          · rw [mem_singleton.mp hnew]
            exact h.2 }
  else none

/-- `INSERT … ON CONFLICT(key) DO UPDATE SET …`. -/
def upsert [DecidableEq υ] (t : Table key index check) (r : ρ) (p : Patch key index) :
    Option (Table key index check) :=
  match t.get (key r) with
  | none => t.insert r
  | some _ => t.update (fun r' => decide (key r' = key r)) p

@[simp] theorem get_empty (k : κ) : (empty : Table key index check).get k = none := rfl

theorem key_of_get (h : t.get k = some r) : key r = k := by
  simpa using List.find?_some h

theorem mem_of_get (h : t.get k = some r) : r ∈ t.rows :=
  mem_of_find?_eq_some h

theorem get_of_mem (h : r ∈ t.rows) : t.get (key r) = some r := by
  obtain ⟨r', hr'⟩ : ∃ r', t.get (key r) = some r' := by
    rw [← Option.isSome_iff_exists]
    exact List.find?_isSome.mpr ⟨r, h, by simp⟩
  have hkey : key r' = key r := key_of_get hr'
  rw [hr', inj_on_of_nodup_map t.primary (mem_of_get hr') h hkey]

theorem get_eq_none_iff : t.get k = none ↔ k ∉ t.rows.map key := by
  unfold get
  rw [List.find?_eq_none]
  simp

theorem filter_key (t : Table key index check) (k : κ) :
    t.rows.filter (fun r => decide (key r = k)) = (t.get k).toList := by
  have hprimary := t.primary
  unfold get
  generalize t.rows = rows at hprimary ⊢
  induction rows with
  | nil => rfl
  | cons r rows ih =>
    rw [map_cons, nodup_cons] at hprimary
    by_cases hr : key r = k
    · have hrest : rows.filter (fun r => decide (key r = k)) = [] := by
        refine filter_eq_nil_iff.mpr fun r' hr' => ?_
        rw [decide_eq_true_eq, ← hr]
        exact fun heq => hprimary.1 (mem_map.mpr ⟨r', hr', heq⟩)
      simp [hr, hrest]
    · simp [hr, ih hprimary.2]

/-- A successful `INSERT` adds the row under a key that was free. -/
theorem insert_eq_some [DecidableEq υ]
    (h : t.insert r = some t') : t.get (key r) = none ∧ t'.rows = t.rows ++ [r] := by
  unfold insert at h
  split at h <;> cases h
  rename_i hfree
  exact ⟨get_eq_none_iff.mpr hfree.1.1, rfl⟩

theorem insert_eq_none [DecidableEq υ] (h : t.insert r = none)
    (hfree : t.get (key r) = none) (hcheck : check r = true) :
    ∃ u, index r = some u ∧ ∃ r' ∈ t.rows, index r' = some u := by
  unfold insert at h
  split at h
  · cases h
  · rename_i hviolated
    by_contra hnone
    refine hviolated ⟨⟨get_eq_none_iff.mp hfree, fun u hu hmem => hnone ⟨u, hu, ?_⟩⟩, hcheck⟩
    exact mem_filterMap.mp hmem

theorem insert_succeeds [DecidableEq υ] (hfree : t.get (key r) = none) (hcheck : check r = true)
    (hindex : ∀ u, index r = some u → ∀ r' ∈ t.rows, index r' ≠ some u) :
    ∃ t', t.insert r = some t' := by
  cases hinsert : t.insert r with
  | some t' => exact ⟨t', rfl⟩
  | none =>
    obtain ⟨u, hu, r', hr', hu'⟩ := insert_eq_none hinsert hfree hcheck
    exact absurd hu' (hindex u hu r' hr')

theorem get_insert [DecidableEq υ] (h : t.insert r = some t') (k : κ) :
    t'.get k = if k = key r then some r else t.get k := by
  obtain ⟨hfree, hrows⟩ := insert_eq_some h
  unfold get
  rw [hrows, List.find?_append]
  by_cases hk : k = key r
  · subst hk
    unfold get at hfree
    simp [hfree]
  · simp [hk, Ne.symm hk]

theorem get_update
    (h : t.update sel p = some t') (k : κ) : t'.get k = (t.get k).map (patched p sel) := by
  unfold get
  rw [rows_update h, List.find?_map]
  congr 2
  funext r
  simp only [Function.comp, key_patched p sel r]

theorem get_upsert [DecidableEq υ] (h : t.upsert r p = some t') (k : κ) :
    t'.get k = if k = key r then some ((t.get k).elim r p.set) else t.get k := by
  unfold upsert at h
  split at h
  · rename_i hnone
    rw [get_insert h]
    split
    · rename_i hk
      rw [hk, hnone]
      rfl
    · rfl
  · rename_i old hold
    rw [get_update h]
    split
    · rename_i hk
      have hkey : key old = key r := key_of_get hold
      rw [hk, hold, Option.map_some, patched, if_pos (decide_eq_true hkey)]
      rfl
    · rename_i hk
      cases hget : t.get k with
      | none => rfl
      | some r' =>
        have hne : ¬ key r' = key r := fun heq => hk ((key_of_get hget).symm.trans heq)
        rw [Option.map_some, patched, decide_eq_false hne]
        rfl

theorem get_updateAll (t : Table key index noCheck) (sel : ρ → Bool) (p : Patch key index) (k : κ) :
    (t.updateAll sel p).get k = (t.get k).map (patched p sel) :=
  get_update (update_noCheck t sel p) k

theorem get_rewrite [DecidableEq υ] {p : Rewrite key} (h : t.rewrite sel p = some t') (k : κ) :
    t'.get k = (t.get k).map (rewritten p sel) := by
  unfold get
  rw [rows_rewrite h, List.find?_map]
  congr 2
  funext r
  simp only [Function.comp, key_rewritten p sel r]

/-- An `UPDATE` whose `WHERE` pins the primary key replaces that one row. -/
theorem get_update_point (h : t.update sel p = some t') (hcount : t.rowcount sel ≠ 0)
    (hkey : ∀ r, sel r = true → key r = k) :
    ∃ r, t.get k = some r ∧ sel r = true ∧
      ∀ j, t'.get j = if j = k then some (p.set r) else t.get j := by
  obtain ⟨r, hr, hsel⟩ : ∃ r ∈ t.rows, sel r = true := by
    by_contra hnone
    push Not at hnone
    exact hcount (rowcount_eq_zero_iff.mpr fun r hr => by simpa using hnone r hr)
  have hget : t.get k = some r := by
    rw [← hkey r hsel]
    exact get_of_mem hr
  refine ⟨r, hget, hsel, fun j => ?_⟩
  rw [get_update h]
  by_cases hj : j = k
  · subst hj
    simp [hget, patched, hsel]
  · cases hgetj : t.get j with
    | none => simp [hj]
    | some s =>
      -- the row of another key is not selected
      have hs : sel s ≠ true := fun hs => hj (by rw [← key_of_get hgetj, hkey s hs])
      simp [hj, patched, hs]

theorem get_delete (t : Table key index check) (sel : ρ → Bool) (k : κ) :
    (t.delete sel).get k = (t.get k).filter fun r => !sel r := by
  ext r
  rw [Option.filter_eq_some_iff]
  constructor
  · intro hget
    obtain ⟨hmem, hkept⟩ := mem_filter.mp (mem_of_get hget)
    rw [← key_of_get hget]
    exact ⟨get_of_mem hmem, hkept⟩
  · rintro ⟨hget, hkept⟩
    rw [← key_of_get hget]
    exact get_of_mem (mem_filter.mpr ⟨mem_of_get hget, hkept⟩)

end Table

end Sql
