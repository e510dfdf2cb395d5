import Mathlib.Data.List.Basic

/-!
# Pages and the cursors between them

A call answers with the rows at an offset and, if there are rows behind them, with a cursor for these.
If every cursor that is needed exists and leads to its offset, the pages together are the whole list
(`follow_complete`), and only then (`cursor_of_follow`).
-/

structure Page (α γ : Type*) where
  rows : List α
  cursorNext : Option γ

namespace Page

open List

variable {α γ ε : Type*}

def slice (rows : List α) (limit : Nat) (cursor : Nat → Option γ) (offset : Nat) : Page α γ :=
  let page := (rows.drop offset).take limit
  let nextOffset := offset + page.length
  ⟨page, if nextOffset < rows.length then cursor nextOffset else none⟩

/-- The pages up to the first without a cursor; `none` if a call fails or the fuel runs out. -/
def follow (call : Option γ → Except ε (Page α γ)) : Nat → Option γ → Option (List (Page α γ))
  | 0, _ => none
  | fuel + 1, cursor =>
    match call cursor with
    | .error _ => none
    | .ok page =>
      match page.cursorNext with
      | none => some [page]
      | some next => (follow call fuel (some next)).map (page :: ·)

section Slice

variable {rows : List α} {limit : Nat} {cursor : Nat → Option γ} {offset : Nat}

theorem slice_cursorNext_eq_some {next : γ} (h : (slice rows limit cursor offset).cursorNext = some next) :
    ∃ n, cursor n = some next := by
  unfold slice at h
  dsimp only at h
  split_ifs at h with hmore
  exact ⟨_, h⟩

theorem slice_last (h : rows.length ≤ offset + limit) :
    slice rows limit cursor offset = ⟨rows.drop offset, none⟩ := by
  have hrows : (rows.drop offset).take limit = rows.drop offset :=
    take_of_length_le (by rw [length_drop]; omega)
  unfold slice
  dsimp only
  rw [hrows, length_drop, if_neg (by omega)]

theorem slice_more (h : offset + limit < rows.length) :
    slice rows limit cursor offset =
      ⟨(rows.drop offset).take limit, cursor (offset + limit)⟩ := by
  have hlength : ((rows.drop offset).take limit).length = limit := by
    rw [length_take, length_drop]
    omega
  unfold slice
  dsimp only
  rw [hlength, if_pos h]

end Slice

section Follow

variable {rows : List α} {limit : Nat} {cursor : Nat → Option γ}
  {call : Option γ → Except ε (Page α γ)}

/-- By induction on the fuel; a page that is not the last moves the offset by `limit`. -/
theorem follow_complete (hlimit : 0 < limit)
    (hcall : ∀ n c, cursor n = some c → call (some c) = .ok (slice rows limit cursor n))
    {fuel offset : Nat} {start : Option γ} (hoffset : offset ≤ rows.length)
    (hfuel : rows.length < offset + fuel)
    (hstart : call start = .ok (slice rows limit cursor offset))
    (hcursor : ∀ k, 0 < k → offset + k * limit < rows.length →
      (cursor (offset + k * limit)).isSome = true) :
    ∃ pages, follow call fuel start = some pages ∧ pages.flatMap Page.rows = rows.drop offset := by
  induction fuel generalizing offset start with
  | zero => omega
  | succ fuel ih =>
    rw [follow, hstart]
    by_cases hmore : offset + limit < rows.length
    · obtain ⟨next, hnext⟩ := Option.isSome_iff_exists.mp
        (hcursor 1 Nat.one_pos (by rwa [Nat.one_mul]))
      rw [Nat.one_mul] at hnext
      have hneeded : ∀ k, 0 < k → offset + limit + k * limit < rows.length →
          (cursor (offset + limit + k * limit)).isSome = true := by
        intro k _ hk
        have hshift : offset + limit + k * limit = offset + (k + 1) * limit := by
          rw [Nat.succ_mul]
          omega
        rw [hshift] at hk ⊢
        exact hcursor (k + 1) (Nat.succ_pos k) hk
      obtain ⟨pages, hpages, hrows⟩ := ih (by omega) (by omega) (hcall _ _ hnext) hneeded
      refine ⟨slice rows limit cursor offset :: pages, ?_, ?_⟩
      · rw [slice_more hmore]
        simp only [hnext, hpages, Option.map_some]
      · rw [flatMap_cons, hrows, slice_more hmore, ← drop_drop]
        exact take_append_drop limit (rows.drop offset)
    · rw [slice_last (by omega)]
      exact ⟨_, rfl, append_nil _⟩

/-- Pages that have as many rows as there are behind the offset have needed every cursor. -/
theorem cursor_of_follow
    (hcall : ∀ n c, cursor n = some c → call (some c) = .ok (slice rows limit cursor n))
    {fuel offset : Nat} {start : Option γ} {pages : List (Page α γ)}
    (hstart : call start = .ok (slice rows limit cursor offset))
    (hpages : follow call fuel start = some pages)
    (hlength : (pages.flatMap Page.rows).length = rows.length - offset)
    {k : Nat} (hpos : 0 < k) (hmore : offset + k * limit < rows.length) :
    (cursor (offset + k * limit)).isSome = true := by
  induction fuel generalizing offset start pages k with
  | zero => cases hpages
  | succ fuel ih =>
    have hnotLast : offset + limit < rows.length :=
      Nat.lt_of_le_of_lt (Nat.add_le_add_left (Nat.le_mul_of_pos_left limit hpos) offset) hmore
    have hpage : ((rows.drop offset).take limit).length = limit := by
      rw [length_take, length_drop]
      omega
    rw [follow, hstart, slice_more hnotLast] at hpages
    cases hnext : cursor (offset + limit) with
    | none =>
      -- the walk ends after this page, with rows left
      rw [hnext] at hpages
      rw [← Option.some.inj hpages, flatMap_singleton, hpage] at hlength
      omega
    | some next =>
      rw [hnext] at hpages
      obtain ⟨rest, hrest, rfl⟩ := Option.map_eq_some_iff.mp hpages
      rw [flatMap_cons, length_append, hpage] at hlength
      obtain _ | _ | k := k
      · omega
      · rw [Nat.one_mul, hnext]
        rfl
      · have hshift : offset + (k + 1 + 1) * limit = offset + limit + (k + 1) * limit := by
          rw [Nat.succ_mul]
          omega
        rw [hshift] at hmore ⊢
        exact ih (hcall _ _ hnext) hrest (by omega) (Nat.succ_pos k) hmore

end Follow

end Page
