import AgentTower.Lib.Pages
import AgentTower.Lib.Rounds

/-!
# Walking a growing list in the order of its keys

A call answers with the first rows past a row and, if there are rows behind them, with a cursor that
stands for the last of them.  However the list grows between the calls, what a walk returns is in
order, and a row that was there at the start is not missed by a walk that has ended (`Walked`).
-/

namespace Keyset

open List Option

variable {ρ γ ε : Type*}

/-- `call n` is the call on the list as it is then; the pages up to the first without a cursor, or as
many as there is fuel for. -/
def walk (call : Nat → Option γ → Except ε (Page ρ γ)) :
    Nat → Nat → Option γ → Except ε (List (Page ρ γ))
  | 0, _, _ => .ok []
  | fuel + 1, n, cursor =>
    match call n cursor with
    | .error e => .error e
    | .ok page =>
      match page.cursorNext with
      | none => .ok [page]
      | some next => (walk call fuel (n + 1) (some next)).map (page :: ·)

def Ended (pages : List (Page ρ γ)) : Prop :=
  ∃ page, pages.getLast? = some page ∧ page.cursorNext = none

variable (lt : ρ → ρ → Prop) (token : ρ → γ)

def Past (start : Option ρ) (a : ρ) : Prop := ∀ l ∈ start, lt l a

/-- The answer of a call on `rows`. -/
structure Cut (rows : List ρ) (start : Option ρ) (page : Page ρ γ) : Prop where
  sorted : page.rows.Pairwise lt
  mem : ∀ a ∈ page.rows, a ∈ rows ∧ Past lt start a
  next : (page.cursorNext = none ∧ ∀ a ∈ rows, Past lt start a → a ∈ page.rows) ∨
    ∃ last ∈ page.rows, page.cursorNext = some (token last) ∧
      (∀ a ∈ page.rows, a = last ∨ lt a last) ∧
      (∀ a ∈ rows, Past lt start a → a ∈ page.rows ∨ lt last a) ∧
      ∃ a ∈ rows, lt last a

/-- The pages of a walk that begins with call `n`. -/
structure Walked (rows : Nat → List ρ) (n : Nat) (start : Option ρ) (pages : List (Page ρ γ)) :
    Prop where
  sorted : (pages.flatMap Page.rows).Pairwise lt
  mem : ∀ i page, pages[i]? = some page → ∀ a ∈ page.rows, a ∈ rows (n + i) ∧ Past lt start a
  complete : Ended pages → ∀ a ∈ rows n, Past lt start a → a ∈ pages.flatMap Page.rows
  /-- A page has no cursor exactly if no row comes after everything up to its end. -/
  ends : ∀ i page, pages[i]? = some page → (page.cursorNext = none ↔
    ∀ b ∈ rows (n + i), Past lt start b → ∃ a ∈ (pages.take (i + 1)).flatMap Page.rows, ¬ lt a b)

variable {lt token} {rows : Nat → List ρ}

@[simp] theorem past_none (a : ρ) : Past lt none a := fun l hl => absurd hl (not_mem_none l)

theorem Walked.nil (n : Nat) (start : Option ρ) :
    Walked lt rows n start ([] : List (Page ρ γ)) where
  sorted := List.Pairwise.nil
  mem i page h := by simp at h
  complete := by
    rintro ⟨page, h, -⟩
    cases h
  ends i page h := by simp at h

variable [IsStrictOrder ρ lt]

variable {start : Option ρ}

theorem Past.trans {a b : ρ} (ha : Past lt start a) (h : lt a b) :
    Past lt start b := fun l hl => IsTrans.trans l a b (ha l hl) h

section Steps

variable {n : Nat} {start : Option ρ} {page : Page ρ γ}

theorem Walked.last (h : Cut lt token (rows n) start page) (hnone : page.cursorNext = none)
    (hall : ∀ a ∈ rows n, Past lt start a → a ∈ page.rows) : Walked lt rows n start [page] where
  sorted := by simpa using h.sorted
  mem i page' hi := by
    rw [List.getElem?_singleton] at hi
    split_ifs at hi with hzero
    cases hi
    rw [hzero]
    exact h.mem
  complete _ a ha hpast := by simpa using hall a ha hpast
  ends i page' hi := by
    rw [List.getElem?_singleton] at hi
    split_ifs at hi with hzero
    cases hi
    subst hzero
    refine ⟨fun _ b hb hpast => ⟨b, by simpa using hall b hb hpast, irrefl b⟩, fun _ => hnone⟩

theorem lt_of_lt_last {last a b : ρ} (hlast : ∀ a ∈ page.rows, a = last ∨ lt a last)
    (ha : a ∈ page.rows) (hb : lt last b) : lt a b := by
  rcases hlast a ha with rfl | hlt
  · exact hb
  · exact IsTrans.trans a last b hlt hb

theorem Walked.cons {last : ρ} {pages : List (Page ρ γ)} (hgrow : rows n ⊆ rows (n + 1))
    (h : Cut lt token (rows n) start page) (hmem : last ∈ page.rows)
    (hnext : page.cursorNext = some (token last))
    (hlast : ∀ a ∈ page.rows, a = last ∨ lt a last)
    (hrest : ∀ a ∈ rows n, Past lt start a → a ∈ page.rows ∨ lt last a)
    (hmore : ∃ a ∈ rows n, lt last a) (hpages : Walked lt rows (n + 1) (some last) pages) :
    Walked lt rows n start (page :: pages) := by
  have honward : ∀ b, lt last b → Past lt start b := fun b hb => (h.mem last hmem).2.trans hb
  have hpast : ∀ {b}, Past lt (some last) b ↔ lt last b :=
    ⟨fun hb => hb last rfl, fun hb l hl => by rwa [mem_some.mp hl] at hb⟩
  refine ⟨?_, ?_, ?_, ?_⟩
  · rw [flatMap_cons]
    refine pairwise_append.mpr ⟨h.sorted, hpages.sorted, fun a ha b hb => ?_⟩
    obtain ⟨page', hpage', hb⟩ := mem_flatMap.mp hb
    obtain ⟨i, hi⟩ := mem_iff_getElem?.mp hpage'
    exact lt_of_lt_last hlast ha (hpast.mp (hpages.mem i page' hi b hb).2)
  · intro i page' hi a ha
    cases i with
    | zero =>
      cases hi
      exact h.mem a ha
    | succ i =>
      obtain ⟨hrow, hstart⟩ := hpages.mem i page' hi a ha
      rw [Nat.add_right_comm] at hrow
      exact ⟨hrow, honward a (hpast.mp hstart)⟩
  · rintro ⟨final, hfinal, hnone⟩ a ha hstart
    have hended : Ended pages := by
      cases pages with
      | nil =>
        obtain rfl : page = final := Option.some.inj hfinal
        rw [hnext] at hnone
        cases hnone
      | cons page' pages => exact ⟨final, by rwa [List.getLast?_cons_cons] at hfinal, hnone⟩
    rw [flatMap_cons, mem_append]
    rcases hrest a ha hstart with hpage | hlt
    · exact .inl hpage
    · exact .inr (hpages.complete hended a (hgrow ha) (hpast.mpr hlt))
  · intro i page' hi
    cases i with
    | zero =>
      cases hi
      constructor
      · intro hnone
        rw [hnext] at hnone
        cases hnone
      · intro hnone
        obtain ⟨b, hb, hlt⟩ := hmore
        obtain ⟨a, ha, hnot⟩ := hnone b hb (honward b hlt)
        exact absurd (lt_of_lt_last hlast (by simpa using ha) hlt) hnot
    | succ i =>
      rw [hpages.ends i page' hi, take_succ_cons, flatMap_cons, Nat.add_right_comm]
      constructor
      · intro hends b hb hstart
        by_cases hlt : lt last b
        · obtain ⟨a, ha, hnot⟩ := hends b hb (hpast.mpr hlt)
          exact ⟨a, mem_append_right _ ha, hnot⟩
        · exact ⟨last, mem_append_left _ hmem, hlt⟩
      · intro hends b hb hlt
        obtain ⟨a, ha, hnot⟩ := hends b hb (honward b (hpast.mp hlt))
        rcases mem_append.mp ha with ha | ha
        · exact absurd (lt_of_lt_last hlast ha (hpast.mp hlt)) hnot
        · exact ⟨a, ha, hnot⟩

end Steps

omit [IsStrictOrder ρ lt] in
theorem Cut.of_take {all found : List ρ} {page : Page ρ γ} {limit : Nat}
    (hlimit : 0 < limit) (hsorted : found.Pairwise lt)
    (hfound : ∀ a, a ∈ found ↔ a ∈ all ∧ Past lt start a) (hrows : page.rows = found.take limit)
    (hnext : page.cursorNext =
      if limit < found.length then (found.take limit).getLast?.map token else none) :
    Cut lt token all start page := by
  have hsplit := take_append_drop limit found
  refine ⟨?_, ?_, ?_⟩
  · rw [hrows]
    exact hsorted.take
  · intro a ha
    rw [hrows] at ha
    exact (hfound a).mp (mem_of_mem_take ha)
  · by_cases hmore : limit < found.length
    · right
      have hne : found.take limit ≠ [] := by
        rw [← length_pos_iff, length_take]
        omega
      obtain ⟨front, last, hlast⟩ := eq_nil_or_concat (found.take limit) |>.resolve_left hne
      rw [concat_eq_append] at hlast
      rw [← hsplit, hlast] at hsorted
      have hfront := (pairwise_append.mp (pairwise_append.mp hsorted).1).2.2
      have hrest : ∀ a ∈ found.drop limit, lt last a :=
        (pairwise_append.mp hsorted).2.2 last (by simp)
      refine ⟨last, by simp [hrows, hlast], ?_, ?_, ?_, ?_⟩
      · rw [hnext, if_pos hmore, hlast, List.getLast?_append, List.getLast?_singleton]
        rfl
      · intro a ha
        rw [hrows, hlast, mem_append, mem_singleton] at ha
        rcases ha with ha | ha
        · exact .inr (hfront a ha last (mem_singleton_self last))
        · exact .inl ha
      · intro a ha hpast
        have hmem := (hfound a).mpr ⟨ha, hpast⟩
        rw [← hsplit, mem_append, ← hrows] at hmem
        exact hmem.imp_right (hrest a)
      · obtain ⟨a, ha⟩ := exists_mem_of_length_pos
          (show 0 < (found.drop limit).length by rw [length_drop]; omega)
        exact ⟨a, ((hfound a).mp (mem_of_mem_drop ha)).1, hrest a ha⟩
    · left
      rw [hnext, if_neg hmore, hrows, take_of_length_le (Nat.not_lt.mp hmore)]
      exact ⟨rfl, fun a ha hpast => (hfound a).mpr ⟨ha, hpast⟩⟩

section Walk

variable {call : Nat → Option γ → Except ε (Page ρ γ)}
  (hcall : ∀ n start, (∀ l ∈ start, ∃ m, l ∈ rows m) →
    ∃ page, call n (start.map token) = .ok page ∧ Cut lt token (rows n) start page)

include hcall

variable {fuel n settled : Nat} {start : Option ρ}

theorem walk_walked (hgrow : ∀ n, rows n ⊆ rows (n + 1)) (hstart : ∀ l ∈ start, ∃ m, l ∈ rows m) :
    ∃ pages, walk call fuel n (start.map token) = .ok pages ∧ Walked lt rows n start pages := by
  induction fuel generalizing n start with
  | zero => exact ⟨[], rfl, .nil n start⟩
  | succ fuel ih =>
    obtain ⟨page, hpage, hcut⟩ := hcall n start hstart
    rw [walk, hpage]
    rcases hcut.next with ⟨hnone, hall⟩ | ⟨last, hmem, hnext, hlast, hrest, hmore⟩
    · exact ⟨[page], by simp only [hnone], .last hcut hnone hall⟩
    · have hlastRow : ∀ l ∈ some last, ∃ m, l ∈ rows m := by
        rintro l ⟨⟩
        exact ⟨n, (hcut.mem last hmem).1⟩
      obtain ⟨pages, hpages, hwalked⟩ := ih hlastRow
      rw [map_some] at hpages
      refine ⟨page :: pages, ?_, .cons (hgrow n) hcut hmem hnext hlast hrest hmore hwalked⟩
      simp only [hnext, hpages, Except.map]

/-- Each page takes a row that the next one does not start from, or brings the walk closer to the call
from which on nothing is added. -/
theorem walk_ended [DecidableRel lt] (hsettled : ∀ m, settled ≤ m → rows m = rows settled)
    (hstart : ∀ l ∈ start, ∃ m, l ∈ rows m)
    (hfuel : (settled - n) + (rows settled).countP (fun a => start.all fun l => decide (lt l a)) <
      fuel) :
    ∃ pages, walk call fuel n (start.map token) = .ok pages ∧ Ended pages := by
  induction fuel generalizing n start with
  | zero => omega
  | succ fuel ih =>
    obtain ⟨page, hpage, hcut⟩ := hcall n start hstart
    rw [walk, hpage]
    rcases hcut.next with ⟨hnone, -⟩ | ⟨last, hmem, hnext, -⟩
    · exact ⟨[page], by simp only [hnone], page, rfl, hnone⟩
    · have hlastRow : ∀ l ∈ some last, ∃ m, l ∈ rows m := by
        rintro l ⟨⟩
        exact ⟨n, (hcut.mem last hmem).1⟩
      have honward : ∀ a ∈ rows settled, ((some last).all fun l => decide (lt l a)) = true →
          (start.all fun l => decide (lt l a)) = true := by
        intro a _ ha
        rw [Option.all_eq_true] at ha ⊢
        intro l hl
        have hlt : lt last a := of_decide_eq_true (ha last rfl)
        exact decide_eq_true ((hcut.mem last hmem).2.trans hlt l hl)
      have hless : (settled - (n + 1)) +
          (rows settled).countP (fun a => (some last).all fun l => decide (lt l a)) < fuel := by
        by_cases hn : n < settled
        · have hle := countP_mono_left honward
          omega
        · have hrow : last ∈ rows settled := by
            rw [← hsettled n (Nat.not_lt.mp hn)]
            exact (hcut.mem last hmem).1
          have hlt := countP_lt_countP hrow honward
            (by rw [Option.all_eq_true]; exact fun l hl => decide_eq_true ((hcut.mem last hmem).2 l hl))
            (by simp [irrefl last])
          omega
      obtain ⟨pages, hpages, final, hfinal, hnone⟩ := ih hlastRow hless
      rw [map_some] at hpages
      refine ⟨page :: pages, by simp only [hnext, hpages, Except.map], final, ?_, hnone⟩
      rw [List.getLast?_cons, hfinal]
      rfl

theorem walk_from_start (hgrow : ∀ n, rows n ⊆ rows (n + 1)) (fuel : Nat) :
    ∃ pages, walk call fuel 0 none = .ok pages ∧ Walked lt rows 0 none pages :=
  walk_walked hcall hgrow fun l hl => absurd hl (not_mem_none l)

theorem walk_ends [DecidableRel lt] (hsettled : ∀ m, settled ≤ m → rows m = rows settled) :
    ∃ fuel pages, walk call fuel 0 none = .ok pages ∧ Ended pages :=
  ⟨_, walk_ended hcall hsettled (n := 0) (fun l hl => absurd hl (not_mem_none l))
    (Nat.lt_succ_self _)⟩

end Walk

end Keyset
