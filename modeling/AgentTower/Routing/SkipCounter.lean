import AgentTower.Lib.Deque

/-!
# The count of skipped routes

`SkipCounter` keeps the times of the latest skips and counts those of the last five minutes.
-/

namespace AgentTower.Routing

open List

def windowMs : Int := 300000

def skipMaxlen : Nat := 10000

abbrev SkipCounter := Deque Int skipMaxlen

def inWindow (nowMs entryMs : Int) : Bool := decide (nowMs - windowMs < entryMs ∧ entryMs ≤ nowMs)

namespace SkipCounter

def recordSkip (c : SkipCounter) (nowMs : Int) : SkipCounter := c.append nowMs

def countInWindow (c : SkipCounter) (nowMs : Int) : Nat := c.items.countP (inWindow nowMs)

/-- Where each element that counts is followed by such elements only, those that count are dropped
last. -/
theorem countP_drop {p : Int → Bool} {times : List Int}
    (h : times.Pairwise fun a b => p a = true → p b = true) (k : Nat) :
    (times.drop k).countP p = min (times.length - k) (times.countP p) := by
  induction times generalizing k with
  | nil => simp
  | cons a times ih =>
    obtain ⟨hfirst, hrest⟩ := pairwise_cons.mp h
    cases k with
    | zero => exact (Nat.min_eq_right countP_le_length).symm
    | succ k =>
      rw [drop_succ_cons, ih hrest, length_cons, Nat.add_sub_add_right]
      by_cases ha : p a = true
      · have hall : times.countP p = times.length :=
          countP_eq_length.mpr fun b hb => hfirst b hb ha
        rw [countP_cons_of_pos ha, hall]
        omega
      · rw [countP_cons_of_neg ha]

/-- The count is that of all skips ever recorded, up to the length of the buffer. -/
theorem countInWindow_eq {times : List Int} {nowMs : Int} (hordered : times.Pairwise (· ≤ ·))
    (hpast : ∀ t ∈ times, t ≤ nowMs) :
    countInWindow (times.foldl recordSkip Deque.empty) nowMs =
      min skipMaxlen (times.countP (inWindow nowMs)) := by
  have hlater : times.Pairwise fun a b => inWindow nowMs a = true → inWindow nowMs b = true := by
    refine hordered.imp_of_mem fun _ hb hle ha => decide_eq_true ?_
    exact ⟨Int.lt_of_lt_of_le (of_decide_eq_true ha).1 hle, hpast _ hb⟩
  have hitems : (times.foldl recordSkip Deque.empty).items = times.drop (times.length - skipMaxlen) :=
    Deque.items_foldl_append times
  have hle : times.countP (inWindow nowMs) ≤ times.length := countP_le_length
  rw [countInWindow, hitems, countP_drop hlater]
  omega

theorem countInWindow_eq_edge :
    countInWindow ([0, 1, 300000].foldl recordSkip Deque.empty) 300000 = 2 :=
  (countInWindow_eq (by decide) (by decide)).trans (by decide)

end SkipCounter

end AgentTower.Routing
