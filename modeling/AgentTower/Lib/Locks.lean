import Mathlib.Logic.Relation
import AgentTower.Lib.Run

/-!
# Threads that take exclusive resources

A thread runs a script of acquisitions and releases, and may give up at any time.  If a thread that has
to wait holds only resources of lower rank than the one it waits for, the ranks rise along every chain
of waiting threads, and there is no cycle.
-/

namespace Locks

open List
open Function (update update_of_ne update_self)

variable {ι ρ κ : Type*}

inductive Act (ρ : Type*) where
  | acquire (r : ρ)
  | release (r : ρ)
  deriving DecidableEq

/-- Who holds a resource, what each thread still has to do, and what it has taken, the last
acquisition first. -/
structure State (ι ρ : Type*) where
  holder : ρ → Option ι
  script : ι → List (Act ρ)
  taken : ι → List ρ

def State.idle : State ι ρ := ⟨fun _ => none, fun _ => [], fun _ => []⟩

/-- `i` waits for a resource that `j` holds. -/
def WaitsFor (s : State ι ρ) (i j : ι) : Prop :=
  ∃ r rest, s.script i = .acquire r :: rest ∧ s.holder r = some j

def WaitCycle (s : State ι ρ) : Prop := ∃ i, Relation.TransGen (WaitsFor s) i i

def WaitsUpwards (rank : ρ → Nat) (s : State ι ρ) : Prop :=
  ∀ i j r rest, s.script i = .acquire r :: rest → s.holder r = some j →
    ∀ r', s.holder r' = some i → rank r' < rank r

variable {rank : ρ → Nat} {s : State ι ρ}

theorem WaitsUpwards.rank_le (h : WaitsUpwards rank s) {i j : ι}
    (hchain : Relation.TransGen (WaitsFor s) i j) :
    ∃ r rest k r', s.script i = .acquire r :: rest ∧ s.holder r = some k ∧
      s.holder r' = some j ∧ rank r ≤ rank r' := by
  induction hchain with
  | single hwait =>
    obtain ⟨r, rest, hscript, hheld⟩ := hwait
    exact ⟨r, rest, _, r, hscript, hheld, hheld, Nat.le_refl _⟩
  | tail _ hwait ih =>
    obtain ⟨r, rest, k, r', hscript, hk, hheld, hle⟩ := ih
    obtain ⟨r₂, rest₂, hscript₂, hheld₂⟩ := hwait
    have hlt := h _ _ r₂ rest₂ hscript₂ hheld₂ r' hheld
    exact ⟨r, rest, k, r₂, hscript, hk, hheld₂, by omega⟩

theorem WaitsUpwards.no_cycle (h : WaitsUpwards rank s) : ¬ WaitCycle s := by
  rintro ⟨i, hcycle⟩
  obtain ⟨r, rest, k, r', hscript, hk, hheld, hle⟩ := h.rank_le hcycle
  -- the chain ends at the thread that it starts from
  have hlt := h i k r rest hscript hk r' hheld
  omega

/-! ## Steps -/

inductive Label (ι κ : Type*) where
  | begin (i : ι) (call : κ)
  | move (i : ι)
  | abort (i : ι)
  deriving DecidableEq

section Steps

variable [DecidableEq ι] [DecidableEq ρ]

def State.goto (s : State ι ρ) (i : ι) (script : List (Act ρ)) (taken : List ρ) : State ι ρ :=
  { s with
    script := update s.script i script
    taken := update s.taken i taken }

def State.setHolder (s : State ι ρ) (r : ρ) (holder : Option ι) : State ι ρ :=
  { s with holder := update s.holder r holder }

omit [DecidableEq ι] in
theorem State.holder_setHolder (s : State ι ρ) (r r' : ρ) (holder : Option ι) :
    (s.setHolder r holder).holder r' = if r' = r then holder else s.holder r' :=
  Function.update_apply s.holder r holder r'

/-- A thread that has nothing to do begins a call, goes on with its script, or gives up. -/
def step (scriptOf : κ → List (Act ρ)) (s : State ι ρ) : Label ι κ → Option (State ι ρ)
  | .begin i call =>
    match s.script i, s.taken i with
    | [], [] => some (s.goto i (scriptOf call) [])
    | _, _ => none
  | .move i =>
    match s.script i with
    | [] => none
    | .acquire r :: rest =>
      match s.holder r with
      | none => some ((s.setHolder r (some i)).goto i rest (r :: s.taken i))
      | some _ => none
    | .release r :: rest =>
      if s.holder r = some i then
        some ((s.setHolder r none).goto i rest ((s.taken i).erase r))
      else none
  | .abort i => some (s.goto i ((s.taken i).map .release) (s.taken i))

/-- What a step does to the thread that takes it. -/
inductive Move (scriptOf : κ → List (Act ρ)) (s : State ι ρ) : Label ι κ → State ι ρ → Prop
  | begin {i : ι} {call : κ} :
      s.script i = [] → s.taken i = [] → Move scriptOf s (.begin i call) (s.goto i (scriptOf call) [])
  | acquire {i : ι} {r : ρ} {rest : List (Act ρ)} :
      s.script i = .acquire r :: rest → s.holder r = none →
      Move scriptOf s (.move i) ((s.setHolder r (some i)).goto i rest (r :: s.taken i))
  | release {i : ι} {r : ρ} {rest : List (Act ρ)} :
      s.script i = .release r :: rest → s.holder r = some i →
      Move scriptOf s (.move i) ((s.setHolder r none).goto i rest ((s.taken i).erase r))
  | abort {i : ι} :
      Move scriptOf s (.abort i) (s.goto i ((s.taken i).map .release) (s.taken i))

variable {scriptOf : κ → List (Act ρ)} {s s' : State ι ρ} {l : Label ι κ}
  {allowed : List ρ → ρ → Prop} {i : ι} {r : ρ} {rest : List (Act ρ)}

theorem step_move (h : step scriptOf s l = some s') : Move scriptOf s l s' := by
  cases l with
  | begin i call =>
    simp only [step] at h
    split at h <;> cases h
    rename_i hscript htaken
    exact .begin hscript htaken
  | move i =>
    simp only [step] at h
    split at h
    · cases h
    · rename_i r rest hscript
      split at h <;> cases h
      rename_i hfree
      exact .acquire hscript hfree
    · rename_i r rest hscript
      split_ifs at h with hheld
      cases h
      exact .release hscript hheld
  | abort i =>
    cases h
    exact .abort

/-! ## Scripts that keep a discipline -/

/-- Each acquisition of the script is one that the discipline allows on top of what is taken. -/
def Follows (allowed : List ρ → ρ → Prop) : List ρ → List (Act ρ) → Prop
  | _, [] => True
  | taken, .acquire r :: rest => allowed taken r ∧ Follows allowed (r :: taken) rest
  | taken, .release r :: rest => Follows allowed (taken.erase r) rest

theorem follows_releases (allowed : List ρ → ρ → Prop) (taken rs : List ρ) :
    Follows allowed taken (rs.map .release) := by
  induction rs generalizing taken with
  | nil => trivial
  | cons r rs ih => exact ih (taken.erase r)

/-- Every thread keeps the discipline, and it holds what it has taken. -/
structure Disciplined (allowed : List ρ → ρ → Prop) (s : State ι ρ) : Prop where
  held : ∀ r i, s.holder r = some i ↔ r ∈ s.taken i
  nodup : ∀ i, (s.taken i).Nodup
  follows : ∀ i, Follows allowed (s.taken i) (s.script i)

omit [DecidableEq ι] in
theorem Disciplined.idle (allowed : List ρ → ρ → Prop) :
    Disciplined allowed (State.idle : State ι ρ) :=
  ⟨fun _ _ => ⟨nofun, nofun⟩, fun _ => nodup_nil,
    fun _ => trivial⟩

theorem Disciplined.goto {s₁ : State ι ρ}
    (h : Disciplined allowed s) {script : List (Act ρ)} {taken : List ρ}
    (hscript : s₁.script = s.script) (htaken : s₁.taken = s.taken)
    (hother : ∀ r j, j ≠ i → (s₁.holder r = some j ↔ s.holder r = some j))
    (hown : ∀ r, s₁.holder r = some i ↔ r ∈ taken) (hnodup : taken.Nodup)
    (hfollows : Follows allowed taken script) :
    Disciplined allowed (s₁.goto i script taken) := by
  constructor
  · intro r j
    show s₁.holder r = some j ↔ r ∈ update s₁.taken i taken j
    by_cases hj : j = i
    · subst hj
      rw [update_self]
      exact hown r
    · rw [update_of_ne hj, htaken, hother r j hj]
      exact h.held r j
  · intro j
    show (update s₁.taken i taken j).Nodup
    by_cases hj : j = i
    · subst hj
      rw [update_self]
      exact hnodup
    · rw [update_of_ne hj, htaken]
      exact h.nodup j
  · intro j
    show Follows allowed (update s₁.taken i taken j) (update s₁.script i script j)
    by_cases hj : j = i
    · subst hj
      rw [update_self, update_self]
      exact hfollows
    · rw [update_of_ne hj, update_of_ne hj, htaken, hscript]
      exact h.follows j

theorem Disciplined.acquire (h : Disciplined allowed s)
    (hscript : s.script i = .acquire r :: rest) (hfree : s.holder r = none) :
    Disciplined allowed ((s.setHolder r (some i)).goto i rest (r :: s.taken i)) := by
  have hfollows := h.follows i
  rw [hscript] at hfollows
  -- a lock that is free is held by nobody, this thread included
  have hnew : r ∉ s.taken i := by
    intro hmem
    rw [(h.held r i).mpr hmem] at hfree
    cases hfree
  refine h.goto rfl rfl (fun r' j hj => ?_) (fun r' => ?_)
    (nodup_cons.mpr ⟨hnew, h.nodup i⟩) hfollows.2
  · rw [State.holder_setHolder]
    by_cases hr : r' = r
    · rw [if_pos hr, hr, hfree]
      exact ⟨fun heq => absurd (Option.some.inj heq).symm hj, nofun⟩
    · rw [if_neg hr]
  · rw [State.holder_setHolder, mem_cons, ← h.held r' i]
    by_cases hr : r' = r
    · rw [if_pos hr]
      exact ⟨fun _ => .inl hr, fun _ => rfl⟩
    · rw [if_neg hr]
      exact ⟨.inr, fun hor => hor.resolve_left hr⟩

theorem Disciplined.release (h : Disciplined allowed s)
    (hscript : s.script i = .release r :: rest) (hheld : s.holder r = some i) :
    Disciplined allowed ((s.setHolder r none).goto i rest ((s.taken i).erase r)) := by
  have hfollows := h.follows i
  rw [hscript] at hfollows
  refine h.goto rfl rfl (fun r' j hj => ?_) (fun r' => ?_) ((h.nodup i).erase r) hfollows
  · rw [State.holder_setHolder]
    by_cases hr : r' = r
    · rw [if_pos hr, hr, hheld]
      exact ⟨nofun, fun heq => absurd (Option.some.inj heq).symm hj⟩
    · rw [if_neg hr]
  · rw [State.holder_setHolder, (h.nodup i).mem_erase_iff, ← h.held r' i]
    by_cases hr : r' = r
    · rw [if_pos hr]
      exact ⟨nofun, fun hand => absurd hr hand.1⟩
    · rw [if_neg hr]
      exact ⟨fun heq => ⟨hr, heq⟩, fun hand => hand.2⟩

theorem Disciplined.move (hscripts : ∀ call, Follows allowed [] (scriptOf call))
    (h : Disciplined allowed s) (hmove : Move scriptOf s l s') : Disciplined allowed s' := by
  cases hmove with
  | @begin i call hscript htaken =>
    refine h.goto rfl rfl (fun _ _ _ => Iff.rfl) (fun r => ?_) nodup_nil (hscripts call)
    rw [h.held r i, htaken]
  | acquire hscript hfree => exact h.acquire hscript hfree
  | release hscript hheld => exact h.release hscript hheld
  | @abort i =>
    exact h.goto rfl rfl (fun _ _ _ => Iff.rfl) (fun r => h.held r i) (h.nodup i)
      (follows_releases allowed _ _)

end Steps

end Locks
