import Mathlib.Data.List.Basic

/-!
# Runs of a step system

A system is a partial step function `step : σ → α → Option σ`; a label carries everything the
environment decides.  `Reach` collects the states of all runs whose steps meet a side condition, and
`Reach.invariant` is the one induction every safety result goes through.
-/

namespace Transition

open Option

variable {σ α : Type*}

/-- Run a list of labels; the run is undefined as soon as one of them is not enabled. -/
def run (step : σ → α → Option σ) : σ → List α → Option σ
  | s, [] => some s
  | s, a :: as => (step s a).bind fun t => run step t as

/-- Whether a run ends in a state of some kind is decided by running it. -/
instance decidableExistsSome {o : Option σ} {p : σ → Prop} [DecidablePred p] :
    Decidable (∃ s, o = some s ∧ p s) :=
  decidable_of_iff (o.any (fun s => decide (p s)) = true)
    (by simp only [any_eq_true, decide_eq_true_eq])

instance decidableExistsSomeExists {τ : Type*} {o : Option σ} {p : σ → τ → Prop}
    [∀ s, Decidable (∃ t, p s t)] : Decidable (∃ s t, o = some s ∧ p s t) :=
  decidable_of_iff (∃ s, o = some s ∧ ∃ t, p s t) (by simp only [exists_and_left])

instance decidableExistsAnd {a : Prop} {p : σ → Prop} [Decidable a] [Decidable (∃ s, p s)] :
    Decidable (∃ s, a ∧ p s) :=
  decidable_of_iff (a ∧ ∃ s, p s) exists_and_left.symm

theorem run_append (step : σ → α → Option σ) (s : σ) (as bs : List α) :
    run step s (as ++ bs) = (run step s as).bind fun t => run step t bs := by
  induction as generalizing s with
  | nil => rfl
  | cons a as ih =>
    simp only [List.cons_append, run]
    cases step s a with
    | none => rfl
    | some t => exact ih t

/-- The states of the runs from `init` whose steps all meet `ok`. -/
inductive Reach (step : σ → α → Option σ) (ok : σ → α → Prop) (init : σ) : σ → Prop
  | start : Reach step ok init init
  | next {s t : σ} {a : α} :
      Reach step ok init s → ok s a → step s a = some t → Reach step ok init t

def anyStep : σ → α → Prop := fun _ _ => True

variable {step : σ → α → Option σ} {ok : σ → α → Prop} {init s t : σ} {as : List α}

theorem Reach.invariant (inv : σ → Prop) (hinit : inv init)
    (hstep : ∀ s a t, inv s → ok s a → step s a = some t → inv t)
    (h : Reach step ok init s) : inv s := by
  induction h with
  | start => exact hinit
  | next _ hok hs ih => exact hstep _ _ _ ih hok hs

theorem Reach.weaken {ok' : σ → α → Prop}
    (himp : ∀ s a, ok s a → ok' s a) (h : Reach step ok init s) :
    Reach step ok' init s := by
  induction h with
  | start => exact .start
  | next _ hok hs ih => exact ih.next (himp _ _ hok) hs

theorem Reach.trans (h : Reach step ok init s) (h' : Reach step ok s t) : Reach step ok init t := by
  induction h' with
  | start => exact h
  | next _ hok hs ih => exact ih.next hok hs

theorem Reach.trans_run (h : Reach step anyStep init s)
    (hrun : run step s as = some t) : Reach step anyStep init t := by
  induction as generalizing s with
  | nil =>
    cases hrun
    exact h
  | cons a as ih =>
    obtain ⟨u, hu, htail⟩ := bind_eq_some_iff.mp hrun
    exact ih (h.next trivial hu) htail

theorem reach_of_run (hrun : run step init as = some t) : Reach step anyStep init t :=
  Reach.start.trans_run hrun

theorem exists_reach {p : σ → Prop} (as : List α) (h : ∃ s, run step init as = some s ∧ p s) :
    ∃ s, Reach step anyStep init s ∧ p s :=
  h.imp fun _ hs => ⟨reach_of_run hs.1, hs.2⟩

/-- Every label of a run meets `ok` in the state in which it is taken. -/
def AllOk (step : σ → α → Option σ) (ok : σ → α → Prop) : σ → List α → Prop
  | _, [] => True
  | s, a :: as => ok s a ∧ ∀ t, step s a = some t → AllOk step ok t as

theorem AllOk.cons {a : α} (hstep : step s a = some t) (hok : ok s a) (hrest : AllOk step ok t as) :
    AllOk step ok s (a :: as) := by
  refine ⟨hok, fun u hu => ?_⟩
  rw [← Option.some.inj (hstep.symm.trans hu)]
  exact hrest

theorem reach_of_allOk (h : Reach step ok init s) (hok : AllOk step ok s as)
    (hrun : run step s as = some t) : Reach step ok init t := by
  induction as generalizing s with
  | nil =>
    cases hrun
    exact h
  | cons a as ih =>
    obtain ⟨u, hu, htail⟩ := bind_eq_some_iff.mp hrun
    exact ih (h.next hok.1 hu) (hok.2 u hu) htail

/-- Run a list of labels as long as each passes a test: the executable form of `Reach`. -/
def runWhile (step : σ → α → Option σ) (ok : σ → α → Bool) : σ → List α → Option σ
  | s, [] => some s
  | s, a :: as => if ok s a then (step s a).bind fun t => runWhile step ok t as else none

theorem reach_of_runWhile {ok : σ → α → Bool} (h : Reach step (fun s a => ok s a = true) init s)
    (hrun : runWhile step ok s as = some t) :
    Reach step (fun s a => ok s a = true) init t := by
  induction as generalizing s with
  | nil =>
    cases hrun
    exact h
  | cons a as ih =>
    unfold runWhile at hrun
    split at hrun
    · rename_i hok
      obtain ⟨u, hu, htail⟩ := bind_eq_some_iff.mp hrun
      exact ih (h.next hok hu) htail
    · cases hrun

theorem exists_reachWhile {ok : σ → α → Bool} {p : σ → Prop} (as : List α)
    (h : ∃ s, runWhile step ok init as = some s ∧ p s) :
    ∃ s, Reach step (fun s a => ok s a = true) init s ∧ p s :=
  h.imp fun _ hs => ⟨reach_of_runWhile .start hs.1, hs.2⟩

theorem run_of_runWhile {ok : σ → α → Bool}
    (hrun : runWhile step ok s as = some t) : run step s as = some t := by
  induction as generalizing s with
  | nil => exact hrun
  | cons a as ih =>
    unfold runWhile at hrun
    split at hrun
    · obtain ⟨u, hu, htail⟩ := bind_eq_some_iff.mp hrun
      exact bind_eq_some_iff.mpr ⟨u, hu, ih htail⟩
    · cases hrun

/-- A run to a state of some kind, and what holds of every state of that kind that is reached so. -/
theorem exists_run_and (ok : σ → α → Bool) {p q : σ → Prop}
    (h : ∃ s, runWhile step ok init as = some s ∧ p s)
    (hq : ∀ s, Reach step (fun s a => ok s a = true) init s → p s → q s) :
    ∃ s, run step init as = some s ∧ p s ∧ q s := by
  obtain ⟨s, hs, hp⟩ := h
  exact ⟨s, run_of_runWhile hs, hp, hq s (reach_of_runWhile .start hs) hp⟩

theorem run_total (f : σ → α → σ) (s : σ) (as : List α) :
    run (fun s a => some (f s a)) s as = some (as.foldl f s) := by
  induction as generalizing s with
  | nil => rfl
  | cons a as ih => exact ih (f s a)

end Transition
