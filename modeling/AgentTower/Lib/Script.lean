import AgentTower.Lib.Fallible
import Mathlib.Data.List.Basic

/-!
# Scripts and crashes

A script issues statements one by one and reads the stored state in between.  Each statement is stored
when it returns, so a crash leaves what the statements before it have stored.  A script is resumable if
it can be run again from there and ends as the uninterrupted run does.
-/

/-- Statements `α` on stored states `σ`; `raise` is an exception of the script itself. -/
inductive Script (α σ ε : Type) where
  | done
  | raise (e : ε)
  | exec (a : α) (next : Script α σ ε)
  | read (k : σ → Script α σ ε)
  | transaction (body next : Script α σ ε)

namespace Script

open List

variable {α σ ε : Type}

def seq : Script α σ ε → Script α σ ε → Script α σ ε
  | done, q => q
  | raise e, _ => raise e
  | exec a p, q => exec a (p.seq q)
  | read k, q => read fun s => (k s).seq q
  | transaction b p, q => transaction b (p.seq q)

def statements : List α → Script α σ ε
  | [] => done
  | a :: as => exec a (statements as)

theorem statements_append (as bs : List α) :
    (statements (as ++ bs) : Script α σ ε) = (statements as).seq (statements bs) := by
  induction as with
  | nil => rfl
  | cons a as ih => exact congrArg (exec a) ih

section

variable (apply : α → σ → Except ε σ)

def run : Script α σ ε → σ → Except ε σ
  | done, s => .ok s
  | raise e, _ => .error e
  | exec a p, s => apply a s >>= p.run
  | read k, s => (k s).run s
  | transaction b p, s => b.run s >>= p.run

/-- The stored state when `n` statements have returned.  A transaction is stored by its last one. -/
def after : Script α σ ε → Nat → σ → σ
  | done, _, s => s
  | raise _, _, s => s
  | exec _ _, 0, s => s
  | exec a p, n + 1, s =>
    match apply a s with
    | .ok s' => p.after n s'
    | .error _ => s
  | read k, n, s => (k s).after n s
  | transaction _ _, 0, s => s
  | transaction b p, n + 1, s =>
    match b.run apply s with
    | .ok s' => p.after n s'
    | .error _ => s

/-- The states that a crash can leave. -/
inductive Crash : Script α σ ε → σ → σ → Prop
  | here (p : Script α σ ε) (s : σ) : Crash p s s
  | exec {a : α} {p : Script α σ ε} {s s₁ s' : σ} (h : apply a s = .ok s₁) (hp : Crash p s₁ s') :
      Crash (.exec a p) s s'
  | read {k : σ → Script α σ ε} {s s' : σ} (h : Crash (k s) s s') : Crash (.read k) s s'
  | transaction {b p : Script α σ ε} {s s₁ s' : σ} (h : b.run apply s = .ok s₁)
      (hp : Crash p s₁ s') : Crash (.transaction b p) s s'

end

variable {apply : α → σ → Except ε σ} {p q : Script α σ ε} {s s' : σ}

theorem crash_after (apply : α → σ → Except ε σ) (p : Script α σ ε) (n : Nat) (s : σ) :
    Crash apply p s (p.after apply n s) := by
  induction p generalizing n s with
  | done | raise e => exact .here _ _
  | read k ih => exact .read (ih s n s)
  | exec a p ih =>
    cases n with
    | zero => exact .here _ _
    | succ n =>
      unfold after
      split
      · rename_i h
        exact .exec h (ih n _)
      · exact .here _ _
  | transaction b p _ ih =>
    cases n with
    | zero => exact .here _ _
    | succ n =>
      unfold after
      split
      · rename_i h
        exact .transaction h (ih n _)
      · exact .here _ _

theorem run_exec_eq_ok {a : α} {p : Script α σ ε} :
    (exec a p).run apply s = .ok s' ↔ ∃ s₁, apply a s = .ok s₁ ∧ p.run apply s₁ = .ok s' :=
  Fallible.bind_eq_ok

theorem run_seq (p q : Script α σ ε) (s : σ) :
    (p.seq q).run apply s = p.run apply s >>= q.run apply := by
  induction p generalizing s with
  | done => rfl
  | raise e => rfl
  | read k ih => exact ih s s
  | exec a p ih =>
    show apply a s >>= (p.seq q).run apply = (apply a s >>= p.run apply) >>= q.run apply
    cases apply a s with
    | ok s₁ => exact ih s₁
    | error e => rfl
  | transaction b p _ ih =>
    show b.run apply s >>= (p.seq q).run apply = (b.run apply s >>= p.run apply) >>= q.run apply
    cases b.run apply s with
    | ok s₁ => exact ih s₁
    | error e => rfl

theorem run_seq_of_ok (h : p.run apply s = .ok s') (q : Script α σ ε) :
    (p.seq q).run apply s = q.run apply s' := by
  rw [run_seq, h]
  rfl

theorem crash_of_run (h : p.run apply s = .ok s') : Crash apply p s s' := by
  induction p generalizing s with
  | done =>
    cases h
    exact .here _ _
  | raise e => cases h
  | read k ih => exact .read (ih s h)
  | exec a p ih =>
    obtain ⟨s₁, ha, hp⟩ := run_exec_eq_ok.mp h
    exact .exec ha (ih hp)
  | transaction b p _ ih =>
    obtain ⟨s₁, hb, hp⟩ := Fallible.bind_eq_ok.mp h
    exact .transaction hb (ih hp)

theorem crash_seq (h : Crash apply (p.seq q) s s') :
    Crash apply p s s' ∨ ∃ s₁, p.run apply s = .ok s₁ ∧ Crash apply q s₁ s' := by
  induction p generalizing s with
  | done => exact .inr ⟨s, rfl, h⟩
  | raise e =>
    cases h
    exact .inl (.here _ _)
  | read k ih =>
    cases h with
    | here => exact .inl (.here _ _)
    | read h => exact (ih s h).imp_left .read
  | exec a p ih =>
    cases h with
    | here => exact .inl (.here _ _)
    | exec ha hp =>
      rcases ih hp with hfirst | ⟨s₁, hrun, hsecond⟩
      · exact .inl (.exec ha hfirst)
      · exact .inr ⟨s₁, run_exec_eq_ok.mpr ⟨_, ha, hrun⟩, hsecond⟩
  | transaction b p _ ih =>
    cases h with
    | here => exact .inl (.here _ _)
    | transaction hb hp =>
      rcases ih hp with hfirst | ⟨s₁, hrun, hsecond⟩
      · exact .inl (.transaction hb hfirst)
      · exact .inr ⟨s₁, Fallible.bind_eq_ok.mpr ⟨_, hb, hrun⟩, hsecond⟩

theorem crash_statements {as : List α} (h : Crash apply (statements as) s s') :
    ∃ n ≤ as.length, s' = (statements as).after apply n s := by
  induction as generalizing s with
  | nil =>
    cases h
    exact ⟨0, Nat.le_refl _, rfl⟩
  | cons a as ih =>
    cases h with
    | here => exact ⟨0, Nat.zero_le _, rfl⟩
    | exec ha hrest =>
      obtain ⟨n, hn, rfl⟩ := ih hrest
      refine ⟨n + 1, Nat.succ_le_succ hn, ?_⟩
      simp only [statements, after, ha]

theorem after_of_run {as : List α} (h : (statements as).run apply s = .ok s') :
    (statements as).after apply as.length s = s' := by
  induction as generalizing s with
  | nil =>
    cases h
    rfl
  | cons a as ih =>
    obtain ⟨s₁, ha, hrest⟩ := run_exec_eq_ok.mp h
    simp only [statements, length_cons, after, ha]
    exact ih hrest

/-! ## Resuming -/

/-- Nothing that the script stores makes `D` false. -/
def Keeps (apply : α → σ → Except ε σ) (p : Script α σ ε) (D : σ → Prop) : Prop :=
  ∀ s s' : σ, D s → Crash apply p s s' → D s'

/-- Run again after a crash, the script ends as if there had been none.  `D` says that it is done:
then it does nothing. -/
structure Resumable (apply : α → σ → Except ε σ) (p : Script α σ ε) (D : σ → Prop) : Prop where
  resumes : ∀ {s s' : σ}, Crash apply p s s' → p.run apply s' = p.run apply s
  establishes : ∀ {s s' : σ}, p.run apply s = .ok s' → D s'
  skips : ∀ {s : σ}, D s → p.run apply s = .ok s

theorem Keeps.statements {D : σ → Prop} {as : List α}
    (h : ∀ a ∈ as, ∀ {s s' : σ}, D s → apply a s = .ok s' → D s') :
    Keeps apply (statements as) D := by
  induction as with
  | nil =>
    intro s s' hs hcrash
    cases hcrash
    exact hs
  | cons a as ih =>
    intro s s' hs hcrash
    cases hcrash with
    | here => exact hs
    | exec ha hrest =>
      have hfirst := h a (mem_cons_self ..) hs ha
      exact ih (fun b hb => h b (mem_cons_of_mem _ hb)) _ _ hfirst hrest

theorem Keeps.seq {D : σ → Prop} (hp : Keeps apply p D) (hq : Keeps apply q D) :
    Keeps apply (p.seq q) D := by
  intro s s' hs hcrash
  rcases crash_seq hcrash with hfirst | ⟨s₁, hrun, hsecond⟩
  · exact hp _ _ hs hfirst
  · exact hq _ _ (hp _ _ hs (crash_of_run hrun)) hsecond

namespace Resumable

variable {D E : σ → Prop}

theorem exec {a : α} (hdone : ∀ {s s' : σ}, apply a s = .ok s' → D s')
    (hskip : ∀ {s : σ}, D s → apply a s = .ok s) : Resumable apply (.exec a .done) D := by
  have hrun : ∀ s, (Script.exec a .done).run apply s = apply a s := by
    intro s
    show apply a s >>= Except.ok = apply a s
    cases apply a s with
    | ok s₁ => rfl
    | error e => rfl
  constructor
  · intro s s' hcrash
    cases hcrash with
    | here => rfl
    | exec ha hrest =>
      cases hrest
      rw [hrun, hrun, ha, hskip (hdone ha)]
  · intro s s' h
    rw [hrun] at h
    exact hdone h
  · intro s hs
    rw [hrun]
    exact hskip hs

theorem seq (hp : Resumable apply p D) (hq : Resumable apply q E) (hkeep : Keeps apply q D) :
    Resumable apply (p.seq q) fun s => D s ∧ E s := by
  constructor
  · intro s s' hcrash
    rcases crash_seq hcrash with hfirst | ⟨s₁, hrun, hsecond⟩
    · rw [run_seq, run_seq, hp.resumes hfirst]
    · -- the first part has nothing to do in what the crash left
      have hdone := hkeep _ _ (hp.establishes hrun) hsecond
      rw [run_seq_of_ok (hp.skips hdone), run_seq_of_ok hrun, hq.resumes hsecond]
  · intro s s' hrun
    rw [run_seq] at hrun
    obtain ⟨s₁, hfirst, hsecond⟩ := Fallible.bind_eq_ok.mp hrun
    exact ⟨hkeep _ _ (hp.establishes hfirst) (crash_of_run hsecond), hq.establishes hsecond⟩
  · rintro s ⟨hD, hE⟩
    rw [run_seq_of_ok (hp.skips hD), hq.skips hE]

theorem mono (h : Resumable apply p D) (himp : ∀ s, D s ↔ E s) : Resumable apply p E :=
  ⟨h.resumes, fun hrun => (himp _).mp (h.establishes hrun), fun hE => h.skips ((himp _).mpr hE)⟩

theorem statements {goal : α → σ → Prop} {as : List α}
    (hresumable : ∀ a ∈ as, Resumable apply (.exec a .done) (goal a))
    (hkeep : ∀ a ∈ as, ∀ b ∈ as, ∀ {s s' : σ}, goal a s → apply b s = .ok s' → goal a s') :
    Resumable apply (Script.statements as) fun s => ∀ a ∈ as, goal a s := by
  induction as with
  | nil =>
    refine ⟨fun hcrash => ?_, nofun, fun _ => rfl⟩
    cases hcrash
    rfl
  | cons a as ih =>
    have hrest := ih (fun b hb => hresumable b (mem_cons_of_mem _ hb)) fun b hb c hc =>
      hkeep b (mem_cons_of_mem _ hb) c (mem_cons_of_mem _ hc)
    have hfirst := hresumable a (mem_cons_self ..)
    have hkept : Keeps apply (Script.statements as) (goal a) := Keeps.statements fun b hb =>
      hkeep a (mem_cons_self ..) b (mem_cons_of_mem _ hb)
    exact (hfirst.seq hrest hkept).mono fun s => by rw [forall_mem_cons]

end Resumable

end Script
