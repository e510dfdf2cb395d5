import AgentTower.Lib.Locks
import AgentTower.Agents.Invariants

/-!
# The order in which the calls take their locks

The mutexes come in the order pane, agent, path, and the write lock of the database comes last, with
one exception: a registration that attaches a log is in its transaction already when it takes the
mutexes of the agent and of the path.
-/

namespace AgentTower.Agents

open Transition List
open Routing (PaneKey)
open Locks (Act State WaitsFor WaitCycle WaitsUpwards Move Follows Disciplined)
open Function (update update_of_ne update_self)

inductive Resource where
  | write
  | pane (key : PaneKey)
  | agent (agentId : String)
  | path (logPath : String)
  deriving DecidableEq, Repr

/-- A call, as far as its locks depend on it.  A log path is there if the caller supplied one. -/
inductive Call where
  | registerAgent (key : PaneKey)
  | registerAgentAttaching (key : PaneKey) (agentId : String) (logPath : Option String)
  | attachLog (agentId : String) (logPath : Option String)
  | detachLog (agentId : String)
  | setRole (agentId : String)
  | setLabel (agentId : String)
  | setCapability (agentId : String)
  deriving DecidableEq, Repr

def around (r : Resource) (block : List (Act Resource)) : List (Act Resource) :=
  .acquire r :: (block ++ [.release r])

/-- `acquire_in_order`: the agent's mutex, then the path's if a path was supplied. -/
def acquireInOrder (agentId : String) (logPath : Option String) (block : List (Act Resource)) :
    List (Act Resource) :=
  around (.agent agentId)
    (match logPath with
    | some path => around (.path path) block
    | none => block)

def transaction (block : List (Act Resource)) : List (Act Resource) := around .write block

def Call.script : Call → List (Act Resource)
  | .registerAgent key => around (.pane key) (transaction [])
  | .registerAgentAttaching key agentId logPath =>
    around (.pane key) (transaction (acquireInOrder agentId logPath []))
  | .attachLog agentId logPath => acquireInOrder agentId logPath (transaction [])
  | .detachLog agentId => acquireInOrder agentId none (transaction [])
  | .setRole agentId | .setLabel agentId | .setCapability agentId =>
    around (.agent agentId) (transaction [])

def Resource.rank : Resource → Nat
  | .pane _ => 0
  | .agent _ => 1
  | .path _ => 2
  | .write => 3

def Allowed (taken : List Resource) (r : Resource) : Prop :=
  (∀ r' ∈ taken, r'.rank < r.rank) ∨ (.write ∈ taken ∧ r ∉ taken)

theorem follows_script (call : Call) : Follows Allowed [] call.script := by
  cases call with
  | registerAgent key | setRole agentId | setLabel agentId | setCapability agentId =>
    simp [Call.script, around, transaction, Follows, Allowed, Resource.rank]
  | registerAgentAttaching key agentId logPath | attachLog agentId logPath =>
    cases logPath <;>
      simp [Call.script, around, transaction, acquireInOrder, Follows, Allowed, Resource.rank]
  | detachLog agentId =>
    simp [Call.script, around, transaction, acquireInOrder, Follows, Allowed, Resource.rank]

/-! ## Transactions that find their mutexes free -/

section Runs

variable {ι : Type} [DecidableEq ι]

/-- No transaction begins while another call has a mutex that it is going to take, and no call takes
such a mutex while the transaction is open. -/
def undisturbed (s : State ι Resource) : Locks.Label ι Call → Bool
  | .move i =>
    match s.script i with
    | .acquire .write :: rest =>
      rest.all fun
        | .acquire r => (s.holder r).isNone
        | .release _ => true
    | .acquire r :: _ =>
      (s.holder .write).all fun j => decide (j = i) || decide (Act.acquire r ∉ s.script j)
    | _ => true
  | _ => true

abbrev lockStep : State ι Resource → Locks.Label ι Call → Option (State ι Resource) :=
  Locks.step Call.script

def ClearAhead (s : State ι Resource) : Prop :=
  ∀ i r, s.holder .write = some i → r ≠ .write → Act.acquire r ∈ s.script i →
    ∀ j, s.holder r = some j → j = i

variable {s : State ι Resource} {k : ι} {rest : List (Act Resource)}

variable {r r₀ : Resource} {s' : State ι Resource} {l : Locks.Label ι Call}

theorem not_ahead_of_undisturbed {i : ι} (hok : undisturbed s (.move k) = true)
    (hscript : s.script k = .acquire r :: rest) (hne : r ≠ .write)
    (hwrite : s.holder .write = some i) (hik : i ≠ k) : Act.acquire r ∉ s.script i := by
  simp only [undisturbed, hscript, hwrite, Option.all_some] at hok
  cases r with
  | write => exact absurd rfl hne
  | pane key | agent agentId | path logPath => simpa [hik] using hok

theorem free_of_undisturbed (hok : undisturbed s (.move k) = true)
    (hscript : s.script k = .acquire .write :: rest) (hahead : Act.acquire r ∈ rest) :
    s.holder r = none := by
  simp only [undisturbed, hscript] at hok
  have hfree := all_eq_true.mp hok _ hahead
  exact Option.isNone_iff_eq_none.mp hfree

theorem ClearAhead.acquire (h : ClearAhead s) (hok : undisturbed s (.move k) = true)
    (hscript : s.script k = .acquire r₀ :: rest) :
    ClearAhead ((s.setHolder r₀ (some k)).goto k rest (r₀ :: s.taken k)) := by
  intro i r hwrite hne hahead j hheld
  have hahead' : Act.acquire r ∈ update s.script k rest i := hahead
  have hheld' := (Locks.State.holder_setHolder s r₀ r (some k)).symm.trans hheld
  have hwrite' := (Locks.State.holder_setHolder s r₀ .write (some k)).symm.trans hwrite
  by_cases hik : i = k
  · -- the thread that moves is the one in the transaction, or enters it now
    rw [hik, update_self] at hahead'
    by_cases hr : r = r₀
    · rw [if_pos hr] at hheld'
      rw [hik]
      exact (Option.some.inj hheld').symm
    · rw [if_neg hr] at hheld'
      by_cases hbegin : Resource.write = r₀
      · rw [← hbegin] at hscript
        rw [free_of_undisturbed hok hscript hahead'] at hheld'
        cases hheld'
      · rw [if_neg hbegin] at hwrite'
        have hbefore : Act.acquire r ∈ s.script i := by
          rw [hik, hscript]
          exact mem_cons_of_mem _ hahead'
        exact h i r hwrite' hne hbefore j hheld'
  · -- another thread is in the transaction, and what it has ahead is not taken under it
    rw [update_of_ne hik] at hahead'
    have hbegin : Resource.write ≠ r₀ := by
      intro heq
      rw [if_pos heq] at hwrite'
      exact hik (Option.some.inj hwrite').symm
    rw [if_neg hbegin] at hwrite'
    by_cases hr : r = r₀
    · rw [hr] at hahead'
      exact absurd hahead' (not_ahead_of_undisturbed hok hscript (Ne.symm hbegin) hwrite' hik)
    · rw [if_neg hr] at hheld'
      exact h i r hwrite' hne hahead' j hheld'

theorem ClearAhead.release (h : ClearAhead s) (hscript : s.script k = .release r₀ :: rest) :
    ClearAhead ((s.setHolder r₀ none).goto k rest ((s.taken k).erase r₀)) := by
  intro i r hwrite hne hahead j hheld
  have hahead' : Act.acquire r ∈ update s.script k rest i := hahead
  have hkept : ∀ r' j', (s.setHolder r₀ none).holder r' = some j' → s.holder r' = some j' := by
    intro r' j' hafter
    rw [Locks.State.holder_setHolder] at hafter
    split_ifs at hafter
    exact hafter
  have hbefore : Act.acquire r ∈ s.script i := by
    by_cases hik : i = k
    · rw [hik, update_self] at hahead'
      rw [hik, hscript]
      exact mem_cons_of_mem _ hahead'
    · rw [update_of_ne hik] at hahead'
      exact hahead'
  exact h i r (hkept _ _ hwrite) hne hbefore j (hkept _ _ hheld)

theorem ClearAhead.move (h : ClearAhead s)
    (hdisciplined : Disciplined Allowed s) (hok : undisturbed s l = true)
    (hmove : Move Call.script s l s') : ClearAhead s' := by
  cases hmove with
  | @begin k call hscript htaken =>
    intro i r hwrite hne hahead j hheld
    have hahead' : Act.acquire r ∈ update s.script k call.script i := hahead
    -- the thread that begins holds nothing, so it is not the one in the transaction
    have hik : i ≠ k := by
      intro heq
      have hmem := (hdisciplined.held .write i).mp hwrite
      rw [heq, htaken] at hmem
      cases hmem
    rw [update_of_ne hik] at hahead'
    exact h i r hwrite hne hahead' j hheld
  | acquire hscript hfree => exact h.acquire hok hscript
  | release hscript hheld => exact h.release hscript
  | @abort k =>
    intro i r hwrite hne hahead j hheld
    have hahead' : Act.acquire r ∈ update s.script k ((s.taken k).map .release) i := hahead
    by_cases hik : i = k
    · -- what is left of an aborted call is releases only
      rw [hik, update_self] at hahead'
      obtain ⟨r', -, hr'⟩ := mem_map.mp hahead'
      cases hr'
    · rw [update_of_ne hik] at hahead'
      exact h i r hwrite hne hahead' j hheld

structure LockInv (s : State ι Resource) : Prop where
  disciplined : Disciplined Allowed s
  clearAhead : ClearAhead s

theorem LockInv.step (h : LockInv s)
    (hok : undisturbed s l = true) (hstep : lockStep s l = some s') : LockInv s' :=
  ⟨h.disciplined.move follows_script (Locks.step_move hstep),
    h.clearAhead.move h.disciplined hok (Locks.step_move hstep)⟩

abbrev LockReachable : State ι Resource → Prop :=
  Reach lockStep (fun s l => undisturbed s l = true) State.idle

theorem LockReachable.lockInv (h : LockReachable s) : LockInv s :=
  Reach.invariant LockInv ⟨Disciplined.idle Allowed, fun _ _ hwrite => (by cases hwrite)⟩
    (fun _ _ _ hinv hok hstep => hinv.step hok hstep) h

omit [DecidableEq ι] in
theorem LockInv.waitsUpwards (h : LockInv s) : WaitsUpwards Resource.rank s := by
  intro i j r rest hscript hheld r' hr'
  have hfollows := h.disciplined.follows i
  rw [hscript] at hfollows
  rcases hfollows.1 with hupwards | ⟨hwrite, hnew⟩
  · exact hupwards r' ((h.disciplined.held r' i).mp hr')
  · have hne : r ≠ .write := fun heq => hnew (heq ▸ hwrite)
    have hopen := (h.disciplined.held .write i).mpr hwrite
    have hown : j = i := h.clearAhead i r hopen hne (hscript ▸ mem_cons_self) j hheld
    rw [hown] at hheld
    exact absurd ((h.disciplined.held r i).mp hheld) hnew

/-- Threads that wait for each other in a circle do not occur as long as no registration that
attaches a log finds one of its mutexes in use. -/
theorem no_wait_cycle {s : State ι Resource} (h : LockReachable s) : ¬ WaitCycle s :=
  h.lockInv.waitsUpwards.no_cycle

end Runs

/-- A registration that attaches a log is in its transaction; a `set_role` of another agent waits
for it. -/
def waitingLabels : List (Locks.Label Nat Call) :=
  [.begin 0 (.registerAgentAttaching (samplePane "%0") "agt_000000000000" none), .move 0, .move 0,
    .begin 1 (.setRole "agt_111111111111"), .move 1]

theorem no_wait_cycle_waiting :
    ∃ s : State Nat Resource, LockReachable s ∧ WaitsFor s 1 0 ∧ ¬ WaitCycle s := by
  obtain ⟨s, hs, hscript, hheld⟩ : ∃ s, runWhile lockStep undisturbed State.idle waitingLabels = some s ∧
      s.script 1 = [.acquire .write, .release .write, .release (.agent "agt_111111111111")] ∧
      s.holder .write = some 0 := by decide +kernel
  have hreach : LockReachable s := reach_of_runWhile .start hs
  exact ⟨s, hreach, ⟨.write, _, hscript, hheld⟩, no_wait_cycle hreach⟩

/-- `attach_log` has the agent's mutex when the agent's pane is registered again with a log. -/
def deadlockLabels : List (Locks.Label Nat Call) :=
  [.begin 0 (.attachLog "agt_000000000000" none), .move 0,
    .begin 1 (.registerAgentAttaching (samplePane "%0") "agt_000000000000" none), .move 1, .move 1]

theorem attach_and_register_wait_for_each_other :
    ∃ s : State Nat Resource,
      Reach lockStep anyStep State.idle s ∧ WaitCycle s := by
  obtain ⟨s, hs, hfirst, hsecond, hwrite, hagent⟩ :
      ∃ s : State Nat Resource, run lockStep State.idle deadlockLabels = some s ∧
      s.script 0 = [.acquire .write, .release .write, .release (.agent "agt_000000000000")] ∧
      s.script 1 = [.acquire (.agent "agt_000000000000"), .release (.agent "agt_000000000000"),
        .release .write, .release (.pane (samplePane "%0"))] ∧
      s.holder .write = some 1 ∧ s.holder (.agent "agt_000000000000") = some 0 := by
    decide +kernel
  have hwaits : WaitsFor s 0 1 := ⟨.write, _, hfirst, hwrite⟩
  have hwaits' : WaitsFor s 1 0 := ⟨.agent "agt_000000000000", _, hsecond, hagent⟩
  exact ⟨s, reach_of_run hs, 0, .tail (.single hwaits) hwaits'⟩

end AgentTower.Agents
