import AgentTower.Routing.Authorization
import AgentTower.Routing.Registry

/-!
# Which pane a delivery addresses

The daemon over the registry, whose transactions run between any two steps of the daemon.  A queue row
carries the container and the pane id of its target's pane.  The socket is looked up again at delivery,
by those two columns alone: where another server of the container has an active pane of the same id,
the query may answer with that server's socket.
-/

namespace AgentTower.Routing

open Transition Sql List Table

variable {r : QueueRow}

theorem RowStep.target_columns {op : DaoOp} {r' : QueueRow} (hstep : RowStep op r r') :
    r'.targetAgentId = r.targetAgentId ∧ r'.targetContainerId = r.targetContainerId ∧
      r'.targetPaneId = r.targetPaneId := by
  cases hstep <;> exact ⟨rfl, rfl, rfl⟩

theorem MessageQueueDao.mem_of_pickNextReadyRow {q : MessageQueue}
    (h : pickNextReadyRow q = some r) : r ∈ q.rows := by
  refine mem_of_mem_filter (p := QueueRow.ready) ?_
  refine List.foldlRecOn (motive := fun best => ∀ r, best = some r → r ∈ q.rows.filter QueueRow.ready)
    _ _ (fun _ hnone => by cases hnone) ?_ r h
  intro best hbest x hx r hr
  cases best with
  | none =>
    cases hr
    exact hx
  | some b =>
    simp only at hr
    split_ifs at hr <;> cases hr
    · exact hx
    · exact hbest r rfl

namespace Daemon

variable {env : Env} {s s' : State}

/-! ## The target of a row, from the gate to the worker -/

def Worker.row : Worker → Option QueueRow
  | .idle | .polled | .dead => none
  | .picked row | .rechecked row | .blocking row _ | .resolved row | .stamped row
  | .loading row _ | .loaded row _ | .pasted row _ | .submitted row _ | .failing row _ => some row

/-- The row for which the worker has resolved the tmux arguments and may still use them. -/
def Worker.contextRow : Worker → Option QueueRow
  | .resolved row | .stamped row | .loading row _ | .loaded row _ | .pasted row _ => some row
  | _ => none

variable {l : WorkerLabel} {ts : String} {call : Call} {m : NewMessage} {op : DaoOp}
  {record : QueueTransition}

theorem stepWorker_row {row : QueueRow} (h : stepWorker env s l = some s')
    (hrow : s'.worker.row = some row) :
    s.worker.row = some row ∨ row ∈ s.messageQueue.rows := by
  have hmove := stepWorker_moves h
  generalize s'.worker = w at hmove hrow
  cases hmove with
  | poll => split at hrow <;> cases hrow
  | pick _ hpick =>
    cases hrow
    exact .inr (MessageQueueDao.mem_of_pickNextReadyRow hpick)
  | nothing | commit | noBody | lockConflict | die | raise => cases hrow
  | recheck hworker | block _ hworker | resolve hworker | unresolved hworker | stamp _ hworker
  | readBody _ hworker | load hworker | paste hworker | submit hworker | notDelivered hworker =>
    rw [hworker]
    exact .inl hrow
  | tmuxError _ hworker =>
    rcases hworker with hworker | hworker <;> rw [hworker] <;> exact .inl hrow

theorem stepWorker_contextRow {row : QueueRow} (h : stepWorker env s l = some s')
    (hrow : s'.worker.contextRow = some row) :
    s.worker.contextRow = some row ∨ l = .resolve true ∧ s.worker = .rechecked row := by
  have hmove := stepWorker_moves h
  generalize s'.worker = w at hmove hrow
  cases hmove with
  | poll => split at hrow <;> cases hrow
  | resolve hworker =>
    cases hrow
    exact .inr ⟨rfl, hworker⟩
  | stamp _ hworker | readBody _ hworker | load hworker | paste hworker =>
    rw [hworker]
    exact .inl hrow
  | _ => cases hrow

def Call.message : Call → Option NewMessage
  | .insert m _ _ _ => some m
  | _ => none

/-- `P` holds of the target of every row, of every insert under way and of the row that the worker
is at. -/
structure Targets (P : String → String → String → Prop) (s : State) : Prop where
  rows : ∀ r ∈ s.messageQueue.rows, P r.targetAgentId r.targetContainerId r.targetPaneId
  calls : ∀ t m, (s.calls t).message = some m → P m.target.agentId m.containerId m.paneId
  worker : ∀ r, s.worker.row = some r → P r.targetAgentId r.targetContainerId r.targetPaneId

namespace Targets

variable {P Q : String → String → String → Prop}

theorem mono (h : Targets P s) (himp : ∀ a c p, P a c p → Q a c p) : Targets Q s :=
  ⟨fun r hr => himp _ _ _ (h.rows r hr), fun t m hm => himp _ _ _ (h.calls t m hm),
    fun r hr => himp _ _ _ (h.worker r hr)⟩

theorem init (agents : List AgentRecord) (flag : KillSwitch.FlagValue) :
    Targets P (State.init agents flag) := by
  refine ⟨fun r hr => ?_, fun t m hm => ?_, fun r hr => ?_⟩
  · cases hr
  · cases hm
  · cases hr

theorem apply_rows {q q' : MessageQueue} {op : DaoOp} (happly : op.apply q = .ok q')
    (h : ∀ r ∈ q.rows, P r.targetAgentId r.targetContainerId r.targetPaneId)
    (hnew : ∀ m, op.inserted = some m → P m.target.agentId m.containerId m.paneId) :
    ∀ r ∈ q'.rows, P r.targetAgentId r.targetContainerId r.targetPaneId := by
  intro r' hr'
  rcases DaoOp.apply_source happly (get_of_mem hr') with
    ⟨r, hget, rfl | hstep⟩ | ⟨-, m, decision, rfl, -, rfl⟩
  · exact h r' (mem_of_get hget)
  · obtain ⟨hagent, hcontainer, hpane⟩ := hstep.target_columns
    rw [hagent, hcontainer, hpane]
    exact h r (mem_of_get hget)
  · exact hnew m (Decision.inserted_insert m decision)

theorem goto (h : Targets P s) {t : Nat} {call : Call}
    (hcall : ∀ m, call.message = some m → P m.target.agentId m.containerId m.paneId) :
    Targets P (s.goto t call) := by
  refine ⟨h.rows, fun u m hm => ?_, h.worker⟩
  simp only [State.goto] at hm
  split_ifs at hm
  · exact hcall m hm
  · exact h.calls u m hm

end Targets

theorem Call.transition_inserted (h : call.transition env ts = some (op, record)) :
    op.inserted = call.message := by
  cases call with
  | insert m decision => cases decision <;> cases h <;> rfl
  | _ => cases h <;> rfl

theorem Worker.transition_inserted {w : Worker} (h : w.transition env ts = some (op, record)) :
    op.inserted = none := by
  cases w <;> cases h <;> rfl

namespace Targets

variable {P : String → String → String → Prop}

theorem worker_step (h : Targets P s) {l : WorkerLabel} (hstep : stepWorker env s l = some s') :
    Targets P s' := by
  have hworker : ∀ r, s'.worker.row = some r →
      P r.targetAgentId r.targetContainerId r.targetPaneId := fun r hr =>
    (stepWorker_row hstep hr).elim (h.worker r) (h.rows r)
  cases stepWorker_change hstep with
  | worker _ hfill =>
    rcases hfill with rfl | rfl <;> exact ⟨h.rows, h.calls, hworker⟩
  | stamp _ happly => exact ⟨apply_rows happly h.rows fun _ hm => (by cases hm), h.calls, hworker⟩
  | paste => exact ⟨h.rows, h.calls, hworker⟩
  | commitWorker htransition hcommit =>
    refine ⟨apply_rows hcommit.apply h.rows fun m hm => ?_, fun t m hm => ?_, hworker⟩
    · rw [Worker.transition_inserted htransition] at hm
      cases hm
    · refine h.calls t m ?_
      rw [← hcommit.calls]
      exact hm

theorem call_step (h : Targets P s)
    (hagents : ∀ a ∈ s.agents, P a.agentId a.containerId a.tmuxPaneId) {t : Nat} {l : CallLabel}
    (hstep : stepCall env s t l = some s') : Targets P s' := by
  cases stepCall_change hstep with
  | refused => exact h
  | @call _ _ call s₁ hmove hfill =>
    have hfilled : Targets P s₁ := by
      rcases hfill with rfl | rfl
      · exact h
      · exact ⟨h.rows, h.calls, h.worker⟩
    refine hfilled.goto fun m hm => ?_
    cases hmove with
    | insert _ hresolve =>
      cases hm
      exact hagents _ (mem_of_resolveTarget hresolve)
    | idle | sendInput | approveCheck | approve | delay | cancel | readFull => cases hm
  | @storeFlag _ value =>
    have hstored : Targets P (s.store value) := ⟨h.rows, h.calls, h.worker⟩
    exact hstored.goto fun _ hm => by cases hm
  | @commitCall _ ts op record s₁ htransition hcommit =>
    refine goto ⟨?_, ?_, ?_⟩ fun _ hm => by cases hm
    · rw [Call.record_messageQueue]
      refine apply_rows hcommit.apply h.rows fun m hm => h.calls t m ?_
      rw [← Call.transition_inserted htransition]
      exact hm
    · rw [Call.record_calls, hcommit.calls]
      exact h.calls
    · rw [Call.record_worker, hcommit.worker]
      exact h.worker

theorem step (h : Targets P s) (hagents : ∀ a ∈ s.agents, P a.agentId a.containerId a.tmuxPaneId)
    {l : Label} (hstep : step env s l = some s') : Targets P s' := by
  have hchange := step_change hstep
  cases l with
  | call t l =>
    simp only [Daemon.step] at hstep
    split_ifs at hstep
    exact h.call_step hagents hstep
  | worker l =>
    simp only [Daemon.step] at hstep
    split_ifs at hstep
    exact h.worker_step hstep
  | toggle | register =>
    cases hchange
    exact ⟨h.rows, h.calls, h.worker⟩
  | crash =>
    cases hchange
    exact ⟨h.rows, fun _ _ hm => (by cases hm), fun _ hr => (by cases hr)⟩
  | boot =>
    cases hchange with
    | boot ts happly =>
      exact ⟨apply_rows happly h.rows fun _ hm => (by cases hm), fun _ _ hm => (by cases hm),
        fun _ hr => (by cases hr)⟩

end Targets

end Daemon

/-! ## The daemon over the registry -/

namespace Addressing

open Daemon (Worker)

inductive TmuxCommand where
  | loadBuffer | pasteBuffer | sendKeys
  deriving DecidableEq, Repr

/-- A tmux call that the worker has started, with the row that it is for. -/
structure TmuxCall where
  command : TmuxCommand
  row : QueueRow
  context : DeliveryContext
  deriving DecidableEq, Repr

/-- What `_deliver_one` and `resolve` have in local variables; `calling` says that the tmux call of
the present line is out. -/
structure Locals where
  containerActive : Option Bool
  paneResolvable : Option Bool
  benchUser : Option String
  context : Option DeliveryContext
  calling : Bool
  deriving DecidableEq, Repr

/-- `tmuxCalls` is history. -/
structure State where
  daemon : Daemon.State
  registry : Registry
  locals : Locals
  tmuxCalls : List TmuxCall

def State.init (flag : KillSwitch.FlagValue) : State where
  daemon := Daemon.State.init [] flag
  registry := Registry.empty
  locals := ⟨none, none, none, none, false⟩
  tmuxCalls := []

/-- `choice` is the row that SQLite returns among those that match; `fails` says that a lookup
raises, which the adapter answers with `False`. -/
inductive Label where
  | registry (op : Registry.Op)
  | readContainer (fails : Bool)
  | readPane (fails : Bool)
  | recheck
  | resolveContainer
  | resolvePane (choice : Nat)
  | resolveRaises
  | tmuxCall
  | daemon (l : Daemon.Label)
  deriving DecidableEq, Repr

/-- The daemon's own steps here.  The others read the registry and have labels of their own; a line
after a tmux call is reached only when the call has been made. -/
def admits (s : State) : Daemon.Label → Bool
  | .register _ | .worker (.recheck ..) | .worker (.resolve _) => false
  | .worker .load | .worker .submit => s.locals.calling
  | .worker (.tmuxError _) =>
    match s.daemon.worker with
    | .loading .. => s.locals.calling
    | _ => true
  | _ => true

/-- A new call of `_deliver_one` starts with no lookups made. -/
def Locals.after (v : Locals) : Daemon.Label → Locals
  | .worker .pick => ⟨none, none, none, v.context, false⟩
  | .worker _ => { v with calling := false }
  | _ => v

/-- `paste_buffer` is started by the daemon's own `paste`. -/
def State.pasteCalls (s : State) : Daemon.Label → List TmuxCall
  | .worker .paste =>
    match s.daemon.worker, s.locals.context with
    | .loaded row _, some context => [⟨.pasteBuffer, row, context⟩]
    | _, _ => []
  | _ => []

def deliveryContext (row : QueueRow) (user : String) (pane : PaneRow) : DeliveryContext where
  containerId := row.targetContainerId
  benchUser := user
  socketPath := pane.key.tmuxSocketPath
  paneId := row.targetPaneId

/-- The end of `resolve`: the context, or none if it has raised. -/
def resolved (env : Env) (s : State) (context : Option DeliveryContext) : Option State :=
  (Daemon.step env s.daemon (.worker (.resolve context.isSome))).map fun d =>
    { s with daemon := d, locals := { s.locals with context } }

def step (env : Env) (s : State) : Label → Option State
  | .registry op =>
    (op.apply s.registry).map fun g =>
      { s with registry := g, daemon := { s.daemon with agents := g.records } }
  | .readContainer fails =>
    match s.daemon.worker with
    | .picked row =>
      let answer := !fails && s.registry.isContainerActive row.targetContainerId
      some { s with locals := { s.locals with containerActive := some answer } }
    | _ => none
  | .readPane fails =>
    match s.daemon.worker with
    | .picked row =>
      let answer := !fails && s.registry.isPaneResolvable row.targetContainerId row.targetPaneId
      some { s with locals := { s.locals with paneResolvable := some answer } }
    | _ => none
  | .recheck =>
    match s.locals.containerActive, s.locals.paneResolvable with
    | some containerActive, some paneResolvable =>
      (Daemon.step env s.daemon (.worker (.recheck containerActive paneResolvable))).map
        fun d => { s with daemon := d }
    | _, _ => none
  -- the two queries of `resolve` are two transactions
  | .resolveContainer =>
    match s.daemon.worker with
    | .rechecked row =>
      match s.registry.benchUser row.targetContainerId with
      | none => resolved env s none
      | some user => some { s with locals := { s.locals with benchUser := some user } }
    | _ => none
  | .resolvePane choice =>
    match s.daemon.worker, s.locals.benchUser with
    | .rechecked row, some user =>
      match s.registry.paneCandidates row.targetContainerId row.targetPaneId with
      | [] => resolved env s none
      | candidates =>
        candidates[choice]?.bind fun pane => resolved env s (some (deliveryContext row user pane))
    | _, _ => none
  | .resolveRaises => resolved env s none
  | .tmuxCall =>
    match s.daemon.worker, s.locals.context, s.locals.calling with
    | .loading row _, some context, false =>
      some { s with
        locals := { s.locals with calling := true }
        tmuxCalls := s.tmuxCalls ++ [⟨.loadBuffer, row, context⟩] }
    | .pasted row _, some context, false =>
      some { s with
        locals := { s.locals with calling := true }
        tmuxCalls := s.tmuxCalls ++ [⟨.sendKeys, row, context⟩] }
    | _, _, _ => none
  | .daemon l =>
    if admits s l then
      (Daemon.step env s.daemon l).map fun d =>
        { s with
          daemon := d
          locals := s.locals.after l
          tmuxCalls := s.tmuxCalls ++ s.pasteCalls l }
    else none

/-- When the pane is looked up, every active pane of the row's container with the row's pane id is
on the socket of the target's own pane. -/
def socketUnambiguous (s : State) : Label → Bool
  | .resolvePane _ =>
    match s.daemon.worker with
    | .rechecked row =>
      (s.registry.paneCandidates row.targetContainerId row.targetPaneId).all fun pane =>
        (s.registry.agents.get row.targetAgentId).any fun a =>
          decide (a.key.tmuxSocketPath = pane.key.tmuxSocketPath)
    | _ => true
  | _ => true

variable {env : Env} {s s' : State}

/-! ## What a step can change -/

inductive Change (env : Env) (s : State) : Label → State → Prop where
  | registry {op : Registry.Op} {g : Registry} : op.apply s.registry = some g →
      Change env s (.registry op)
        { s with registry := g, daemon := { s.daemon with agents := g.records } }
  | looked (l : Label) {v : Locals} : v.context = s.locals.context →
      Change env s l { s with locals := v }
  | rechecked {containerActive paneResolvable : Bool} {d : Daemon.State} :
      Daemon.step env s.daemon (.worker (.recheck containerActive paneResolvable)) = some d →
      Change env s .recheck { s with daemon := d }
  | unresolved (l : Label) {d : Daemon.State} :
      Daemon.step env s.daemon (.worker (.resolve false)) = some d →
      Change env s l { s with daemon := d, locals := { s.locals with context := none } }
  | resolved {choice : Nat} {row : QueueRow} {pane : PaneRow} {d : Daemon.State} (user : String) :
      s.daemon.worker = .rechecked row →
      pane ∈ s.registry.paneCandidates row.targetContainerId row.targetPaneId →
      Daemon.step env s.daemon (.worker (.resolve true)) = some d →
      Change env s (.resolvePane choice)
        { s with
          daemon := d
          locals := { s.locals with context := some (deliveryContext row user pane) } }
  | called {row : QueueRow} {context : DeliveryContext} {v : Locals} (command : TmuxCommand) :
      s.daemon.worker.contextRow = some row → s.locals.context = some context →
      v.context = s.locals.context →
      Change env s .tmuxCall
        { s with locals := v, tmuxCalls := s.tmuxCalls ++ [⟨command, row, context⟩] }
  | daemon {l : Daemon.Label} {d : Daemon.State} :
      admits s l = true → Daemon.step env s.daemon l = some d →
      Change env s (.daemon l)
        { s with
          daemon := d
          locals := s.locals.after l
          tmuxCalls := s.tmuxCalls ++ s.pasteCalls l }

variable {l : Label} {d d' : Daemon.State}

theorem step_change (h : step env s l = some s') : Change env s l s' := by
  cases l with
  | registry op =>
    obtain ⟨g, happly, rfl⟩ := Option.map_eq_some_iff.mp h
    exact .registry happly
  | readContainer fails | readPane fails =>
    simp only [step] at h
    split at h <;> cases h
    exact .looked _ rfl
  | recheck =>
    simp only [step] at h
    split at h
    · obtain ⟨d, hd, rfl⟩ := Option.map_eq_some_iff.mp h
      exact .rechecked hd
    · cases h
  | resolveContainer =>
    simp only [step] at h
    split at h
    · split at h
      · obtain ⟨d, hd, rfl⟩ := Option.map_eq_some_iff.mp h
        exact .unresolved _ hd
      · cases h
        exact .looked _ rfl
    · cases h
  | resolvePane choice =>
    simp only [step] at h
    split at h
    · rename_i row user hworker _
      split at h
      · obtain ⟨d, hd, rfl⟩ := Option.map_eq_some_iff.mp h
        exact .unresolved _ hd
      · obtain ⟨pane, hpane, hresolved⟩ := Option.bind_eq_some_iff.mp h
        obtain ⟨d, hd, rfl⟩ := Option.map_eq_some_iff.mp hresolved
        exact .resolved user hworker (mem_of_getElem? hpane) hd
    · cases h
  | resolveRaises =>
    obtain ⟨d, hd, rfl⟩ := Option.map_eq_some_iff.mp h
    exact .unresolved _ hd
  | tmuxCall =>
    simp only [step] at h
    split at h <;> cases h
    all_goals
      rename_i hworker hcontext _
      exact .called _ (by rw [hworker]; rfl) hcontext rfl
  | daemon l =>
    simp only [step] at h
    split_ifs at h with hadmits
    obtain ⟨d, hd, rfl⟩ := Option.map_eq_some_iff.mp h
    exact .daemon hadmits hd

theorem step_daemon (h : step env s l = some s') :
    s'.daemon = s.daemon ∨ ∃ l', Daemon.step env s.daemon l' = some s'.daemon := by
  cases step_change h with
  | registry => exact .inr ⟨.register _, rfl⟩
  | looked | called => exact .inl rfl
  | rechecked hd | unresolved _ hd | resolved _ _ _ hd | daemon _ hd => exact .inr ⟨_, hd⟩

theorem reachable_daemon {flag : KillSwitch.FlagValue}
    (h : Reach (step env) anyStep (State.init flag) s) :
    Daemon.Reachable env [] flag s.daemon := by
  refine h.invariant (fun s => Daemon.Reachable env [] flag s.daemon) .start ?_
  intro s l s' hreach _ hstep
  rcases step_daemon hstep with hsame | ⟨l', hstep'⟩
  · rw [hsame]
    exact hreach
  · exact hreach.next trivial hstep'

/-! ## The invariant -/

/-- `R` relates a row and the tmux arguments found for it, by what the registry says. -/
structure AddressInv (R : Registry → QueueRow → DeliveryContext → Prop) (s : State) : Prop where
  records : s.daemon.agents = s.registry.records
  targets : Daemon.Targets (fun a c p => ∃ socketPath, s.registry.Bound a c socketPath p) s.daemon
  context : ∀ row, s.daemon.worker.contextRow = some row →
    ∃ context, s.locals.context = some context ∧ R s.registry row context
  calls : ∀ c ∈ s.tmuxCalls, R s.registry c.row c.context

theorem Registry.bound_of_mem_records {g : Registry} {a : AgentRecord} (h : a ∈ g.records) :
    ∃ socketPath, g.Bound a.agentId a.containerId socketPath a.tmuxPaneId := by
  obtain ⟨row, hrow, rfl⟩ := mem_map.mp h
  exact ⟨_, row, get_of_mem hrow, rfl, rfl, rfl⟩

/-- A step of the daemon other than `resolve` gives the worker no new tmux arguments. -/
theorem contextRow_of_step {l : Daemon.Label}
    (h : Daemon.step env d l = some d') (hl : ∀ b, l ≠ .worker (.resolve b)) {row : QueueRow}
    (hrow : d'.worker.contextRow = some row) : d.worker.contextRow = some row := by
  have hchange := Daemon.step_change h
  cases l with
  | worker l =>
    simp only [Daemon.step] at h
    split_ifs at h
    rcases Daemon.stepWorker_contextRow h hrow with hbefore | ⟨rfl, -⟩
    · exact hbefore
    · exact absurd rfl (hl true)
  | call t l =>
    cases hchange with
    | refused => exact hrow
    | call _ hfill => rcases hfill with rfl | rfl <;> exact hrow
    | storeFlag => exact hrow
    | commitCall _ hcommit =>
      simp only [Daemon.State.goto, Daemon.Call.record_worker, hcommit.worker] at hrow
      exact hrow
  | toggle | register =>
    cases hchange
    exact hrow
  | crash | boot =>
    cases hchange
    cases hrow

/-- Where `resolve` leaves the worker. -/
theorem worker_of_resolve {b : Bool} {row : QueueRow}
    (h : Daemon.step env d (.worker (.resolve b)) = some d') (hrow : d'.worker.contextRow = some row) :
    b = true ∧ d.worker = .rechecked row := by
  simp only [Daemon.step] at h
  split_ifs at h
  have hmove := Daemon.stepWorker_moves h
  generalize d'.worker = w at hmove hrow
  cases hmove with
  | resolve hworker =>
    cases hrow
    exact ⟨rfl, hworker⟩
  | unresolved => cases hrow

theorem agents_of_step {l : Daemon.Label}
    (h : Daemon.step env d l = some d') (hl : ∀ agents, l ≠ .register agents) :
    d'.agents = d.agents := by
  cases Daemon.step_change h with
  | register agents => exact absurd rfl (hl agents)
  | call _ hfill | worker _ hfill => rcases hfill with rfl | rfl <;> rfl
  | commitCall _ hcommit =>
    simp only [Daemon.State.goto, Daemon.Call.record_agents, hcommit.agents]
  | commitWorker _ hcommit => exact hcommit.agents
  | toggle | crash | boot | refused | storeFlag | stamp | paste => rfl

theorem Locals.context_after (v : Locals) (l : Daemon.Label) : (v.after l).context = v.context := by
  unfold Locals.after
  split <;> rfl

namespace AddressInv

variable {R : Registry → QueueRow → DeliveryContext → Prop}

theorem init (flag : KillSwitch.FlagValue) : AddressInv R (State.init flag) where
  records := rfl
  targets := Daemon.Targets.init [] flag
  context _ hrow := by cases hrow
  calls _ hc := by cases hc

variable {l : Daemon.Label}

theorem of_step (h : AddressInv R s) {d : Daemon.State}
    (hd : Daemon.step env s.daemon l = some d) (hl : ∀ agents, l ≠ .register agents) :
    d.agents = s.registry.records ∧
      Daemon.Targets (fun a c p => ∃ socketPath, s.registry.Bound a c socketPath p) d := by
  refine ⟨(agents_of_step hd hl).trans h.records, h.targets.step (fun a ha => ?_) hd⟩
  rw [h.records] at ha
  exact Registry.bound_of_mem_records ha

theorem holds (h : AddressInv R s) {row : QueueRow} {context : DeliveryContext}
    (hrow : s.daemon.worker.contextRow = some row) (hcontext : s.locals.context = some context) :
    R s.registry row context := by
  obtain ⟨context', hcontext', hR⟩ := h.context row hrow
  cases hcontext.symm.trans hcontext'
  exact hR

theorem pasteCalls (h : AddressInv R s) {c : TmuxCall}
    (hc : c ∈ s.pasteCalls l) : R s.registry c.row c.context := by
  unfold State.pasteCalls at hc
  split at hc
  · split at hc
    · rename_i hworker hcontext
      cases mem_singleton.mp hc
      exact h.holds (by rw [hworker]; rfl) hcontext
    · cases hc
  · cases hc

theorem change (h : AddressInv R s) {l : Label}
    (hmono : ∀ g g' op row context, Registry.Op.apply g op = some g' → R g row context →
      R g' row context)
    (hresolved : ∀ choice row pane user, l = .resolvePane choice → s.daemon.worker = .rechecked row →
      pane ∈ s.registry.paneCandidates row.targetContainerId row.targetPaneId →
      R s.registry row (deliveryContext row user pane))
    (hchange : Change env s l s') : AddressInv R s' := by
  cases hchange with
  | @registry op g happly =>
    have htargets := h.targets.mono (Q := fun a c p => ∃ socketPath, g.Bound a c socketPath p)
      fun _ _ _ ⟨socketPath, hbound⟩ => ⟨socketPath, hbound.apply happly⟩
    refine ⟨rfl, ⟨htargets.rows, htargets.calls, htargets.worker⟩, fun row hrow => ?_,
      fun c hc => hmono _ _ _ _ _ happly (h.calls c hc)⟩
    obtain ⟨context, hcontext, hR⟩ := h.context row hrow
    exact ⟨context, hcontext, hmono _ _ _ _ _ happly hR⟩
  | looked _ hv =>
    refine ⟨h.records, h.targets, fun row hrow => ?_, h.calls⟩
    rw [hv]
    exact h.context row hrow
  | rechecked hd =>
    obtain ⟨hrecords, htargets⟩ := h.of_step hd nofun
    exact ⟨hrecords, htargets, fun row hrow => h.context row (contextRow_of_step hd nofun hrow),
      h.calls⟩
  | unresolved _ hd =>
    obtain ⟨hrecords, htargets⟩ := h.of_step hd nofun
    exact ⟨hrecords, htargets, fun row hrow => (by cases (worker_of_resolve hd hrow).1), h.calls⟩
  | @resolved choice row pane d user hworker hpane hd =>
    obtain ⟨hrecords, htargets⟩ := h.of_step hd nofun
    refine ⟨hrecords, htargets, fun row' hrow' => ⟨_, rfl, ?_⟩, h.calls⟩
    have hsame := (worker_of_resolve hd hrow').2
    rw [hworker] at hsame
    cases hsame
    exact hresolved choice row pane user rfl hworker hpane
  | @called row context v command hrow hcontext hv =>
    refine ⟨h.records, h.targets, fun row' hrow' => ?_, fun c hc => ?_⟩
    · rw [hv]
      exact h.context row' hrow'
    · rcases mem_append.mp hc with hc | hc
      · exact h.calls c hc
      · cases mem_singleton.mp hc
        exact h.holds hrow hcontext
  | @daemon l d hadmits hd =>
    have hregister : ∀ agents, l ≠ .register agents := by
      rintro agents rfl
      cases hadmits
    have hresolve : ∀ b, l ≠ .worker (.resolve b) := by
      rintro b rfl
      cases hadmits
    obtain ⟨hrecords, htargets⟩ := h.of_step hd hregister
    refine ⟨hrecords, htargets, fun row hrow => ?_, fun c hc => ?_⟩
    · rw [Locals.context_after]
      exact h.context row (contextRow_of_step hd hresolve hrow)
    · exact (mem_append.mp hc).elim (h.calls c) h.pasteCalls

end AddressInv

/-- The arguments are for the target's container and pane id; the socket is left open. -/
def ownPaneId (g : Registry) (row : QueueRow) (context : DeliveryContext) : Prop :=
  ∃ socketPath, g.Bound row.targetAgentId context.containerId socketPath context.paneId

def ownPane (g : Registry) (row : QueueRow) (context : DeliveryContext) : Prop :=
  g.Bound row.targetAgentId context.containerId context.socketPath context.paneId

instance (g : Registry) (row : QueueRow) (context : DeliveryContext) :
    Decidable (ownPane g row context) :=
  inferInstanceAs (Decidable (g.Bound _ _ _ _))

theorem AddressInv.step_ownPaneId (h : AddressInv ownPaneId s)
    (hstep : step env s l = some s') : AddressInv ownPaneId s' := by
  refine h.change ?_ ?_ (step_change hstep)
  · rintro g g' op row context happly ⟨socketPath, hbound⟩
    exact ⟨socketPath, hbound.apply happly⟩
  · intro choice row pane user _ hworker _
    exact h.targets.worker row (by rw [hworker]; rfl)

theorem AddressInv.step_ownPane (h : AddressInv ownPane s)
    (hok : socketUnambiguous s l = true) (hstep : step env s l = some s') :
    AddressInv ownPane s' := by
  refine h.change (fun _ _ _ _ _ happly hbound => hbound.apply happly) ?_ (step_change hstep)
  rintro choice row pane user rfl hworker hpane
  -- the row's container and pane id are the agent's, whichever pane the query returns
  obtain ⟨socketPath, a, hget, hcontainer, hsocket, hid⟩ :=
    h.targets.worker row (by rw [hworker]; rfl)
  simp only [socketUnambiguous, hworker, all_eq_true] at hok
  have hsame := hok pane hpane
  rw [hget, Option.any_some, decide_eq_true_eq] at hsame
  exact ⟨a, hget, hcontainer, hsame, hid⟩

/-- In every run each tmux call goes to the container and the pane id of the target's own pane; and
in every run in which the pane is looked up only while all active panes of that container and pane
id are on the target's socket, each goes to that socket as well. -/
theorem tmux_calls_address_own_pane (flag : KillSwitch.FlagValue) :
    (∀ s, Reach (step env) anyStep (State.init flag) s →
      ∀ c ∈ s.tmuxCalls, ownPaneId s.registry c.row c.context) ∧
    ∀ s, Reach (step env) (fun s l => socketUnambiguous s l = true) (State.init flag) s →
      ∀ c ∈ s.tmuxCalls, ownPane s.registry c.row c.context := by
  refine ⟨fun s hs => ?_, fun s hs => ?_⟩
  · have hinv := hs.invariant (AddressInv ownPaneId) (AddressInv.init flag)
      fun _ _ _ hinv _ hstep => hinv.step_ownPaneId hstep
    exact hinv.calls
  · have hinv := hs.invariant (AddressInv ownPane) (AddressInv.init flag)
      fun _ _ _ hinv hok hstep => hinv.step_ownPane hok hstep
    exact hinv.calls

def sampleContainer : ContainerRow :=
  ⟨String.ofList (List.replicate 64 'a'), "bench", some "dev", true⟩

def samplePane (socketPath : String) : PaneKey :=
  ⟨sampleContainer.containerId, socketPath, "main", 0, 0, "%0"⟩

/-- The agent is in the first pane of the server on the socket `work`. -/
def registered (panes : List PaneKey) : List Label :=
  [.registry (.reconcileContainers [sampleContainer] []), .registry (.reconcilePanes panes []),
    .registry (.registerAgent "agt_00000000000b" (samplePane "/tmp/tmux-1000/work") (some .slave)
      (some "codex") (some "worker"))]

/-- A message to that agent, up to the worker's `load_buffer`. -/
def loadsBuffer : List Label :=
  .daemon (.boot "t0") :: (Daemon.sendLabels .hostOperator "m1" "t1").map .daemon ++
    [.daemon (.worker .poll), .daemon (.worker .pick), .readContainer false, .readPane false,
      .recheck, .resolveContainer, .resolvePane 0, .daemon (.worker (.commit "t2")),
      .daemon (.worker .readBody), .tmuxCall]

/-- The default server of the container has a pane `%0` as well, and the query returns that one. -/
theorem load_buffer_on_other_socket :
    ∃ s, run (step Daemon.sampleEnv) (State.init .enabled)
        (registered [samplePane "/tmp/tmux-1000/default", samplePane "/tmp/tmux-1000/work"] ++
          loadsBuffer) = some s ∧
      ∃ c ∈ s.tmuxCalls, c.context.socketPath = "/tmp/tmux-1000/default" ∧
        ¬ ownPane s.registry c.row c.context := by decide +kernel

theorem tmux_calls_address_own_pane_loadsBuffer :
    ∃ s, run (step Daemon.sampleEnv) (State.init .enabled)
        (registered [samplePane "/tmp/tmux-1000/work"] ++ loadsBuffer) = some s ∧
      s.tmuxCalls.map (fun c => (c.command, c.context.socketPath)) =
        [(.loadBuffer, "/tmp/tmux-1000/work")] ∧
      ∀ c ∈ s.tmuxCalls, ownPane s.registry c.row c.context :=
  exists_run_and socketUnambiguous (by decide +kernel) fun s hs _ =>
    (tmux_calls_address_own_pane .enabled).2 s hs

end Addressing

end AgentTower.Routing
