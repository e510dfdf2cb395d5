import AgentTower.Routing.RouteAgreement
import AgentTower.Routing.RouteProgress

/-!
# Adding a route while events come in

`add_route` reads the greatest event id and then inserts the route with that id as its cursor, in a
transaction that is repeated after a lock conflict.  A route never passes over an event that was
committed after it; of those before it, it takes the ones that came between the read and the commit.
-/

namespace AgentTower.Routing.RouteWorker

open Transition Sql List
open EventLog (ofType)

variable {maxPending : Nat} {env : RouteEnv} {agents : List AgentRecord}

/-! ## The calls -/

/-- An `add_route` that has read the cursor; `attempts` are those of `with_lock_retry`. -/
structure AddCall where
  row : RouteRow
  attempts : Nat
  deriving DecidableEq, Repr

/-- `heads` is history: the routes as they were inserted, each with the greatest event id at its
commit. -/
structure AddState (maxPending : Nat) where
  core : State maxPending
  calls : List AddCall
  heads : List (RouteRow × Nat)

def AddState.init (maxPending : Nat) (agents : List AgentRecord) : AddState maxPending :=
  ⟨State.init maxPending agents, [], []⟩

inductive AddLabel where
  | other (l : Label)
  | readCursor (row : RouteRow)
  | commitRoute (i : Nat)
  | failRoute (i : Nat) (message : String)
  deriving DecidableEq, Repr

def newRoute (s : State maxPending) (row : RouteRow) : RouteRow :=
  { row with enabled := true, lastConsumedEventId := s.events.maxId }

/-- The transaction of the insert.  An `IntegrityError` becomes `RouteCreationFailed`; `uuid4` gives an
id that no route ever had. -/
def commitRoute (s : AddState maxPending) (i : Nat) (call : AddCall) : Option (AddState maxPending) :=
  if call.row.routeId ∈ s.core.created.map RouteRow.routeId then none
  else
    match s.core.routes.insert call.row with
    | none => some { s with calls := s.calls.eraseIdx i }
    | some routes =>
      some {
        core := { s.core with routes, created := s.core.created ++ [call.row] }
        calls := s.calls.eraseIdx i
        heads := s.heads ++ [(call.row, s.core.events.maxId)] }

/-- A statement of the transaction raises `OperationalError(message)`, and the transaction is rolled
back. -/
def failRoute (s : AddState maxPending) (i : Nat) (call : AddCall) (message : String) :
    AddState maxPending :=
  if isLockConflict (operationalError message) ∧ call.attempts < lockRetries then
    { s with calls := s.calls.set i { call with attempts := call.attempts + 1 } }
  else { s with calls := s.calls.eraseIdx i }

def addStep (env : RouteEnv) (s : AddState maxPending) : AddLabel → Option (AddState maxPending)
  | .other (.addRoute _) => none
  | .other .crash | .other .stop => some { s with core := s.core.crashed, calls := [] }
  | .other (.queue op) =>
    if insertsRouted op then none
    else (step env s.core (.queue op)).map fun core => { s with core }
  | .other l => (step env s.core l).map fun core => { s with core }
  | .readCursor row => some { s with calls := s.calls ++ [⟨newRoute s.core row, 0⟩] }
  | .commitRoute i => (s.calls[i]?).bind (commitRoute s i)
  | .failRoute i message => (s.calls[i]?).map fun call => failRoute s i call message

def commitsAtHead (s : AddState maxPending) : AddLabel → Bool
  | .commitRoute i =>
    (s.calls[i]?).all fun call => decide (call.row.lastConsumedEventId = s.core.events.maxId)
  | _ => true

/-! ## What a route does is behind the cursor it was created with -/

/-- What the worker holds of the route is behind `cursor`. -/
structure Worker.Above (routeId : String) (cursor : Nat) (w : Worker) : Prop where
  rest : ∀ r ∈ w.rest, r.routeId = routeId → cursor ≤ r.lastConsumedEventId
  unread : ∀ route batch, w.unread = some (route, batch) → route.routeId = routeId →
    ∀ e ∈ batch, cursor < e.eventId

/-- Everything that there is about the route is about events behind `cursor`. -/
structure Above (routeId : String) (cursor : Nat) (s : State maxPending) : Prop where
  routes : ∀ r, s.routes.get routeId = some r → cursor ≤ r.lastConsumedEventId
  worker : s.worker.Above routeId cursor
  decided : ∀ d ∈ s.decisions, d.route.routeId = routeId → cursor < d.ev.eventId
  queue : ∀ eventId, Routed s.messageQueue routeId eventId → cursor < eventId

section Above

variable {s s' : State maxPending} {routeId : String} {cursor : Nat} {w w' : Worker}

theorem Worker.Above.of_rest
    (hrest : ∀ r ∈ w.rest, r.routeId = routeId → cursor ≤ r.lastConsumedEventId)
    (hunread : w.unread = none) : w.Above routeId cursor :=
  ⟨hrest, fun route batch h => by cases hunread.symm.trans h⟩

theorem Worker.Above.of_between (h : w.between = true) : w.Above routeId cursor := by
  refine .of_rest (fun r hr => ?_) (rest_of_between h).2
  rw [(rest_of_between h).1] at hr
  cases hr

theorem Worker.Above.of_eq (h : w.Above routeId cursor) (hrest : w'.rest = w.rest)
    (hunread : w'.unread = w.unread) : w'.Above routeId cursor :=
  ⟨fun r hr => h.rest r (hrest ▸ hr), fun route batch hb => h.unread route batch (hunread ▸ hb)⟩

theorem Move.above {l : WorkerLabel} (hmove : Move env s l s.worker w)
    (h : Above routeId cursor s) : w.Above routeId cursor := by
  have hworker := h.worker
  generalize s.worker = w₀ at hmove hworker
  cases hmove with
  | listed =>
    refine .of_rest (fun r hr hid => h.routes r ?_) rfl
    rw [← hid]
    exact Table.get_of_mem (mem_of_mem_filter ((listRoutes_perm s.routes).mem_iff.mp hr))
  | unlisted | cycleEnd => exact .of_between rfl
  | nextRoute => exact .of_rest (fun r hr => hworker.rest r (mem_cons_of_mem _ hr)) rfl
  | batchEnd | abandoned => exact .of_rest hworker.rest rfl
  | nextEvent => exact hworker.of_eq rfl rfl
  | stage hstage =>
    refine hworker.of_eq rfl ?_
    simp only [Worker.unread, hstage.isEmitting.1, hstage.isEmitting.2]
  | @selected route rest scope _ =>
    refine ⟨fun r hr => hworker.rest r (mem_cons_of_mem _ hr), fun route' batch hb hid e he => ?_⟩
    cases hb
    have hle := hworker.rest route mem_cons_self hid
    have hlt := ((Log.ahead_after s.events route.lastConsumedEventId (ofType route.eventType)
      env.batchSize).unread e he).2.2
    omega

theorem AuditMove.above (hmove : AuditMove w w') (h : w.Above routeId cursor) :
    w'.Above routeId cursor := by
  cases hmove with
  | same => exact h
  | emitted => exact h.of_eq rfl rfl
  | idle | draining | listing => exact .of_between rfl
  | raised => exact .of_rest h.rest rfl

theorem Above.advance {j : Job} {outcome : Outcome} (hworker : s.worker = .job j (.advancing outcome))
    (h : Above routeId cursor s) : Above routeId cursor (commitAdvance s j outcome) := by
  have hjob := h.worker
  rw [hworker] at hjob
  have hunread : j.route.routeId = routeId → ∀ e ∈ j.ev :: j.later, cursor < e.eventId :=
    hjob.unread j.route (j.ev :: j.later) rfl
  refine ⟨fun r' hr' => ?_, ?_, fun d hd hid => ?_, h.queue⟩
  · by_cases heq : routeId = j.route.routeId
    · subst heq
      obtain ⟨r, hr, -, hmax⟩ := get_advanceCursor_self hr'
      have hle := h.routes r hr
      omega
    · obtain ⟨r, hr, -, hcursor⟩ := keptOn_advanceCursor _ _ _ routeId heq r' hr'
      rw [hcursor]
      exact h.routes r hr
  · have hafter : (Worker.batch j.route j.later j.rest).Above routeId cursor := by
      refine ⟨hjob.rest, fun route batch hb hid e he => ?_⟩
      cases hb
      exact hunread hid e (mem_cons_of_mem _ he)
    cases outcome with
    | noMatch => exact hafter
    | matched | skipped => exact hafter.of_eq rfl rfl
  · rcases mem_append.mp hd with hd | hd
    · exact h.decided d hd hid
    · cases mem_singleton.mp hd
      exact hunread hid j.ev mem_cons_self

section

variable (hreach : Reachable env maxPending agents s)
include hreach

theorem Change.routed {l : Label}
    (hchange : Change env s l s') (hop : ∀ op, l = .queue op → insertsRouted op = false)
    {eventId : Nat} (h : Routed s'.messageQueue routeId eventId) :
    Routed s.messageQueue routeId eventId ∨ ∃ (j : Job) (batch : List Event),
      s.worker.unread = some (j.route, j.ev :: batch) ∧ j.route.routeId = routeId ∧
        j.ev.eventId = eventId := by
  cases hchange with
  | @inserted j winner target m decision attempts q hworker happly =>
    have hstage := hreach.decisionInv.stage
    rw [hworker] at hstage
    obtain ⟨senderId, targetId, hrow⟩ := routed_iff.mp h
    rcases (Job.Carries.routedTo_insert hstage happly).mp hrow with hold | ⟨hpair, -⟩
    · exact .inl (routed_iff.mpr ⟨_, _, hold⟩)
    · cases hpair
      exact .inr ⟨j, j.later, by rw [hworker]; rfl, rfl, rfl⟩
  | queued op => exact .inl ((sameRoutes_perform (hop op rfl) s.messageQueue).routed.mp h)
  | audited haudited =>
    obtain ⟨_, _, _, _, _, rfl⟩ := haudited.frame
    exact .inl h
  | moved | advanced | observed | routeAdded | enabledSet | routeRemoved | registered => exact .inl h

theorem Above.change {l : Label}
    (hchange : Change env s l s') (hcreated : routeId ∈ s.created.map RouteRow.routeId)
    (hop : ∀ op, l = .queue op → insertsRouted op = false) (h : Above routeId cursor s) :
    Above routeId cursor s' := by
  have hkept : ∀ {P : String → Prop} {routes : Routes}, KeptOn P s.routes routes → P routeId →
      ∀ r, routes.get routeId = some r → cursor ≤ r.lastConsumedEventId := by
    intro P routes hkept hP r hr
    obtain ⟨r₁, hr₁, -, hcursor⟩ := hkept routeId hP r hr
    rw [hcursor]
    exact h.routes r₁ hr₁
  have hqueue : ∀ eventId, Routed s'.messageQueue routeId eventId → cursor < eventId := by
    intro eventId hrouted
    rcases hchange.routed hreach hop hrouted with hold | ⟨j, batch, hunread, hid, rfl⟩
    · exact h.queue eventId hold
    · exact h.worker.unread j.route (j.ev :: batch) hunread hid j.ev mem_cons_self
  cases hchange with
  | moved hmove => exact ⟨h.routes, hmove.above h, h.decided, hqueue⟩
  | advanced hworker => exact h.advance hworker
  | audited haudited =>
    have hworker := haudited.worker.above h.worker
    obtain ⟨_, _, _, _, _, rfl⟩ := haudited.frame
    exact ⟨h.routes, hworker, h.decided, hqueue⟩
  | inserted hinserting =>
    have hworker := h.worker
    rw [hinserting] at hworker
    exact ⟨h.routes, hworker.of_eq rfl rfl, h.decided, hqueue⟩
  | @routeAdded route routes _ hfresh hinsert =>
    refine ⟨hkept (keptOn_insert hinsert) fun heq => hfresh ?_, h.worker, h.decided, hqueue⟩
    rw [← heq]
    exact hcreated
  | enabledSet => exact ⟨hkept (keptOn_updateEnabled _ _ _) trivial, h.worker, h.decided, hqueue⟩
  | routeRemoved => exact ⟨hkept (keptOn_delete _ _) trivial, h.worker, h.decided, hqueue⟩
  | observed | registered | queued => exact ⟨h.routes, h.worker, h.decided, hqueue⟩

theorem Above.of_fresh (hqueue : ∀ routeId eventId, Routed s.messageQueue routeId eventId →
      routeId ∈ s.created.map RouteRow.routeId) {route : RouteRow} {routes : Routes}
    (hfresh : route.routeId ∉ s.created.map RouteRow.routeId)
    (hinsert : s.routes.insert route = some routes) :
    Above route.routeId route.lastConsumedEventId
      { s with routes, created := s.created ++ [route] } := by
  have hworker := hreach.cursorInv.worker
  refine ⟨fun r hr => ?_, ⟨fun r hr hid => ?_, fun route' batch hb hid => ?_⟩, fun d hd hid => ?_,
    fun eventId hrouted => absurd (hqueue _ _ hrouted) hfresh⟩
  · rw [Table.get_insert hinsert, if_pos rfl] at hr
    cases hr
    exact Nat.le_refl _
  · exact absurd (hid ▸ hworker.rest.created r hr) hfresh
  · exact absurd (hid ▸ (hworker.unread route' batch hb).1.created) hfresh
  · exact absurd (hid ▸ hreach.passedInv.created d hd) hfresh

end

end Above

/-! ## Steps -/

variable {s s' : AddState maxPending}

inductive AddChange (env : RouteEnv) (s : AddState maxPending) :
    AddLabel → AddState maxPending → Prop where
  | core {l : Label} {core : State maxPending} {calls : List AddCall} :
      step env s.core l = some core → (∀ op, l = .queue op → insertsRouted op = false) →
      (∀ route, l ≠ .addRoute route) → (∀ c ∈ calls, c ∈ s.calls) →
      AddChange env s (.other l) ⟨core, calls, s.heads⟩
  | read (row : RouteRow) :
      AddChange env s (.readCursor row)
        { s with calls := s.calls ++ [⟨newRoute s.core row, 0⟩] }
  | committed {i : Nat} {call : AddCall} {routes : Routes} : s.calls[i]? = some call →
      call.row.routeId ∉ s.core.created.map RouteRow.routeId →
      s.core.routes.insert call.row = some routes →
      AddChange env s (.commitRoute i) {
        core := { s.core with routes, created := s.core.created ++ [call.row] }
        calls := s.calls.eraseIdx i
        heads := s.heads ++ [(call.row, s.core.events.maxId)] }
  | calls {l : AddLabel} {calls : List AddCall} : (∀ c ∈ calls, ∃ c' ∈ s.calls, c'.row = c.row) →
      AddChange env s l { s with calls }

theorem addStep_other {l : Label} (h : addStep env s (.other l) = some s') :
    AddChange env s (.other l) s' := by
  have hmap : ∀ {l : Label}, (step env s.core l).map (fun core => { s with core }) = some s' →
      ∃ core, step env s.core l = some core ∧ s' = ⟨core, s.calls, s.heads⟩ := by
    intro l h
    obtain ⟨core, hcore, rfl⟩ := Option.map_eq_some_iff.mp h
    exact ⟨core, hcore, rfl⟩
  cases l with
  | addRoute => cases h
  | crash | stop =>
    cases h
    refine .core rfl (fun _ h => by cases h) (fun _ h => by cases h)
      fun c hc => absurd hc not_mem_nil
  | queue op =>
    simp only [addStep] at h
    split_ifs at h with hroutes
    obtain ⟨core, hcore, rfl⟩ := hmap h
    refine .core hcore ?_ (fun _ h => by cases h) fun c hc => hc
    rintro _ ⟨⟩
    exact Bool.eq_false_iff.mpr hroutes
  | worker | observe | setEnabled | removeRoute | register | emitOther | otherAppend =>
    simp only [addStep] at h
    obtain ⟨core, hcore, rfl⟩ := hmap h
    exact .core hcore (fun _ h => by cases h) (fun _ h => by cases h) fun c hc => hc

theorem addStep_change {l : AddLabel} (h : addStep env s l = some s') : AddChange env s l s' := by
  cases l with
  | other l => exact addStep_other h
  | readCursor row =>
    cases h
    exact .read row
  | commitRoute i =>
    obtain ⟨call, hcall, h⟩ := Option.bind_eq_some_iff.mp h
    unfold commitRoute at h
    split_ifs at h with hfresh
    cases hinsert : s.core.routes.insert call.row with
    | none =>
      rw [hinsert] at h
      cases h
      exact .calls fun c hc => ⟨c, mem_of_mem_eraseIdx hc, rfl⟩
    | some routes =>
      rw [hinsert] at h
      cases h
      exact .committed hcall hfresh hinsert
  | failRoute i message =>
    obtain ⟨call, hcall, rfl⟩ := Option.map_eq_some_iff.mp h
    unfold failRoute
    split_ifs with hretry
    · refine .calls fun c hc => ?_
      rcases mem_or_eq_of_mem_set hc with hc | rfl
      · exact ⟨c, hc, rfl⟩
      · exact ⟨call, mem_of_getElem? hcall, rfl⟩
    · exact .calls fun c hc => ⟨c, mem_of_mem_eraseIdx hc, rfl⟩

theorem Change.created_eq {s s' : State maxPending} {l : Label} (hchange : Change env s l s')
    (hl : ∀ route, l ≠ .addRoute route) : s'.created = s.created := by
  cases hchange with
  | routeAdded => exact absurd rfl (hl _)
  | audited haudited =>
    obtain ⟨_, _, _, _, _, rfl⟩ := haudited.frame
    rfl
  | moved | inserted | advanced | observed | enabledSet | routeRemoved | registered | queued => rfl

/-! ## The invariant -/

structure AddInv (env : RouteEnv) (agents : List AgentRecord) (s : AddState maxPending) : Prop where
  reachable : Reachable env maxPending agents s.core
  calls : ∀ c ∈ s.calls, c.row.lastConsumedEventId ≤ s.core.events.maxId
  heads : s.heads.map Prod.fst = s.core.created
  le : ∀ p ∈ s.heads, p.1.lastConsumedEventId ≤ p.2
  above : ∀ p ∈ s.heads, Above p.1.routeId p.1.lastConsumedEventId s.core
  queue : ∀ routeId eventId, Routed s.core.messageQueue routeId eventId →
    routeId ∈ s.core.created.map RouteRow.routeId

theorem AddInv.mem_created (h : AddInv env agents s) {p : RouteRow × Nat} (hp : p ∈ s.heads) :
    p.1 ∈ s.core.created := by
  rw [← h.heads]
  exact mem_map_of_mem hp

theorem AddInv.core {l : Label} {core : State maxPending} (h : AddInv env agents s)
    (hstep : step env s.core l = some core) (hop : ∀ op, l = .queue op → insertsRouted op = false)
    (hl : ∀ route, l ≠ .addRoute route) {calls : List AddCall} (hcalls : ∀ c ∈ calls, c ∈ s.calls) :
    AddInv env agents ⟨core, calls, s.heads⟩ := by
  have hchange := step_change hstep
  have hcreated := hchange.created_eq hl
  have hrun : Reach (step env) anyStep s.core core := .next .start trivial hstep
  refine ⟨h.reachable.next trivial hstep, fun c hc => ?_, h.heads.trans hcreated.symm, h.le,
    fun p hp => ?_, fun routeId eventId hrouted => ?_⟩
  · exact Nat.le_trans (h.calls c (hcalls c hc)) (grown_of_reach hrun).le
  · exact (h.above p hp).change h.reachable hchange (mem_map_of_mem (h.mem_created hp)) hop
  · rw [show (AddState.core ⟨core, calls, s.heads⟩).created = s.core.created from hcreated]
    rcases hchange.routed h.reachable hop hrouted with hold | ⟨j, batch, hunread, rfl, -⟩
    · exact h.queue _ _ hold
    · exact (h.reachable.cursorInv.worker.unread _ _ hunread).1.created

theorem AddInv.committed {i : Nat} {call : AddCall} {routes : Routes} (h : AddInv env agents s)
    (hcall : s.calls[i]? = some call)
    (hfresh : call.row.routeId ∉ s.core.created.map RouteRow.routeId)
    (hinsert : s.core.routes.insert call.row = some routes) :
    AddInv env agents {
      core := { s.core with routes, created := s.core.created ++ [call.row] }
      calls := s.calls.eraseIdx i
      heads := s.heads ++ [(call.row, s.core.events.maxId)] } := by
  have hle := h.calls call (mem_of_getElem? hcall)
  -- the step of the worker's model that adds the route
  have hstep : step env s.core (.addRoute call.row) =
      some { s.core with routes, created := s.core.created ++ [call.row] } := by
    show addRoute s.core call.row = _
    simp only [addRoute, if_pos (And.intro hle hfresh), hinsert]
  refine ⟨h.reachable.next trivial hstep, fun c hc => h.calls c (mem_of_mem_eraseIdx hc), ?_,
    fun p hp => ?_, fun p hp => ?_, fun routeId eventId hrouted => ?_⟩
  · rw [map_append, h.heads]
    rfl
  · rcases mem_append.mp hp with hp | hp
    · exact h.le p hp
    · cases mem_singleton.mp hp
      exact hle
  · rcases mem_append.mp hp with hp | hp
    · exact (h.above p hp).change h.reachable (step_change hstep)
        (mem_map_of_mem (h.mem_created hp)) fun _ heq => by cases heq
    · cases mem_singleton.mp hp
      exact .of_fresh h.reachable h.queue hfresh hinsert
  · rw [map_append]
    exact mem_append_left _ (h.queue _ _ hrouted)

theorem AddInv.change {l : AddLabel} (hchange : AddChange env s l s') (h : AddInv env agents s) :
    AddInv env agents s' := by
  cases hchange with
  | core hstep hop hl hcalls => exact h.core hstep hop hl hcalls
  | committed hcall hfresh hinsert => exact h.committed hcall hfresh hinsert
  | read row =>
    refine ⟨h.reachable, fun c hc => ?_, h.heads, h.le, h.above, h.queue⟩
    rcases mem_append.mp hc with hc | hc
    · exact h.calls c hc
    · cases mem_singleton.mp hc
      exact Nat.le_refl _
  | calls hcalls =>
    refine ⟨h.reachable, fun c hc => ?_, h.heads, h.le, h.above, h.queue⟩
    obtain ⟨c', hc', hrow⟩ := hcalls c hc
    exact hrow ▸ h.calls c' hc'

/-! ## Runs -/

abbrev AddReachable (env : RouteEnv) (maxPending : Nat) (agents : List AgentRecord) :
    AddState maxPending → Prop :=
  Reach (addStep env) anyStep (AddState.init maxPending agents)

theorem AddReachable.addInv (h : AddReachable env maxPending agents s) : AddInv env agents s := by
  refine Reach.invariant (AddInv env agents) ?_
    (fun _ _ _ ht _ hstep => ht.change (addStep_change hstep)) h
  refine ⟨.start, fun _ hc => absurd hc not_mem_nil, rfl, fun _ hp => absurd hp not_mem_nil,
    fun _ hp => absurd hp not_mem_nil, ?_⟩
  rintro routeId eventId ⟨r, hr, -⟩
  cases hr

theorem heads_of_commitsAtHead (h : Reach (addStep env) (fun s l => commitsAtHead s l = true)
      (AddState.init maxPending agents) s) : ∀ p ∈ s.heads, p.1.lastConsumedEventId = p.2 := by
  refine Reach.invariant
    (fun s : AddState maxPending => ∀ p ∈ s.heads, p.1.lastConsumedEventId = p.2)
    (fun _ hp => absurd hp not_mem_nil) (fun t l t' ht hok hstep => ?_) h
  cases addStep_change hstep with
  | core | read | calls => exact ht
  | committed hcall =>
    intro p hp
    rcases mem_append.mp hp with hp | hp
    · exact ht p hp
    · cases mem_singleton.mp hp
      simpa [commitsAtHead, hcall] using hok

/-- In every interleaving of `add_route` calls, lock conflicts, event inserts and routing cycles, a
route considers every event of its type that was committed after it: an event that its cursor has
passed has a decision, and one that it has not passed has a decision after as many full cycles as there
are undecided ones up to it.  In a run in which each call commits its route with no event since it has
read the cursor, all that a route decides and enqueues is about events that were committed after it. -/
theorem new_route_considers (h : AddReachable env maxPending agents s) :
    (∀ p ∈ s.heads, ∀ e ∈ s.core.events.rows, e.eventType = p.1.eventType → p.2 < e.eventId →
      (∀ r, s.core.routes.get p.1.routeId = some r → e.eventId ≤ r.lastConsumedEventId →
        DecidedOn s.core.decisions p.1 e) ∧
      ∀ n s', Rounds (Reach (step env) anyStep)
          (FullCycle env p.1.routeId) n s.core s' → s.core.undecided p.1 e ≤ n →
        DecidedOn s'.decisions p.1 e) ∧
    (Reach (addStep env) (fun s l => commitsAtHead s l = true)
        (AddState.init maxPending agents) s → ∀ p ∈ s.heads,
      (∀ d ∈ s.core.decisions, d.route.routeId = p.1.routeId → p.2 < d.ev.eventId) ∧
      ∀ eventId, Routed s.core.messageQueue p.1.routeId eventId → p.2 < eventId) := by
  have hinv := h.addInv
  refine ⟨fun p hp e he htype hlt => ?_, fun hhead p hp => ?_⟩
  · have hcursor := Nat.lt_of_le_of_lt (hinv.le p hp) hlt
    refine ⟨fun r hget hpassed => ?_, fun n s' hcycles hn => ?_⟩
    · obtain ⟨hrule, -, hcovered⟩ :=
        hinv.reachable.cursorInv.routeOk_created (hinv.mem_created hp) hget
      rw [RouteRow.eventType_of_rule hrule] at htype
      exact (hcovered e he (decide_eq_true htype) hcursor hpassed).mono (fun _ hd => hd) hrule
    · exact decided_after_cycles hinv.reachable (hinv.mem_created hp) he htype hcursor hcycles hn
  · rw [← heads_of_commitsAtHead hhead p hp]
    exact ⟨(hinv.above p hp).decided, (hinv.above p hp).queue⟩

def observeLabel : AddLabel :=
  .other (.observe .completed "agt_00000000000b" "done" "2026-01-01T00:00:01.000Z")

def addThenObserve : List AddLabel := [.readCursor (sampleRoute 0), .commitRoute 0, observeLabel]

def listLabels : List Label := [.startCycle, .rebuffer, .listRoutes].map .worker

def cycleLabels : List Label :=
  ([.next, .refetch, .lookupSource, .arbitrate].map .worker) ++ gateLabels "m1" ++
    [.commit, .readBack, .commit, .append (.returned true), .next, .next].map .worker

theorem new_route_considers_addThenObserve :
    ∃ s s', run (addStep sampleRouteEnv)
        (AddState.init 10000 [sampleMaster, sampleSlave]) addThenObserve = some s ∧
      s.heads = [(sampleRoute 0, 0)] ∧ s.core.events.rows = [sampleEvent] ∧
      run (step sampleRouteEnv) s.core (listLabels ++ cycleLabels) = some s' ∧
      DecidedOn s'.decisions (sampleRoute 0) sampleEvent := by
  obtain ⟨s, hs, hheads, hevents, hundecided, s₁, hs₁, hlisted, hget, s₂, hs₂, hidle⟩ :
      ∃ s, run (addStep sampleRouteEnv)
        (AddState.init 10000 [sampleMaster, sampleSlave]) addThenObserve = some s ∧
      s.heads = [(sampleRoute 0, 0)] ∧ s.core.events.rows = [sampleEvent] ∧
      s.core.undecided (sampleRoute 0) sampleEvent ≤ 1 ∧
      ∃ s₁, run (step sampleRouteEnv) s.core listLabels = some s₁ ∧
        s₁.worker = .cycle (listRoutes s₁.routes) ∧
        s₁.routes.get "r1" = some (sampleRoute 0) ∧
        ∃ s₂, runWhile (step sampleRouteEnv) (uninterrupted sampleRouteEnv) s₁ cycleLabels = some s₂ ∧
          s₂.worker = .idle := by decide +kernel
  have hfull : FullCycle sampleRouteEnv "r1" s₁ s₂ :=
    ⟨hlisted, ⟨_, hget, rfl⟩, reach_of_runWhile .start hs₂, hidle⟩
  refine ⟨s, s₂, hs, hheads, hevents, ?_, ?_⟩
  · rw [run_append, hs₁]
    exact run_of_runWhile hs₂
  · refine ((new_route_considers (reach_of_run hs)).1 (sampleRoute 0, 0) ?_ sampleEvent ?_ rfl
      (by decide)).2 1 s₂ (.more (reach_of_run hs₁) hfull (.none .start)) hundecided
    · rw [hheads]
      exact mem_singleton_self _
    · rw [hevents]
      exact mem_singleton_self _

/-- The event is committed between the read of the cursor and the commit of the route. -/
def observeThenCommit : List AddLabel :=
  [.readCursor (sampleRoute 0), observeLabel, .commitRoute 0] ++
    (listLabels ++ cycleLabels).map .other

/-- The new route has enqueued an event that was committed before it. -/
theorem new_route_takes_earlier_event :
    ∃ s, run (addStep sampleRouteEnv)
        (AddState.init 10000 [sampleMaster, sampleSlave]) observeThenCommit = some s ∧
      s.heads = [(sampleRoute 0, 1)] ∧ sampleEvent ∈ s.core.events.rows ∧
      sampleEvent.eventId ≤ 1 ∧ Routed s.core.messageQueue "r1" sampleEvent.eventId := by
  unfold Routed
  decide +kernel

end AgentTower.Routing.RouteWorker
