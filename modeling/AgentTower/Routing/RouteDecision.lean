import AgentTower.Routing.RouteCursor

/-!
# What stands behind a decision

A cursor passes an event because its source was not in scope, because the queue has a row for it, or
because it was skipped.  The unique index turns a second attempt after a crash into a match.  The line
about a skip is written after the cursor has moved: a crash, a full buffer or an unexpected exception
can lose it.
-/

namespace AgentTower.Routing.RouteWorker

open Transition Sql List
open State (init)

variable {maxPending : Nat} {env : RouteEnv} {s s' : State maxPending}

def Routed (q : MessageQueue) (routeId : String) (eventId : Nat) : Prop :=
  ∃ r ∈ q.rows, r.routeEvent = some (routeId, eventId)

/-- The route and the event that a `route_skipped` line is about. -/
def AuditEntry.skips : AuditEntry → Option (String × Nat)
  | .routeSkipped eventId routeId .. => some (routeId, eventId)
  | _ => none

/-- The row that the message would become carries the route and the event of the job. -/
structure Job.Carries (j : Job) (m : NewMessage) : Prop where
  origin : m.origin = .route
  routeId : m.routeId = some j.route.routeId
  eventId : m.eventId = some j.ev.eventId
  size : 0 < m.envelopeSizeBytes

section Facts

variable {q q' : MessageQueue} {j : Job}

variable {routeId : String} {eventId : Nat} {m : NewMessage} {decision : Decision}

theorem Routed.apply {op : DaoOp}
    (h : Routed q routeId eventId) (happly : op.apply q = .ok q') : Routed q' routeId eventId := by
  obtain ⟨r, hr, hindex⟩ := h
  obtain ⟨r', hr', hsame⟩ := DaoOp.apply_routeEvent happly hr
  exact ⟨r', hr', hsame.trans hindex⟩

theorem Routed.perform (h : Routed q routeId eventId)
    (op : DaoOp) : Routed (op.perform q) routeId eventId := by
  unfold DaoOp.perform
  split
  · rename_i happly
    exact h.apply happly
  · exact h

theorem Job.Carries.routeEvent (h : j.Carries m) (decision : Decision) :
    (m.row decision.toState decision.reason).routeEvent
      = some (j.route.routeId, j.ev.eventId) := by
  simp [QueueRow.routeEvent, NewMessage.row, h.origin, h.routeId, h.eventId]

theorem carries_of_prepareSend {target resolved winner : AgentRecord} {body : List UInt8}
    {agents : List AgentRecord} {messageId ts : String}
    {routingEnabled containerActive paneResolvable : Bool}
    (h : prepareSend env.toEnv agents routingEnabled winner (routeRequest j target body) messageId
      ts containerActive paneResolvable = .ok (m, decision, resolved)) : j.Carries m := by
  obtain ⟨-, hm, -⟩ := prepareSend_ok h
  refine ⟨by rw [hm]; rfl, by rw [hm]; rfl, by rw [hm]; rfl, ?_⟩
  rw [hm, newMessage_envelopeSizeBytes]
  exact Nat.zero_lt_of_lt (length_lt_renderEnvelope _ _ _ _)

theorem Job.Carries.inserted (h : j.Carries m) (happly : (decision.insert m).apply q = .ok q') :
    Routed q' j.route.routeId j.ev.eventId := by
  refine ⟨m.row decision.toState decision.reason, ?_, h.routeEvent decision⟩
  apply Table.mem_of_get (k := m.messageId)
  rw [(Decision.insert_ok happly).2, if_pos rfl]

theorem Job.Carries.rejected {e : PyExc} (h : j.Carries m)
    (hfresh : q.get m.messageId = none) (happly : (decision.insert m).apply q = .error e) :
    Routed q j.route.routeId j.ev.eventId := by
  obtain ⟨u, hu, hrow⟩ := Decision.insert_error happly hfresh h.size
  rw [h.routeEvent decision] at hu
  cases hu
  exact hrow

end Facts

/-! ## The invariant -/

section Invariant

-- `looked route ev source`: the worker has looked the event's source up for the route and has got
-- `source`
variable {looked looked' : RouteRow → Event → Option AgentRecord → Prop}

def OutcomeOk (looked : RouteRow → Event → Option AgentRecord → Prop) (q : MessageQueue)
    (route : RouteRow) (ev : Event) : Outcome → Prop
  | .noMatch source => looked route ev source ∧ ∀ a, source = some a → inScope route ev a = false
  | .matched _ => Routed q route.routeId ev.eventId
  | .skipped _ entry => entry.skips = some (route.routeId, ev.eventId)

def StageOk (looked : RouteRow → Event → Option AgentRecord → Prop) (q : MessageQueue) (j : Job) :
    Stage → Prop
  | .inserting _ _ m _ _ => j.Carries m
  | .inserted _ _ => Routed q j.route.routeId j.ev.eventId
  | .advancing outcome => OutcomeOk looked q j.route j.ev outcome
  | _ => True

def Worker.StageOk (looked : RouteRow → Event → Option AgentRecord → Prop) (q : MessageQueue) :
    Worker → Prop
  | .job j stage => RouteWorker.StageOk looked q j stage
  | _ => True

structure DecisionInv (looked : RouteRow → Event → Option AgentRecord → Prop)
    (s : State maxPending) : Prop where
  stage : s.worker.StageOk looked s.messageQueue
  decided : ∀ d ∈ s.decisions, OutcomeOk looked s.messageQueue d.route d.ev d.outcome

variable {q q' : MessageQueue} {w : Worker} {j : Job} {stage : Stage} {l : WorkerLabel}

theorem OutcomeOk.mono {route : RouteRow} {ev : Event} {outcome : Outcome}
    (h : OutcomeOk looked q route ev outcome)
    (hlooked : ∀ source, looked route ev source → looked' route ev source)
    (hrouted : Routed q route.routeId ev.eventId → Routed q' route.routeId ev.eventId) :
    OutcomeOk looked' q' route ev outcome := by
  cases outcome with
  | noMatch source => exact ⟨hlooked source h.1, h.2⟩
  | matched => exact hrouted h
  | skipped => exact h

theorem Worker.StageOk.mono (h : w.StageOk looked q)
    (hlooked : ∀ route ev source, looked route ev source → looked' route ev source)
    (hrouted : ∀ routeId eventId, Routed q routeId eventId → Routed q' routeId eventId) :
    w.StageOk looked' q' := by
  cases w with
  | idle | draining | listing | cycle | batch => trivial
  | job j stage =>
    cases stage with
    | matching | arbitrating | resolving | enqueuing | emitting => trivial
    | inserting => exact h
    | inserted => exact hrouted _ _ h
    | advancing => exact OutcomeOk.mono h (hlooked _ _) (hrouted _ _)

theorem DecisionInv.mono (h : DecisionInv looked s)
    (hlooked : ∀ route ev source, looked route ev source → looked' route ev source) :
    DecisionInv looked' s :=
  ⟨h.stage.mono hlooked fun _ _ hr => hr,
    fun d hd => (h.decided d hd).mono (hlooked _ _) fun hr => hr⟩

/-! ### Steps -/

/-- The `except` clauses, for an exception that is an `IntegrityError` only where the row exists. -/
theorem Handled.stageOk {winner target : AgentRecord} {e : PyExc}
    (h : Handled j winner target e stage)
    (hduplicate : e.isinstance .integrityError = true → Routed q j.route.routeId j.ev.eventId) :
    StageOk looked q j stage := by
  cases h with
  | skip => exact rfl
  | duplicate hintegrity => exact hduplicate hintegrity

theorem StageMove.stageOk {stage' : Stage} (hmove : StageMove env s j l stage stage')
    (hlooked : stage = .matching →
      looked j.route j.ev (getAgentById s.agents j.ev.sourceAgentId))
    (h : StageOk looked s.messageQueue j stage) : StageOk looked s.messageQueue j stage' := by
  cases hmove with
  | unmatched hsource hscope => exact ⟨hsource ▸ hlooked rfl, hscope⟩
  | matched | won | rendered => trivial
  | noMaster | unresolved => exact rfl
  | prepared hprepare => exact carries_of_prepareSend hprepare
  | refused hprepare hhandled =>
    -- the gate raises no `IntegrityError`, so its errors are skips
    refine hhandled.stageOk fun hintegrity => ?_
    rw [(prepareSend_error hprepare).1] at hintegrity
    cases hintegrity
  | rejected hfresh happly hhandled =>
    exact hhandled.stageOk fun _ => Job.Carries.rejected h hfresh happly
  | retried => exact h
  | exhausted _ _ hhandled => exact hhandled.stageOk fun hintegrity => by cases hintegrity
  | readBack => exact h

theorem Move.stageOk (hmove : Move env s l s.worker w) (hlooked : ∀ j, s.worker = .job j .matching →
      looked j.route j.ev (getAgentById s.agents j.ev.sourceAgentId))
    (h : s.worker.StageOk looked s.messageQueue) : w.StageOk looked s.messageQueue := by
  generalize s.worker = w₀ at hmove hlooked h
  cases hmove with
  | listed | unlisted | cycleEnd | nextRoute | selected | batchEnd | nextEvent | abandoned =>
    trivial
  | stage hstage => exact hstage.stageOk (fun heq => hlooked _ (by rw [heq])) h

theorem AuditMove.stageOk {w' : Worker} (hmove : AuditMove w w')
    (h : w.StageOk looked q) : w'.StageOk looked q := by
  cases hmove with
  | same => exact h
  | idle | draining | listing | emitted | raised => trivial

theorem DecisionInv.change {l : Label} (hchange : Change env s l s') (h : DecisionInv looked s)
    (hlooked : ∀ j, s.worker = .job j .matching →
      looked j.route j.ev (getAgentById s.agents j.ev.sourceAgentId)) :
    DecisionInv looked s' := by
  cases hchange with
  | moved hmove => exact ⟨hmove.stageOk hlooked h.stage, h.decided⟩
  | @inserted j winner target m decision attempts q hworker happly =>
    have hstage := h.stage
    rw [hworker] at hstage
    refine ⟨Job.Carries.inserted hstage happly, fun d hd => ?_⟩
    exact (h.decided d hd).mono (fun _ hl => hl) fun hr => hr.apply happly
  | @advanced j outcome hworker =>
    have hstage := h.stage
    rw [hworker] at hstage
    refine ⟨?_, fun d hd => ?_⟩
    · cases outcome <;> trivial
    · rcases mem_append.mp hd with hold | hnew
      · exact h.decided d hold
      · cases mem_singleton.mp hnew
        exact hstage
  | audited haudited =>
    have hstage := haudited.worker.stageOk h.stage
    obtain ⟨_, _, _, _, _, rfl⟩ := haudited.frame
    exact ⟨hstage, h.decided⟩
  | observed | routeAdded | enabledSet | routeRemoved | registered => exact ⟨h.stage, h.decided⟩
  | queued op =>
    refine ⟨h.stage.mono (fun _ _ _ hl => hl) fun _ _ hr => hr.perform op, fun d hd => ?_⟩
    exact (h.decided d hd).mono (fun _ hl => hl) fun hr => hr.perform op

end Invariant

/-! ## Audit entries -/

theorem Move.held {l : WorkerLabel} {w w' : Worker} (hmove : Move env s l w w') :
    w.held = [] ∧ w'.held = [] := by
  have hjob : ∀ (j : Job) (stage : Stage), stage.isEmitting = false →
      (Worker.job j stage).held = [] := by
    intro j stage hemitting
    cases stage <;> first | rfl | cases hemitting
  cases hmove with
  | listed | unlisted | cycleEnd | nextRoute | selected | batchEnd | nextEvent => exact ⟨rfl, rfl⟩
  | stage hstage => exact ⟨hjob _ _ hstage.isEmitting.1, hjob _ _ hstage.isEmitting.2⟩
  | abandoned _ _ hemitting => exact ⟨hjob _ _ hemitting, rfl⟩

variable {l : Label}

theorem Change.accounted (hchange : Change env s l s') {entry : AuditEntry}
    (h : s.Accounted entry) : s'.Accounted entry := by
  have hstored : s.worker.held = [] → s.Stored entry := fun hheld =>
    h.resolve_right (by rw [hheld]; exact not_mem_nil)
  cases hchange with
  | moved hmove => exact .inl (hstored hmove.held.1)
  | inserted hworker | advanced hworker => exact .inl (hstored (by rw [hworker]; rfl))
  | audited haudited => exact (haudited.accounted entry).mpr (.inl h)
  | observed | routeAdded | enabledSet | routeRemoved | registered | queued => exact h

theorem Change.lost (hchange : Change env s l s') (h : keepsRecords s l = true) :
    s'.lost = s.lost := by
  cases hchange with
  | audited haudited => exact haudited.kept h
  | moved | inserted | advanced | observed | routeAdded | enabledSet | routeRemoved | registered
  | queued => rfl

def RecordInv (s : State maxPending) : Prop :=
  ∀ d ∈ s.decisions, ∀ reason entry, d.outcome = .skipped reason entry → s.Accounted entry

theorem RecordInv.change (hchange : Change env s l s') (h : RecordInv s) : RecordInv s' := by
  intro d hd reason entry houtcome
  have hold : d ∈ s.decisions → s'.Accounted entry := fun hd =>
    hchange.accounted (h d hd reason entry houtcome)
  cases hchange with
  | @advanced j outcome hworker =>
    rcases mem_append.mp hd with hd | hnew
    · exact hold hd
    · -- the entry of the new decision is in the worker's hands
      cases mem_singleton.mp hnew
      cases houtcome
      exact .inr (mem_singleton_self entry)
  | audited haudited =>
    obtain ⟨_, _, _, _, _, rfl⟩ := haudited.frame
    exact hold hd
  | moved | inserted | observed | routeAdded | enabledSet | routeRemoved | registered | queued =>
    exact hold hd

/-! ## Runs -/

section Runs

variable {agents : List AgentRecord}

/-- On the way from `init` to `s` the worker has looked the source of `ev` up for `route`, and has
got `source`. -/
def LookedUp (env : RouteEnv) (init s : State maxPending) (route : RouteRow) (ev : Event)
    (source : Option AgentRecord) : Prop :=
  ∃ t j, Reach (step env) anyStep init t ∧
    Reach (step env) anyStep t s ∧ t.worker = .job j .matching ∧
    j.route = route ∧ j.ev = ev ∧ getAgentById t.agents ev.sourceAgentId = source

theorem Reachable.decisionInv (h : Reachable env maxPending agents s) :
    DecisionInv (LookedUp env (init maxPending agents) s) s := by
  have hinv : Reachable env maxPending agents s ∧
      DecisionInv (LookedUp env (init maxPending agents) s) s := by
    refine Reach.invariant (fun s => Reachable env maxPending agents s ∧
      DecisionInv (LookedUp env (init maxPending agents) s) s) ?_ ?_ h
    · exact ⟨.start, trivial, fun d hd => absurd hd not_mem_nil⟩
    · intro s l s' hs _ hstep
      refine ⟨hs.1.next trivial hstep, ?_⟩
      -- a lookup before `s` is one before `s'`, and the step itself may be a lookup
      have hmono : DecisionInv (LookedUp env (init maxPending agents) s') s := by
        refine hs.2.mono ?_
        rintro route ev source ⟨t, j, hinit, hreach, hlookup⟩
        exact ⟨t, j, hinit, hreach.next trivial hstep, hlookup⟩
      refine hmono.change (step_change hstep) fun j hworker => ?_
      exact ⟨s, j, hs.1, Reach.start.next trivial hstep, hworker, rfl, rfl, rfl⟩
  exact hinv.2

theorem Reachable.recordInv (h : Reachable env maxPending agents s) : RecordInv s :=
  Reach.invariant RecordInv (fun _ hd => absurd hd not_mem_nil)
    (fun _ _ _ hs _ hstep => hs.change (step_change hstep)) h

theorem lost_eq_nil (h : Reach (step env) (fun s l => keepsRecords s l = true)
    (init maxPending agents) s) : s.lost = [] :=
  Reach.invariant (fun s : State maxPending => s.lost = []) rfl
    (fun _ _ _ hs hok hstep => ((step_change hstep).lost hok).trans hs) h

/-- How an event has been settled that the route's cursor has passed. -/
inductive Settled (env : RouteEnv) (init s : State maxPending) (r : RouteRow) (e : Event) :
    Prop where
  /-- The worker found no source agent, or one out of scope; nothing is recorded. -/
  | outOfScope {d : Decided} {source : Option AgentRecord} :
      d ∈ s.decisions → d.route.rule = r.rule → d.ev = e → d.outcome = .noMatch source →
      LookedUp env init s d.route e source →
      (∀ a, source = some a → inScope r e a = false) → Settled env init s r e
  | routed : Routed s.messageQueue r.routeId e.eventId → Settled env init s r e
  | skipped {entry : AuditEntry} :
      entry.skips = some (r.routeId, e.eventId) → s.Accounted entry → Settled env init s r e

variable {r : RouteRow}

theorem inScope_of_rule {r' : RouteRow} (h : r.rule = r'.rule) (e : Event) (a : AgentRecord) :
    inScope r e a = inScope r' e a := by
  unfold inScope
  rw [RouteRow.sourceScope_of_rule h]

theorem Reachable.settled (h : Reachable env maxPending agents s) {e : Event}
    (hdecided : DecidedOn s.decisions r e) :
    Settled env (init maxPending agents) s r e := by
  obtain ⟨d, hd, hrule, rfl⟩ := hdecided
  have hok := h.decisionInv.decided d hd
  have hroute := RouteRow.routeId_of_rule hrule
  cases houtcome : d.outcome with
  | noMatch source =>
    rw [houtcome] at hok
    refine .outOfScope hd hrule rfl houtcome hok.1 fun a ha => ?_
    rw [← inScope_of_rule hrule]
    exact hok.2 a ha
  | matched entry =>
    rw [houtcome, OutcomeOk, hroute] at hok
    exact .routed hok
  | skipped reason entry =>
    rw [houtcome, OutcomeOk, hroute] at hok
    exact .skipped hok (h.recordInv d hd reason entry houtcome)

/-- In every run, whatever crashes, fails or is changed by operators in between: no cursor moves
back; the queue has one row at most for a route and an event; and every event of a route's type
between the cursor that the route was created with and its cursor now is settled.  A run in which no
step lets go of an audit entry has lost none. -/
theorem cursor_passes_settled (h : Reachable env maxPending agents s) :
    (∀ s', Reach (step env) anyStep s s' → ∀ k r r',
        s.routes.get k = some r → s'.routes.get k = some r' →
        r.lastConsumedEventId ≤ r'.lastConsumedEventId) ∧
      (∀ q₁ ∈ s.messageQueue.rows, ∀ q₂ ∈ s.messageQueue.rows, ∀ routeEvent,
        q₁.routeEvent = some routeEvent → q₂.routeEvent = some routeEvent → q₁ = q₂) ∧
      ((s.created.map RouteRow.routeId).Nodup ∧ ∀ r ∈ s.routes.rows, ∃ r₀ ∈ s.created,
        r₀.routeId = r.routeId ∧ ∀ e ∈ s.events.rows, e.eventType = r.eventType →
          r₀.lastConsumedEventId < e.eventId → e.eventId ≤ r.lastConsumedEventId →
          Settled env (init maxPending agents) s r e) ∧
      (Reach (step env) (fun s l => keepsRecords s l = true)
        (init maxPending agents) s → s.lost = []) := by
  have hinv := h.cursorInv
  refine ⟨fun s' hrun k r r' hr hr' => ?_,
    fun q₁ hq₁ q₂ hq₂ _ hindex₁ hindex₂ => Table.eq_of_index hq₁ hq₂ hindex₁ hindex₂,
    ⟨hinv.nodup, fun r hr => ?_⟩, lost_eq_nil⟩
  · obtain ⟨r₁, hr₁, -, hle⟩ := route_of_reach hrun (hinv.mem_created hr) hr'
    rw [hr] at hr₁
    cases hr₁
    exact hle
  · obtain ⟨r₀, hr₀, hrule, -, -, hcovered⟩ := hinv.routes _ r (Table.get_of_mem hr)
    refine ⟨r₀, hr₀, RouteRow.routeId_of_rule hrule, fun e he htype hlt hle => ?_⟩
    exact h.settled (hcovered e he (decide_eq_true htype) hlt hle)

end Runs

/-! ### Sample runs -/

def sampleRouteEnv : RouteEnv where
  renderExcerpt _ := "hi"
  sha256Hex _ := "8f43"
  decodeErrorText _ := ""
  envelopeMaxBytes := defaultEnvelopeBodyMaxBytes
  renderTemplate _ _ _ := .body [104, 105]
  batchSize := 100
  batchSize_bounds := by decide

def sampleSlave : AgentRecord := ⟨"agt_00000000000b", "c1", "%0", .slave, "codex", "worker", true⟩

def sampleMaster : AgentRecord := ⟨"agt_00000000000a", "c1", "%1", .master, "claude", "lead", true⟩

def sampleRoute (cursor : Nat) : RouteRow :=
  ⟨"r1", .completed, .any, .source, .auto, "again", true, cursor, "2026-01-01T00:00:00.000Z"⟩

def sampleEvent : Event :=
  ⟨1, .completed, "agt_00000000000b", "done", "2026-01-01T00:00:01.000Z"⟩

def setupLabels : List Label :=
  [.addRoute (sampleRoute 0),
    .observe .completed "agt_00000000000b" "done" "2026-01-01T00:00:01.000Z"]

def arbitrateLabels : List Label :=
  [.startCycle, .rebuffer, .listRoutes, .next, .refetch, .lookupSource, .arbitrate].map .worker

def gateLabels (messageId : String) : List Label :=
  [.worker .resolve, .worker (.gate messageId "2026-01-01T00:00:02.000Z" true true true)]

/-- The daemon dies between the insert and the cursor move; the next cycle runs into the index and
takes the row for its own. -/
def crashAfterInsert : List Label :=
  setupLabels ++ arbitrateLabels ++ gateLabels "m1" ++ [.worker .commit, .crash] ++
    arbitrateLabels ++ gateLabels "m2" ++ [.worker .commit, .worker .commit]

theorem cursor_passes_settled_crashAfterInsert :
    ∃ s, run (step sampleRouteEnv) (init 10000 [sampleMaster, sampleSlave])
        crashAfterInsert = some s ∧
      s.routes.rows = [sampleRoute 1] ∧
      s.messageQueue.rows.map QueueRow.routeEvent = [some ("r1", 1)] ∧
      (s.created.map RouteRow.routeId).Nodup ∧
      Settled sampleRouteEnv (init 10000 [sampleMaster, sampleSlave]) s
        (sampleRoute 1) sampleEvent := by
  obtain ⟨s, hs, hroutes, hqueue, hcreated, hevent⟩ : ∃ s, run (step sampleRouteEnv)
      (init 10000 [sampleMaster, sampleSlave]) crashAfterInsert = some s ∧
      s.routes.rows = [sampleRoute 1] ∧
      s.messageQueue.rows.map QueueRow.routeEvent = [some ("r1", 1)] ∧
      s.created = [sampleRoute 0] ∧ sampleEvent ∈ s.events.rows := by decide +kernel
  obtain ⟨-, -, ⟨hnodup, hsettled⟩, -⟩ := cursor_passes_settled (reach_of_run hs)
  refine ⟨s, hs, hroutes, hqueue, hnodup, ?_⟩
  obtain ⟨r₀, hr₀, -, hpassed⟩ :=
    hsettled _ (by rw [hroutes]; exact mem_singleton_self _)
  rw [hcreated, mem_singleton] at hr₀
  subst hr₀
  exact hpassed sampleEvent hevent rfl (by decide) (by decide)

/-- There is no master, so the event is skipped; the cursor move commits, and the daemon dies before
the line is written. -/
def crashAfterSkip : List Label :=
  setupLabels ++ arbitrateLabels ++ [.worker .commit, .crash]

/-- The cursor has passed an event whose source was in scope all along, and there is neither a row
nor a record of the skip. -/
theorem cursor_passes_unrecorded_skip :
    ∃ s, run (step sampleRouteEnv) (init 10000 [sampleSlave]) crashAfterSkip = some s ∧
      s.created = [sampleRoute 0] ∧ s.events.rows = [sampleEvent] ∧
      s.routes.rows = [sampleRoute 1] ∧
      s.agents = [sampleSlave] ∧ inScope (sampleRoute 0) sampleEvent sampleSlave = true ∧
      s.messageQueue.rows = [] ∧ s.file = [] ∧ s.pending.items = [] ∧ s.worker = .idle := by decide +kernel

end AgentTower.Routing.RouteWorker
