import AgentTower.Events.Writer
import AgentTower.Lib.Deque
import AgentTower.Lib.Log
import AgentTower.Routing.RouteRules
import AgentTower.Routing.Send

/-!
# The routing worker

One thread that takes the next events of every enabled route, enqueues a message for an event or skips
it, and then moves the route's cursor.  A step is one SQLite access, one transaction or one append to
the JSONL file; a crash, a lock conflict or another thread can come between any two of them.

`RoutingTransientError` and every exception that the worker does not expect have the same effect:
the rest of the route's batch is left to a later cycle.
-/

namespace AgentTower.Routing.RouteWorker

open Sql
open Events (AppendOutcome)

/-! ## Tables and records -/

abbrev Routes := Table RouteRow.routeId (fun _ => (none : Option Unit))
  (fun r => decide (r.eventType ≠ .audit))

abbrev RoutePatch := Patch RouteRow.routeId (fun _ : RouteRow => (none : Option Unit))

/-- `events`, whose `AUTOINCREMENT` key orders the rows. -/
abbrev EventLog := Log Event Event.eventId

namespace EventLog

def insert (log : EventLog) (eventType : EventType) (sourceAgentId excerpt observedAt : String) :
    EventLog :=
  log.push (fun eventId => ⟨eventId, eventType, sourceAgentId, excerpt, observedAt⟩) fun _ => rfl

def ofType (eventType : EventType) (e : Event) : Bool := decide (e.eventType = eventType)

def selectEventsAfterCursor (log : EventLog) (cursor : Nat) (eventType : EventType)
    (limit : Nat) : List Event :=
  log.after cursor (ofType eventType) limit

end EventLog

def createdBefore (a b : RouteRow) : Prop :=
  a.createdAt < b.createdAt ∨ a.createdAt = b.createdAt ∧ a.routeId ≤ b.routeId

instance : DecidableRel createdBefore := fun a b => by
  unfold createdBefore
  infer_instance

def listRoutes (routes : Routes) : List RouteRow :=
  (routes.rows.filter RouteRow.enabled).insertionSort createdBefore

def cursorPatch (eventId : Nat) : RoutePatch where
  set r := { r with lastConsumedEventId := eventId }
  key_set _ := rfl
  index_set _ := rfl

def enabledPatch (enabled : Bool) : RoutePatch where
  set r := { r with enabled }
  key_set _ := rfl
  index_set _ := rfl

/-- An `UPDATE` of `routes`; no patch touches the column of the `CHECK`. -/
def updateRoutes (routes : Routes) (sel : RouteRow → Bool) (p : RoutePatch) : Routes :=
  (routes.update sel p).getD routes

def advanceCursor (routes : Routes) (routeId : String) (eventId : Nat) : Routes :=
  updateRoutes routes
    (fun r => decide (r.routeId = routeId) && decide (r.lastConsumedEventId < eventId))
    (cursorPatch eventId)

def updateEnabled (routes : Routes) (routeId : String) (enabled : Bool) : Routes :=
  updateRoutes routes (fun r => decide (r.routeId = routeId) && decide (r.enabled ≠ enabled))
    (enabledPatch enabled)

/-- A line of the routes audit; `other` is any entry that is not about an event of a route. -/
inductive AuditEntry where
  | routeMatched (eventId : Nat) (routeId winnerId targetId targetLabel eventExcerpt : String)
  | routeSkipped (eventId : Nat) (routeId : String) (winnerId targetId targetLabel : Option String)
      (reason : SkipReason) (subReason : Option String) (eventExcerpt : String)
  | other (eventType : String)
  deriving DecidableEq, Repr

/-! ## The worker -/

/-- The values that a template may refer to, the excerpt apart. -/
structure TemplateFields where
  eventId : Nat
  eventType : EventType
  sourceAgentId : String
  sourceLabel : String
  sourceRole : String
  sourceCapability : String
  observedAt : String
  deriving DecidableEq, Repr

def buildTemplateFields (ev : Event) (source : AgentRecord) : TemplateFields where
  eventId := ev.eventId
  eventType := ev.eventType
  sourceAgentId := ev.sourceAgentId
  sourceLabel := source.label
  sourceRole := source.role.text
  sourceCapability := source.capability
  observedAt := ev.observedAt

/-- `render_template`: the body, a `RouteTemplateRenderError` with its sub-reason, or any other
exception. -/
inductive Rendered where
  | body (bytes : List UInt8)
  | renderError (subReason : String)
  | raised
  deriving DecidableEq, Repr

/-- The worker's constructor refuses a batch size outside `_BATCH_SIZE_BOUNDS`. -/
structure RouteEnv extends Env where
  renderTemplate : String → TemplateFields → String → Rendered
  batchSize : Nat
  batchSize_bounds : 1 ≤ batchSize ∧ batchSize ≤ 10000

/-- The terminal decision about an event; `noMatch` carries the source agent as it was looked up. -/
inductive Outcome where
  | noMatch (source : Option AgentRecord)
  | matched (entry : AuditEntry)
  | skipped (reason : SkipReason) (entry : AuditEntry)
  deriving DecidableEq, Repr

/-- An event under way, with the events after it in the batch and the routes after its own. -/
structure Job where
  route : RouteRow
  ev : Event
  later : List Event
  rest : List RouteRow
  deriving DecidableEq, Repr

inductive Stage where
  | matching
  | arbitrating (source : AgentRecord)
  | resolving (source winner : AgentRecord)
  | enqueuing (winner target : AgentRecord) (body : List UInt8)
  | inserting (winner target : AgentRecord) (m : NewMessage) (decision : Decision) (attempts : Nat)
  | inserted (winner target : AgentRecord)
  | advancing (outcome : Outcome)
  | emitting (entry : AuditEntry)
  deriving DecidableEq, Repr

inductive Worker where
  | idle
  | draining (snapshot survivors : List AuditEntry)
  | listing
  | cycle (routes : List RouteRow)
  | batch (route : RouteRow) (events : List Event) (rest : List RouteRow)
  | job (j : Job) (stage : Stage)
  deriving DecidableEq, Repr

def Worker.held : Worker → List AuditEntry
  | .draining snapshot survivors => snapshot ++ survivors
  | .job _ (.emitting entry) => [entry]
  | _ => []

/-- A cursor moved past an event, or would have if the route were still there. -/
structure Decided where
  route : RouteRow
  ev : Event
  outcome : Outcome
  deriving DecidableEq, Repr

/-- `file` has the audit entries of the lines, and `atStart` says that the file ends with a whole one.
`created`, `decisions` and `lost` are history: the routes as they were inserted, the decisions in the
order in which their cursor moves committed, and the audit entries that left the process without a
line. -/
structure State (maxPending : Nat) where
  routes : Routes
  events : EventLog
  messageQueue : MessageQueue
  agents : List AgentRecord
  file : List AuditEntry
  atStart : Bool
  pending : Deque AuditEntry maxPending
  worker : Worker
  created : List RouteRow
  decisions : List Decided
  lost : List AuditEntry

variable {maxPending : Nat}

namespace State

def init (maxPending : Nat) (agents : List AgentRecord) : State maxPending where
  routes := Table.empty
  events := Log.empty
  messageQueue := Table.empty
  agents := agents
  file := []
  atStart := true
  pending := Deque.empty
  worker := .idle
  created := []
  decisions := []
  lost := []

variable (s : State maxPending)

def work (worker : Worker) : State maxPending := { s with worker }

def buffer (entry : AuditEntry) : State maxPending :=
  { s with pending := s.pending.append entry, lost := s.lost ++ s.pending.evicted entry }

def write (entry : AuditEntry) (outcome : AppendOutcome) : State maxPending :=
  { s with
    file := s.file ++ outcome.lines s.atStart entry
    atStart := outcome.endsLine s.atStart }

/-- The last append of an entry; without a line it is lost. -/
def writeOrLose (entry : AuditEntry) (outcome : AppendOutcome) : State maxPending :=
  if outcome.isLine s.atStart then s.write entry outcome
  else { s.write entry outcome with lost := s.lost ++ [entry] }

/-- `_emit`, by whichever thread; the flag says whether it returned.  Only an `OSError` is caught. -/
def emit (entry : AuditEntry) (outcome : AppendOutcome) : State maxPending × Bool :=
  match outcome with
  | .returned _ => (s.writeOrLose entry outcome, true)
  | .oserror _ _ => ((s.write entry outcome).buffer entry, true)
  | .exception _ _ => (s.writeOrLose entry outcome, false)

def crashed : State maxPending :=
  { s with
    pending := Deque.empty
    worker := .idle
    lost := s.lost ++ s.pending.items ++ s.worker.held }

end State

/-! ## Decisions -/

def excerpt240 (ev : Event) : String := String.ofList (ev.excerpt.toList.take 240)

def matchedOutcome (j : Job) (winner target : AgentRecord) : Outcome :=
  .matched (.routeMatched j.ev.eventId j.route.routeId winner.agentId target.agentId target.label
    (excerpt240 j.ev))

def skippedOutcome (j : Job) (winner target : Option AgentRecord) (reason : SkipReason)
    (subReason : Option String) : Outcome :=
  .skipped reason (.routeSkipped j.ev.eventId j.route.routeId (winner.map AgentRecord.agentId)
    (target.map AgentRecord.agentId) (target.map AgentRecord.label) reason subReason
    (excerpt240 j.ev))

/-- Whether the event's source is in the route's scope; a scope that does not parse has ended the
batch before. -/
def inScope (route : RouteRow) (ev : Event) (source : AgentRecord) : Bool :=
  match parseSourceScopeValue route.sourceScope with
  | .ok scope => scope.matches ev.sourceAgentId source
  | .error _ => false

/-- The source-scope test of `_process_route_batch`. -/
def matchSource (agents : List AgentRecord) (j : Job) : Stage :=
  match getAgentById agents j.ev.sourceAgentId with
  | none => .advancing (.noMatch none)
  | some source =>
    if inScope j.route j.ev source then .arbitrating source
    else .advancing (.noMatch (some source))

/-- Step 1 of `_process_one_event`. -/
def arbitrate (agents : List AgentRecord) (j : Job) (source : AgentRecord) : Stage :=
  match pickMaster j.route.masterRule (listActiveMasters agents) with
  | .won winner => .resolving source winner
  | .skip reason => .advancing (skippedOutcome j none none reason none)

/-- Steps 2 and 3; `none` is an exception that ends the batch. -/
def resolveAndRender (env : RouteEnv) (agents : List AgentRecord) (j : Job)
    (source winner : AgentRecord) : Option Stage :=
  match resolveRouteTarget agents j.route.targetRule source with
  | .error _ => none
  | .ok (.error reason) => some (.advancing (skippedOutcome j (some winner) none reason none))
  | .ok (.ok target) =>
    match env.renderTemplate j.route.template (buildTemplateFields j.ev source) j.ev.excerpt with
    | .body bytes => some (.enqueuing winner target bytes)
    | .renderError subReason =>
      some (.advancing (skippedOutcome j (some winner) (some target) .templateRenderError
        (some subReason)))
    | .raised => none

def routeRequest (j : Job) (target : AgentRecord) (body : List UInt8) : SendRequest where
  target := target.agentId
  body := body
  origin := .route
  routeId := some j.route.routeId
  eventId := some j.ev.eventId

/-- The `except` clauses around `enqueue_route_message`, in their order; `none` is an exception that
ends the batch, which a lock conflict does as a `RoutingTransientError`. -/
def exceptEnqueue (j : Job) (winner target : AgentRecord) (e : PyExc) : Option Stage :=
  if e.isinstance .queueServiceError then
    some (.advancing (skippedOutcome j (some winner) (some target) (.queue e.code) none))
  else if e.isinstance .integrityError then some (.advancing (matchedOutcome j winner target))
  else none

/-! ## Steps -/

inductive WorkerLabel where
  | startCycle
  | append (outcome : AppendOutcome)
  | rebuffer
  | listRoutes
  | next
  | refetch
  | lookupSource
  | arbitrate
  | resolve
  | gate (messageId ts : String) (routingEnabled containerActive paneResolvable : Bool)
  | commit
  | readBack
  /-- `shutdown_event` is set. -/
  | shutdown
  /-- The SQLite access of the current step raises `OperationalError(message)`. -/
  | fail (message : String)
  deriving DecidableEq, Repr

def Job.goto (j : Job) : Option Stage → Worker
  | some stage => .job j stage
  | none => .cycle j.rest

/-- The insert's transaction, with the audit row of `insert_queue_transition_in_tx`, goes through.
`uuid4` gives an id that no row has. -/
def commitInsert (env : RouteEnv) (s : State maxPending) (j : Job) (winner target : AgentRecord)
    (m : NewMessage) (decision : Decision) : Option (State maxPending) :=
  if (s.messageQueue.get m.messageId).isSome then none
  else
    match (decision.insert m).apply s.messageQueue with
    | .ok q =>
      some { s with
        messageQueue := q
        events := EventLog.insert s.events .audit m.target.agentId
          (env.renderExcerpt m.envelopeBody) m.enqueuedAt
        worker := .job j (.inserted winner target) }
    | .error e => some (s.work (j.goto (exceptEnqueue j winner target e)))

/-- A statement of the insert's transaction raises: `with_lock_retry` starts over, up to its
limit. -/
def failInsert (j : Job) (winner target : AgentRecord) (m : NewMessage) (decision : Decision)
    (attempts : Nat) (e : PyExc) : Worker :=
  if isLockConflict e then
    if attempts < lockRetries then .job j (.inserting winner target m decision (attempts + 1))
    else j.goto (exceptEnqueue j winner target (lockRetryExhausted e))
  else j.goto (exceptEnqueue j winner target e)

/-- `_advance_cursor_only`, and what follows it. -/
def commitAdvance (s : State maxPending) (j : Job) (outcome : Outcome) : State maxPending :=
  { s with
    routes := advanceCursor s.routes j.route.routeId j.ev.eventId
    decisions := s.decisions ++ [⟨j.route, j.ev, outcome⟩]
    worker :=
      match outcome with
      | .noMatch _ => .batch j.route j.later j.rest
      | .matched entry | .skipped _ entry => .job j (.emitting entry) }

def stepJob (env : RouteEnv) (s : State maxPending) (j : Job) :
    Stage → WorkerLabel → Option (State maxPending)
  | .matching, .lookupSource => some (s.work (.job j (matchSource s.agents j)))
  | .arbitrating source, .arbitrate => some (s.work (.job j (arbitrate s.agents j source)))
  | .resolving source winner, .resolve =>
    some (s.work (j.goto (resolveAndRender env s.agents j source winner)))
  | .enqueuing winner target body, .gate messageId ts routingEnabled containerActive
      paneResolvable =>
    match prepareSend env.toEnv s.agents routingEnabled winner (routeRequest j target body)
        messageId ts containerActive paneResolvable with
    | .error e => some (s.work (j.goto (exceptEnqueue j winner target e)))
    | .ok (m, decision, _) => some (s.work (.job j (.inserting winner target m decision 0)))
  | .inserting winner target m decision _, .commit => commitInsert env s j winner target m decision
  | .inserting winner target m decision attempts, .fail message =>
    some (s.work (failInsert j winner target m decision attempts (operationalError message)))
  | .inserted winner target, .readBack =>
    some (s.work (.job j (.advancing (matchedOutcome j winner target))))
  | .advancing outcome, .commit => some (commitAdvance s j outcome)
  -- the cursor is past the event, so an exception here only ends the batch
  | .emitting entry, .append outcome =>
    match s.emit entry outcome with
    | (s', true) => some (s'.work (.batch j.route j.later j.rest))
    | (s', false) => some (s'.work (.cycle j.rest))
  -- inside the `try` around the enqueue; the JSONL line of the queue counts as the read back
  | .enqueuing winner target _, .fail message | .inserted winner target, .fail message =>
    some (s.work (j.goto (exceptEnqueue j winner target (operationalError message))))
  | .matching, .fail _ | .arbitrating _, .fail _ | .resolving _ _, .fail _
  | .advancing _, .fail _ => some (s.work (.cycle j.rest))
  | _, _ => none

/-- One entry of the snapshot that `drain_pending` took. -/
def drainOne (s : State maxPending) (entry : AuditEntry) (snapshot survivors : List AuditEntry)
    (outcome : AppendOutcome) : State maxPending :=
  match outcome with
  | .returned _ => (s.writeOrLose entry outcome).work (.draining snapshot survivors)
  | .oserror _ _ => (s.write entry outcome).work (.draining snapshot (survivors ++ [entry]))
  -- the exception ends the cycle; the rest of the snapshot is gone with the stack
  | .exception _ _ =>
    let s' := s.writeOrLose entry outcome
    { s' with lost := s'.lost ++ (snapshot ++ survivors), worker := .idle }

def stepWorker (env : RouteEnv) (s : State maxPending) (l : WorkerLabel) :
    Option (State maxPending) :=
  match s.worker, l with
  | .idle, .startCycle =>
    some { s with pending := Deque.empty, worker := .draining s.pending.items [] }
  | .draining (entry :: snapshot) survivors, .append outcome =>
    some (drainOne s entry snapshot survivors outcome)
  | .draining [] survivors, .rebuffer => some ((survivors.foldl State.buffer s).work .listing)
  | .listing, .listRoutes => some (s.work (.cycle (listRoutes s.routes)))
  | .listing, .fail _ => some (s.work .idle)
  | .cycle [], .next => some (s.work .idle)
  -- the batch is selected behind the cursor of the snapshot, not of the table
  | .cycle (route :: rest), .next =>
    match parseSourceScopeValue route.sourceScope with
    | .error _ => some (s.work (.cycle rest))
    | .ok _ =>
      some (s.work (.batch route
        (EventLog.selectEventsAfterCursor s.events route.lastConsumedEventId route.eventType
          env.batchSize)
        rest))
  | .cycle (_ :: rest), .fail _ => some (s.work (.cycle rest))
  | .cycle (_ :: _), .shutdown => some (s.work .idle)
  | .batch _ [] rest, .next => some (s.work (.cycle rest))
  -- a disable or a removal in the middle of a batch; the snapshot's rules stay in use
  | .batch route (ev :: later) rest, .refetch =>
    match s.routes.get route.routeId with
    | none => some (s.work (.cycle rest))
    | some refreshed =>
      if refreshed.enabled then some (s.work (.job ⟨route, ev, later, rest⟩ .matching))
      else some (s.work (.cycle rest))
  | .batch _ (_ :: _) rest, .fail _ | .batch _ (_ :: _) rest, .shutdown =>
    some (s.work (.cycle rest))
  | .job j stage, l => stepJob env s j stage l
  | _, _ => none

/-- The worker and everything around it.  `queue` is a transaction of the rest of the daemon on
`message_queue`; `emitOther` is an audit entry of another thread, through the same buffer;
`otherAppend` is what another component, or a process that dies in its write, leaves in the file. -/
inductive Label where
  | worker (l : WorkerLabel)
  | observe (eventType : EventType) (sourceAgentId excerpt observedAt : String)
  | addRoute (route : RouteRow)
  | setEnabled (routeId : String) (enabled : Bool)
  | removeRoute (routeId : String)
  | register (agents : List AgentRecord)
  | queue (op : DaoOp)
  | emitOther (eventType : String) (outcome : AppendOutcome)
  | otherAppend (whole : Bool)
  | crash
  /-- The process ends in order: the worker is stopped, and nothing drains the buffer. -/
  | stop
  deriving DecidableEq, Repr

/-- `add_route` reads the cursor before its transaction, so that it may lag; `uuid4` gives an id
that no route ever had. -/
def addRoute (s : State maxPending) (route : RouteRow) : Option (State maxPending) :=
  if route.lastConsumedEventId ≤ s.events.maxId ∧
      route.routeId ∉ s.created.map RouteRow.routeId then
    match s.routes.insert route with
    | none => none
    | some routes => some { s with routes, created := s.created ++ [route] }
  else none

def step (env : RouteEnv) (s : State maxPending) : Label → Option (State maxPending)
  | .worker l => stepWorker env s l
  | .observe eventType sourceAgentId excerpt observedAt =>
    some { s with events := EventLog.insert s.events eventType sourceAgentId excerpt observedAt }
  | .addRoute route => addRoute s route
  | .setEnabled routeId enabled =>
    some { s with routes := updateEnabled s.routes routeId enabled }
  | .removeRoute routeId =>
    some { s with routes := s.routes.delete fun r => decide (r.routeId = routeId) }
  | .register agents => some { s with agents }
  | .queue op => some { s with messageQueue := op.perform s.messageQueue }
  | .emitOther eventType outcome => some (s.emit (.other eventType) outcome).1
  | .otherAppend whole => some { s with atStart := whole }
  | .crash | .stop => some s.crashed

end AgentTower.Routing.RouteWorker
