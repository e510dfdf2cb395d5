import AgentTower.Lib.Pages
import AgentTower.App.AgentMutations
import AgentTower.App.Cursor
import AgentTower.Logs.Tables
import AgentTower.Routing.Dao

/-!
# `app.pane.list`, `app.agent.list`, `app.event.list` and `app.queue.list`

The four handlers check their params in the same order, read the rows that pass the filters, sort them
and answer with one page.  The session of the caller has been checked.
-/

namespace AgentTower.App

open Sql
open Agents
open Logs (LogAttachments LogAttachmentRecord)
open Routing (PaneKey PaneRow ContainerRow Role QueueRow QueueState BlockReason FailureReason
  MessageQueue pyRepr)

/-! ## Requests -/

/-- The params have come in as JSON. -/
structure ListParams where
  limit : Option Json
  orderBy : Option Json
  filters : Option Json
  cursorNext : Option Json
  filters_valid : filters.all Json.valid = true

/-- The text that a float has where SQLite compares it with a text column; `NaN` is bound as `NULL`. -/
structure ListEnv extends Json.Floats where
  sqlText : String → Option String

/-- `params.get("filters") or {}`. -/
def filtersObject : Option Json → Except Failure Filters
  | none => .ok []
  | some (.obj filters) => .ok filters
  | some value =>
    if value.truthy then
      .error (.validationFailed "filters" "wrong type" "filters must be an object")
    else .ok []

def rejectUnknown (entity : String) (allowed : List String) (filters : Filters) :
    Except Failure Unit :=
  match filters.find? fun filter => decide (filter.1 ∉ allowed) with
  | some (key, _) =>
    .error (.validationFailed key "unknown filter"
      ("unknown " ++ entity ++ " filter field: " ++ pyRepr key))
  | none => .ok ()

section

variable (filters : Filters) (name : String)

def filterValue : Option Json :=
  match filters.lookup name with
  | none | some .null => none
  | some value => some value

def stringFilter : Except Failure (Option String) :=
  match filterValue filters name with
  | none => .ok none
  | some (.str value) => .ok (some value)
  | some _ =>
    .error (.validationFailed name "wrong type" ("filters." ++ name ++ " must be a string"))

def boolFilter : Except Failure (Option Bool) :=
  match filterValue filters name with
  | none => .ok none
  | some (.bool value) => .ok (some value)
  | some _ =>
    .error (.validationFailed name "wrong type" ("filters." ++ name ++ " must be a boolean"))

end

def filterOperatorChars : List Char := ['<', '>', '~', '*', '%']

/-- `c.lower()` where it is a letter of ASCII; the Kelvin sign is one of these. -/
def lowerLetter (c : Char) : Char := if c = '\u212a' then 'k' else c.toLower

def filterValueOperator : Json → Option String
  | .str value =>
    match value.toList.find? fun c => decide (c ∈ filterOperatorChars) with
    | some c => some (String.ofList [c])
    | none =>
      if "like".toList ∈ (value.toList.map lowerLetter).splitOnP Logs.isSpace then some "LIKE"
      else none
  | _ => none

def rejectOperators (entity : String) (filters : Filters) : Except Failure Unit :=
  match filters.findSome? fun filter => (filterValueOperator filter.2).map (filter.1, ·) with
  | some (key, operator) =>
    .error (.validationFailed key "operator syntax not supported"
      (entity ++ " filter " ++ pyRepr key ++ " is exact-match only; operator syntax (" ++
        pyRepr operator ++ ") is not supported at v1.0"))
  | none => .ok ()

def validateFiltersObject (entity : String) (allowed : List String) (value : Option Json) :
    Except Failure Filters := do
  let filters ← filtersObject value
  rejectUnknown entity allowed filters
  rejectOperators entity filters
  pure filters

def checkTimeRange (env : ListEnv) (handlerName : String) (since upTo : Option Json) :
    Except Failure Unit :=
  match since, upTo with
  | some since, some upTo =>
    match since.pyGt env.toFloats upTo with
    | none => .error (.unexpectedError handlerName)
    | some true =>
      .error (.validationFailed "since" "after until" "since must not be after until")
    | some false => .ok ()
  | _, _ => .ok ()

structure ListArgs (φ ο : Type) where
  limit : Nat
  order : OrderBy ο
  raw : Filters
  filters : φ

structure ListPage (α : Type) extends Page α String where
  total : Nat
  totalEstimate : Option Nat
  ordering : String

def paginate {α : Type} (rows : List α) (offset limit : Nat) (canonicalOrder : String)
    (filters : Filters) : ListPage α where
  toPage := .slice rows limit (encodeCursor · canonicalOrder filters) offset
  total := rows.length
  totalEstimate := none
  ordering := canonicalOrder

def listPage {φ ο α : Type} (env : ListEnv) (args : Except Failure (ListArgs φ ο))
    (rows : ListArgs φ ο → Except Failure (List α)) (cursorNext : Option Json) :
    Except Failure (ListPage α) := do
  let args ← args
  let offset ← decodeCursor env.toFloats args.order.canonical args.raw cursorNext
  let rows ← rows args
  pure (paginate rows offset args.limit args.order.canonical args.raw)

/-- Sorts are stable, also those with `reverse=True`. -/
def sortRows {α : Type} (cmp : α → α → Ordering) (direction : Direction) (rows : List α) : List α :=
  match direction with
  | .asc => rows.insertionSort fun a b => cmp a b ≠ .gt
  | .desc => rows.insertionSort fun a b => cmp b a ≠ .gt

structure PaneListing where
  pane : PaneRow
  containerName : String
  firstSeenAt : String
  lastScannedAt : String
  deriving DecidableEq, Repr

def PaneListing.key (p : PaneListing) : PaneKey := p.pane.key

/-- `_EVENT_COLUMNS`. -/
structure EventListing where
  eventId : Nat
  eventType : String
  agentId : String
  observedAt : String
  excerpt : String
  classifierRuleId : Option String
  deriving DecidableEq, Repr

structure ListDb where
  containers : Table ContainerRow.containerId Table.noIndex Table.noCheck
  panes : Table PaneListing.key Table.noIndex Table.noCheck
  agents : AgentTable
  logAttachments : LogAttachments
  events : Table EventListing.eventId Table.noIndex Table.noCheck
  messageQueue : MessageQueue

def connectStateDb : Option ListDb → Except Failure ListDb
  | none => .error (.internalError "state_path unwired or unreadable")
  | some db => .ok db

/-! ## Panes -/

inductive PaneOrder where
  | default | discoveredAt | lastSeenAt
  deriving DecidableEq, Repr

structure PaneFilters where
  containerId : Option String
  registered : Option Bool
  deriving DecidableEq, Repr

/-- `_PANE_ORDER_BY_FIELDS`. -/
def paneOrderBy : Option Json → Except Failure (OrderBy PaneOrder) :=
  validateOrderBy
    [("default", .default), ("discovered_at", .discoveredAt), ("last_seen_at", .lastSeenAt)]
    ("default", .default) .asc

def paneArgs (p : ListParams) : Except Failure (ListArgs PaneFilters PaneOrder) := do
  let limit ← validateLimit p.limit
  let order ← paneOrderBy p.orderBy
  let raw ← filtersObject p.filters
  rejectUnknown "pane" ["container_id", "registered"] raw
  let containerId ← stringFilter raw "container_id"
  let registered ← boolFilter raw "registered"
  pure ⟨limit, order, raw, containerId, registered⟩

structure PaneView where
  paneId : String
  containerId : String
  containerName : String
  tmuxSocket : String
  sessionName : String
  windowIndex : Int
  paneIndex : Int
  registered : Bool
  agentId : Option String
  discoveredAt : String
  lastSeenAt : String
  deriving DecidableEq, Repr

def looksLikeContainerId (value : String) : Bool :=
  decide (value.length = 64) &&
    value.toList.all fun c => c.isDigit || decide (c.toLower ∈ ['a', 'b', 'c', 'd', 'e', 'f'])

namespace ListDb

/-- The `WHERE` clause for `container_filter`: an id as it stands, or the name of a container. -/
def inContainer (db : ListDb) (containerFilter containerId : String) : Bool :=
  if looksLikeContainerId containerFilter then decide (containerId = containerFilter)
  else (db.containers.get containerId).any fun c => decide (c.name = containerFilter)

/-- `select_panes_for_listing(conn, active_only=False, container_filter=..)`. -/
def selectPanesForListing (db : ListDb) (containerFilter : Option String) : List PaneListing :=
  (db.panes.rows.filter fun p =>
      (db.containers.get p.key.containerId).isSome &&
        containerFilter.all fun c => db.inContainer c p.key.containerId).insertionSort
    fun p q => listingOrder p.pane q.pane ≠ .gt

/-- `_fetch_pane_agent_lookup`; the pane's key is unique among the agents. -/
def linkedAgent (db : ListDb) (key : PaneKey) : Option String :=
  (db.agents.rows.find? fun a => a.active && decide (a.key = key)).map AgentRecord.agentId

def paneView (db : ListDb) (p : PaneListing) : PaneView where
  paneId := p.key.tmuxPaneId
  containerId := p.key.containerId
  containerName := p.containerName
  tmuxSocket := p.key.tmuxSocketPath
  sessionName := p.key.tmuxSessionName
  windowIndex := p.key.tmuxWindowIndex
  paneIndex := p.key.tmuxPaneIndex
  registered := (db.linkedAgent p.key).isSome
  agentId := db.linkedAgent p.key
  discoveredAt := p.firstSeenAt
  lastSeenAt := p.lastScannedAt

end ListDb

def PaneOrder.cmp : PaneOrder → PaneView → PaneView → Ordering
  | .default, a, b =>
    (compare a.containerName b.containerName).then <|
      (compare a.sessionName b.sessionName).then <|
        (compare a.windowIndex b.windowIndex).then (compare a.paneIndex b.paneIndex)
  | .discoveredAt, a, b => compare a.discoveredAt b.discoveredAt
  | .lastSeenAt, a, b => compare a.lastSeenAt b.lastSeenAt

def paneRows (db : ListDb) (args : ListArgs PaneFilters PaneOrder) : List PaneView :=
  let allPanes := db.selectPanesForListing args.filters.containerId
  let filtered := allPanes.filter fun p =>
    args.filters.registered.all fun registered =>
      decide ((db.linkedAgent p.key).isSome = registered)
  sortRows args.order.field.cmp args.order.direction (filtered.map db.paneView)

def appPaneList (env : ListEnv) (stateDb : Option ListDb) (p : ListParams) :
    Except Failure (ListPage PaneView) :=
  listPage env (paneArgs p) (fun args => do
    let db ← connectStateDb stateDb
    pure (paneRows db args)) p.cursorNext

/-! ## Agents -/

inductive AgentOrder where
  | default | registeredAt | role
  deriving DecidableEq, Repr

structure AgentFilters where
  role : Option String
  capability : Option String
  containerId : Option String
  logAttached : Option Bool
  deriving DecidableEq, Repr

/-- `_AGENT_ORDER_BY_FIELDS`. -/
def agentOrderBy : Option Json → Except Failure (OrderBy AgentOrder) :=
  validateOrderBy [("default", .default), ("registered_at", .registeredAt), ("role", .role)]
    ("default", .default) .asc

def agentArgs (p : ListParams) : Except Failure (ListArgs AgentFilters AgentOrder) := do
  let limit ← validateLimit p.limit
  let order ← agentOrderBy p.orderBy
  let raw ← filtersObject p.filters
  rejectUnknown "agent" ["role", "capability", "container_id", "log_attached"] raw
  let role ← stringFilter raw "role"
  let capability ← stringFilter raw "capability"
  let containerId ← stringFilter raw "container_id"
  let logAttached ← boolFilter raw "log_attached"
  pure ⟨limit, order, raw, role, capability, containerId, logAttached⟩

def rolePriority : Role → Nat
  | .master => 1
  | .slave => 2
  | .swarm => 3
  | .testRunner => 4
  | .shell => 5
  | .unknown => 6

structure AgentView where
  agentId : String
  role : Role
  rolePriority : Nat
  capability : Capability
  label : String
  projectPath : String
  parentAgentId : Option String
  containerId : String
  paneId : String
  registeredAt : String
  logAttached : Bool
  paneActive : Bool
  deriving DecidableEq, Repr

/-- `_next_lex_prefix`; the last character may be missing or have no successor, and a surrogate cannot
be bound. -/
def nextLexPrefix (text : String) : Option String :=
  match text.toList.getLast? with
  | none => none
  | some c =>
    if (c.toNat + 1).isValidChar then
      some (String.ofList (text.toList.dropLast ++ [Char.ofNat (c.toNat + 1)]))
    else none

/-- The `WHERE` clause for `container_id`: an id as it stands, or the beginning of one. -/
def containerRange (containerId : Option String) : Option (String → Bool) :=
  match containerId with
  | none => some fun _ => true
  | some c =>
    if c.length = 64 then some fun id => decide (id = c)
    else (nextLexPrefix c).map fun upper => fun id => decide (c ≤ id ∧ id < upper)

/-- `ORDER BY active DESC, container_id ASC, ..`; `NULL` comes first. -/
def agentListOrder (a b : AgentRecord) : Ordering :=
  (compare b.active a.active).then <|
    (compare a.key.containerId b.key.containerId).then <|
      (compare a.parentAgentId b.parentAgentId).then <|
        (compare a.label b.label).then (compare a.agentId b.agentId)

namespace ListDb

/-- `list_agents(conn, role=.., container_id=.., active_only=False)`. -/
def listAgents (db : ListDb) (role : Option String) (inContainer : String → Bool) :
    List AgentRecord :=
  (db.agents.rows.filter fun a =>
      role.all (fun r => decide (a.role.text = r)) && inContainer a.key.containerId).insertionSort
    fun a b => agentListOrder a b ≠ .gt

/-- `agent_id in _fetch_log_attached_set(conn)`. -/
def logAttached (db : ListDb) (agentId : String) : Bool :=
  db.logAttachments.rows.any fun r => r.active && decide (r.agentId = agentId)

/-- `composite_key in _fetch_active_pane_keys(conn)`. -/
def paneActive (db : ListDb) (key : PaneKey) : Bool :=
  db.panes.rows.any fun p => p.pane.active && decide (p.key = key)

def agentView (db : ListDb) (a : AgentRecord) : AgentView where
  agentId := a.agentId
  role := a.role
  rolePriority := rolePriority a.role
  capability := a.capability
  label := a.label
  projectPath := a.projectPath
  parentAgentId := a.parentAgentId
  containerId := a.key.containerId
  paneId := a.key.tmuxPaneId
  registeredAt := a.createdAt
  logAttached := db.logAttached a.agentId
  paneActive := db.paneActive a.key

end ListDb

def AgentView.cmp (a b : AgentView) : Ordering :=
  (compare a.rolePriority b.rolePriority).then (compare a.registeredAt b.registeredAt)

/-- `[role_filter] if role_filter else None`. -/
def AgentFilters.roles (f : AgentFilters) : Option String := f.role.filter fun r => decide (r ≠ "")

def agentRows (db : ListDb) (args : ListArgs AgentFilters AgentOrder) :
    Except Failure (List AgentView) :=
  match containerRange args.filters.containerId with
  | none => .error (.unexpectedError "app_agent_list")
  | some inContainer =>
    let agents := db.listAgents args.filters.roles inContainer
    let filtered := agents.filter fun a =>
      args.filters.capability.all (fun c => decide (a.capability.text = c)) &&
        args.filters.logAttached.all fun attached => decide (db.logAttached a.agentId = attached)
    let rows := filtered.map db.agentView
    .ok (if args.order.field = .default then sortRows AgentView.cmp args.order.direction rows
      else rows)

def appAgentList (env : ListEnv) (stateDb : Option ListDb) (p : ListParams) :
    Except Failure (ListPage AgentView) :=
  listPage env (agentArgs p) (fun args => do
    let db ← connectStateDb stateDb
    agentRows db args) p.cursorNext

/-- The text that a value has where it is compared with a text column; `none` is `NULL`. -/
def sqlTime (env : ListEnv) : Json → Option String
  | .str s => some s
  | .bool b => some (if b then "1" else "0")
  | .int n => some (toString n)
  | .float text => env.sqlText text
  | .null | .arr _ | .obj _ => none

def checkBind (handlerName : String) : Option Json → Except Failure Unit
  | some (.int n) =>
    if -2 ^ 63 ≤ n ∧ n < 2 ^ 63 then .ok () else .error (.unexpectedError handlerName)
  | some (.arr _) | some (.obj _) => .error (.internalErrorLogged "state-db query")
  | _ => .ok ()

/-- `column >= ?` for `since` and `column <= ?` for `until`. -/
def inTimeRange (env : ListEnv) (since upTo : Option Json) (time : String) : Bool :=
  (since.all fun v => (sqlTime env v).any fun t => decide (t ≤ time)) &&
    upTo.all fun v => (sqlTime env v).any fun t => decide (time ≤ t)

/-! ## Events -/

inductive EventOrder where
  | eventId | observedAt
  deriving DecidableEq, Repr

structure EventFilters where
  eventType : Option String
  agentId : Option String
  since : Option Json
  upTo : Option Json

/-- `_EVENT_ORDER_BY_FIELDS`. -/
def eventOrderBy : Option Json → Except Failure (OrderBy EventOrder) :=
  validateOrderBy [("event_id", .eventId), ("observed_at", .observedAt)] ("event_id", .eventId) .desc

def eventArgs (env : ListEnv) (p : ListParams) : Except Failure (ListArgs EventFilters EventOrder) := do
  let limit ← validateLimit p.limit
  let order ← eventOrderBy p.orderBy
  let raw ← validateFiltersObject "event" ["event_type", "agent_id", "since", "until"] p.filters
  let eventType ← stringFilter raw "event_type"
  let agentId ← stringFilter raw "agent_id"
  let since := filterValue raw "since"
  let upTo := filterValue raw "until"
  checkTimeRange env "app_event_list" since upTo
  pure ⟨limit, order, raw, eventType, agentId, since, upTo⟩

structure EventView where
  eventId : Nat
  eventType : String
  agentId : String
  observedAt : String
  excerpt : String
  classifierRuleId : String
  summary : String
  deriving DecidableEq, Repr

def summarizeEvent (e : EventListing) : String :=
  if e.agentId ≠ "" then String.ofList ((e.eventType ++ " from " ++ e.agentId).toList.take 256)
  else if e.eventType ≠ "" then String.ofList (e.eventType.toList.take 256)
  else "(event)"

def eventView (e : EventListing) : EventView where
  eventId := e.eventId
  eventType := e.eventType
  agentId := e.agentId
  observedAt := e.observedAt
  excerpt := e.excerpt
  classifierRuleId := e.classifierRuleId.getD ""
  summary := summarizeEvent e

def EventOrder.cmp : EventOrder → EventView → EventView → Ordering
  | .eventId, a, b => compare a.eventId b.eventId
  | .observedAt, a, b => compare a.observedAt b.observedAt

/-- The `WHERE` clause. -/
def EventFilters.selects (env : ListEnv) (f : EventFilters) (e : EventListing) : Bool :=
  f.eventType.all (fun t => decide (e.eventType = t)) &&
    f.agentId.all (fun a => decide (e.agentId = a)) && inTimeRange env f.since f.upTo e.observedAt

def eventRows (env : ListEnv) (db : ListDb) (args : ListArgs EventFilters EventOrder) :
    Except Failure (List EventView) := do
  checkBind "app_event_list" args.filters.since
  checkBind "app_event_list" args.filters.upTo
  let dbRows := db.events.rows.filter (args.filters.selects env)
  pure (sortRows args.order.field.cmp args.order.direction (dbRows.map eventView))

def appEventList (env : ListEnv) (stateDb : Option ListDb) (p : ListParams) :
    Except Failure (ListPage EventView) :=
  listPage env (eventArgs env p) (fun args => do
    let db ← connectStateDb stateDb
    eventRows env db args) p.cursorNext

/-! ## The queue -/

inductive QueueOrder where
  | default | enqueuedAt | lastUpdatedAt
  deriving DecidableEq, Repr

structure QueueFilters where
  state : Option String
  senderAgentId : Option String
  targetAgentId : Option String
  since : Option Json
  upTo : Option Json

/-- `_QUEUE_ORDER_BY_FIELDS`. -/
def queueOrderBy : Option Json → Except Failure (OrderBy QueueOrder) :=
  validateOrderBy
    [("default", .default), ("enqueued_at", .enqueuedAt), ("last_updated_at", .lastUpdatedAt)]
    ("default", .default) .asc

def queueArgs (env : ListEnv) (p : ListParams) : Except Failure (ListArgs QueueFilters QueueOrder) := do
  let limit ← validateLimit p.limit
  let order ← queueOrderBy p.orderBy
  let raw ← validateFiltersObject "queue"
    ["state", "sender_agent_id", "target_agent_id", "since", "until"] p.filters
  let state ← stringFilter raw "state"
  let senderAgentId ← stringFilter raw "sender_agent_id"
  let targetAgentId ← stringFilter raw "target_agent_id"
  let since := filterValue raw "since"
  let upTo := filterValue raw "until"
  checkTimeRange env "app_queue_list" since upTo
  pure ⟨limit, order, raw, state, senderAgentId, targetAgentId, since, upTo⟩

def statePriority : QueueState → Nat
  | .queued => 1
  | .blocked => 2
  | .failed => 3
  | .delivered => 4
  | .canceled => 5

structure QueueView where
  messageId : String
  state : QueueState
  statePriority : Nat
  blockReason : Option BlockReason
  failureReason : Option FailureReason
  senderAgentId : String
  targetAgentId : String
  payloadPreview : String
  enqueuedAt : String
  lastUpdatedAt : String
  deriving DecidableEq, Repr

def queueView (r : QueueRow) : QueueView where
  messageId := r.messageId
  state := r.state
  statePriority := statePriority r.state
  blockReason := r.blockReason
  failureReason := r.failureReason
  senderAgentId := r.senderAgentId
  targetAgentId := r.targetAgentId
  payloadPreview := ""
  enqueuedAt := r.enqueuedAt
  lastUpdatedAt := r.lastUpdatedAt

def QueueOrder.cmp : QueueOrder → QueueView → QueueView → Ordering
  | .default, a, b =>
    (compare a.statePriority b.statePriority).then (compare a.enqueuedAt b.enqueuedAt)
  | .enqueuedAt, a, b => compare a.enqueuedAt b.enqueuedAt
  | .lastUpdatedAt, a, b => compare a.lastUpdatedAt b.lastUpdatedAt

/-- The `WHERE` clause. -/
def QueueFilters.selects (env : ListEnv) (f : QueueFilters) (r : QueueRow) : Bool :=
  f.state.all (fun s => decide (r.state.text = s)) &&
    f.senderAgentId.all (fun a => decide (r.senderAgentId = a)) &&
      f.targetAgentId.all (fun a => decide (r.targetAgentId = a)) &&
        inTimeRange env f.since f.upTo r.enqueuedAt

def queueRows (env : ListEnv) (db : ListDb) (args : ListArgs QueueFilters QueueOrder) :
    Except Failure (List QueueView) := do
  checkBind "app_queue_list" args.filters.since
  checkBind "app_queue_list" args.filters.upTo
  let dbRows := db.messageQueue.rows.filter (args.filters.selects env)
  pure (sortRows args.order.field.cmp args.order.direction (dbRows.map queueView))

def appQueueList (env : ListEnv) (stateDb : Option ListDb) (p : ListParams) :
    Except Failure (ListPage QueueView) :=
  listPage env (queueArgs env p) (fun args => do
    let db ← connectStateDb stateDb
    queueRows env db args) p.cursorNext

end AgentTower.App
