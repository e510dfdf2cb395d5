import AgentTower.Routing.KillSwitch
import AgentTower.Routing.Recovery
import AgentTower.Routing.Send

/-!
# The daemon around the queue

`QueueService` with any number of threads in its methods, the one delivery worker, the kill switch and
the agent registry.  A step is one transaction, one read that a later transaction relies on, or one
tmux call; between two steps of a thread every other thread may run.  A crash ends all threads and
keeps the tables; the next boot runs the recovery and only then serves.

`is_enabled` and `_set` hold the lock of the kill switch and are one step each; `read_full` is two.
-/

namespace AgentTower.Routing.Daemon

open KillSwitch (FlagValue)
open MessageQueueDao (snapshotInFlightIdentities pickNextReadyRow)

/-- Who calls `send_input`: an agent's pane (or the master that a route picked), or the app. -/
inductive Sender where
  | agent (agentId : String)
  | hostOperator
  deriving DecidableEq, Repr

def hostOperatorSender : AgentRecord where
  agentId := "host-operator"
  containerId := ""
  tmuxPaneId := ""
  role := .master
  capability := ""
  label := "host-operator"
  active := true

/-- The record that the dispatcher passes on; an inactive or unknown agent is refused there. -/
def Sender.record (agents : List AgentRecord) : Sender → Option AgentRecord
  | .agent agentId => (getAgentById agents agentId).filter AgentRecord.active
  | .hostOperator => some hostOperatorSender

/-! ## The audit record of each transition -/

def enqueued (env : Env) (m : NewMessage) (decision : Decision) : QueueTransition where
  eventType := .enqueued
  messageId := m.messageId
  fromState := none
  toState := decision.toState
  reason := decision.reason.map .block
  operator := none
  observedAt := m.enqueuedAt
  sender := some m.sender
  target := some m.target
  excerpt := env.renderExcerpt m.envelopeBody

def rowTransition (eventType : TransitionEvent) (row : QueueRow) (fromState toState : QueueState)
    (reason : Option TransitionReason) (operator : Option String) (ts : String) :
    QueueTransition where
  eventType := eventType
  messageId := row.messageId
  fromState := some fromState
  toState := toState
  reason := reason
  operator := operator
  observedAt := ts
  sender := some row.sender
  target := some row.target
  excerpt := ""

def approved (row : QueueRow) (operator ts : String) : QueueTransition :=
  rowTransition .approved row .blocked .queued (row.blockReason.map .block) (some operator) ts

def delayed (row : QueueRow) (operator ts : String) : QueueTransition :=
  rowTransition .delayed row .queued .blocked (some (.block .operatorDelayed)) (some operator) ts

def blockedAgain (row : QueueRow) (reason : BlockReason) (ts : String) : QueueTransition :=
  rowTransition .blocked row .queued .blocked (some (.block reason)) none ts

def failed (row : QueueRow) (reason : FailureReason) (ts : String) : QueueTransition :=
  rowTransition .failed row .queued .failed (some (.failure reason)) none ts

def delivered (env : Env) (row : QueueRow) (body : List UInt8) (ts : String) : QueueTransition :=
  { rowTransition .delivered row .queued .delivered none none ts with
    excerpt := env.renderExcerpt body }

/-- `cancel` goes on without a row and leaves the error to the DAO. -/
def canceled (messageId : String) (preRow : Option QueueRow) (operator ts : String) :
    QueueTransition where
  eventType := .canceled
  messageId := messageId
  fromState := preRow.map QueueRow.state
  toState := .canceled
  reason := none
  operator := some operator
  observedAt := ts
  sender := preRow.map QueueRow.sender
  target := preRow.map QueueRow.target
  excerpt := ""

/-! ## State -/

/-- A method of `QueueService` or `read_full`, between two steps. -/
inductive Call where
  | idle
  | sendInput (sender : AgentRecord) (request : SendRequest)
  | insert (m : NewMessage) (decision : Decision) (sender target : AgentRecord)
  | approveCheck (row : QueueRow) (operator : String)
  | approve (row : QueueRow) (operator : String)
  | delay (row : QueueRow) (operator : String)
  | cancel (messageId : String) (preRow : Option QueueRow) (operator : String)
  | readFull (value : FlagValue)
  deriving DecidableEq, Repr

/-- The delivery worker, between two steps of its loop. -/
inductive Worker where
  | idle
  | polled
  | picked (row : QueueRow)
  | rechecked (row : QueueRow)
  | blocking (row : QueueRow) (reason : BlockReason)
  | resolved (row : QueueRow)
  | stamped (row : QueueRow)
  | loading (row : QueueRow) (body : List UInt8)
  | loaded (row : QueueRow) (body : List UInt8)
  | pasted (row : QueueRow) (body : List UInt8)
  | submitted (row : QueueRow) (body : List UInt8)
  | failing (row : QueueRow) (reason : FailureReason)
  | dead
  deriving DecidableEq, Repr

/-- A committed send, with the records that its gate looked at. -/
structure Send where
  messageId : String
  sender : AgentRecord
  target : AgentRecord
  deriving DecidableEq, Repr

/-- A started paste, with the committed state of the row at that time. -/
structure Paste where
  messageId : String
  state : Option QueueState
  deriving DecidableEq, Repr

/-- A committed approve, with the row's reason and the stored flag just before the commit. -/
structure Approval where
  messageId : String
  blockReason : Option BlockReason
  flag : FlagValue
  deriving DecidableEq, Repr

/-- `audit` holds the queue's rows of `events` in commit order; `sends`, `pastes` and `approvals`
are history. -/
structure State where
  messageQueue : MessageQueue
  audit : List QueueTransition
  flag : FlagValue
  agents : List AgentRecord
  running : Bool
  cachedValue : Option FlagValue
  calls : Nat → Call
  worker : Worker
  sends : List Send
  pastes : List Paste
  approvals : List Approval

namespace State

def init (agents : List AgentRecord) (flag : FlagValue) : State where
  messageQueue := Sql.Table.empty
  audit := []
  flag := flag
  agents := agents
  running := false
  cachedValue := none
  calls := fun _ => .idle
  worker := .idle
  sends := []
  pastes := []
  approvals := []

variable (s : State)

def goto (t : Nat) (call : Call) : State :=
  { s with calls := fun u => if u = t then call else s.calls u }

def work (worker : Worker) : State := { s with worker }

def flagSeen : FlagValue := s.cachedValue.getD s.flag

def isEnabled : Bool := decide (s.flagSeen = .enabled)

def filled : State := { s with cachedValue := some s.flagSeen }

/-- A transition with its audit callback; the callback looks up the target's `agent_id`. -/
def transact (op : DaoOp) (record : QueueTransition) : Except PyExc State :=
  match op.apply s.messageQueue with
  | .error e => .error e
  | .ok q =>
    match record.target with
    | none => .error ⟨.keyError, none, "'agent_id'"⟩
    | some _ => .ok { s with messageQueue := q, audit := s.audit ++ [record] }

def recordSend (x : Send) : State := { s with sends := s.sends ++ [x] }

def recordPaste (x : Paste) : State := { s with pastes := s.pastes ++ [x] }

def recordApproval (x : Approval) : State := { s with approvals := s.approvals ++ [x] }

def store (value : FlagValue) : State := { s with cachedValue := some value }

def crashed : State :=
  { s with running := false, cachedValue := none, calls := fun _ => .idle, worker := .idle }

end State

/-! ## Steps of the calls -/

def gate (env : Env) (s : State) (sender : AgentRecord) (request : SendRequest)
    (messageId ts : String) (containerActive paneResolvable : Bool) : Except PyExc Call := do
  let (m, decision, target) ← prepareSend env s.agents s.isEnabled sender request messageId ts
    containerActive paneResolvable
  pure (.insert m decision sender target)

def operatorResolvable (reason : BlockReason) : Bool :=
  decide (reason ∈ [.operatorDelayed, .targetNotActive, .targetPaneMissing,
    .targetContainerInactive])

def checkApproveApplicable (row : QueueRow) (enabled : Bool) : Except PyExc Unit :=
  match row.blockReason with
  | none =>
    .error (queueServiceError .approvalNotApplicable "block_reason=None is not operator-resolvable")
  | some reason =>
    if operatorResolvable reason then .ok ()
    else if reason = .killSwitchOff then
      if enabled then .ok ()
      else
        .error (queueServiceError .approvalNotApplicable
          "cannot approve kill_switch_off rows while routing is disabled")
    else
      .error (queueServiceError .approvalNotApplicable
        ("block_reason=" ++ pyRepr reason.text ++ " is not operator-resolvable"))

/-- The check that `approve` makes on the row it has read; any other state is left to the DAO. -/
def approveCheck (s : State) (row : QueueRow) : Except PyExc Unit :=
  if row.state = .blocked then checkApproveApplicable row s.isEnabled else .ok ()

/-- The check asks the kill switch only about a `kill_switch_off` row. -/
def afterApproveCheck (s : State) (row : QueueRow) : State :=
  if row.state = .blocked ∧ row.blockReason = some .killSwitchOff then s.filled else s

/-- The transaction at the end of a call, with its audit record; `ts` is the clock reading. -/
def Call.transition (env : Env) (ts : String) : Call → Option (DaoOp × QueueTransition)
  | .insert m decision _ _ => some (decision.insert m, enqueued env m decision)
  | .approve row operator =>
    some (.transitionBlockedToQueuedApprove row.messageId operator ts, approved row operator ts)
  | .delay row operator =>
    some (.transitionQueuedToBlockedDelay row.messageId operator ts, delayed row operator ts)
  | .cancel messageId preRow operator =>
    some (.transitionToCanceled messageId operator ts, canceled messageId preRow operator ts)
  | _ => none

/-- The history that a committed call adds to; `s` is the state before the commit. -/
def Call.record (s : State) (s' : State) : Call → State
  | .insert m _ sender target => s'.recordSend ⟨m.messageId, sender, target⟩
  | .approve row _ =>
    s'.recordApproval
      ⟨row.messageId, (s.messageQueue.get row.messageId).bind QueueRow.blockReason, s.flag⟩
  | _ => s'

def commitCall (env : Env) (s : State) (t : Nat) (ts : String) : Option State :=
  match (s.calls t).transition env ts with
  | none => none
  | some (op, record) =>
    match s.transact op record with
    -- the transaction is rolled back, the audit row with it
    | .error _ => some (s.goto t .idle)
    | .ok s' => some (((s.calls t).record s s').goto t .idle)

/-- What a thread in a call does next; the arguments are what it reads from outside.  A call that
raises, a lock conflict on its last retry included, has written nothing. -/
inductive CallLabel where
  | sendInput (sender : Sender) (request : SendRequest)
  | gate (messageId ts : String) (containerActive paneResolvable : Bool)
  | approve (messageId operator : String)
  | approveCheck
  | delay (messageId operator : String)
  | cancel (messageId operator : String)
  | readFull
  | storeFlag
  | commit (ts : String)
  | raise
  deriving DecidableEq, Repr

def stepCall (env : Env) (s : State) (t : Nat) : CallLabel → Option State
  | .sendInput sender request =>
    if s.calls t = .idle then
      match sender.record s.agents with
      | none => some s
      | some record => some (s.goto t (.sendInput record request))
    else none
  -- the gate's reads are one step: the decision depends on their values, not on their order
  | .gate messageId ts containerActive paneResolvable =>
    match s.calls t with
    | .sendInput sender request =>
      match gate env s sender request messageId ts containerActive paneResolvable with
      | .error _ => some (s.goto t .idle)
      | .ok call => some (s.filled.goto t call)
    | _ => none
  -- `get_row_by_id`; the row is not read again before the transaction
  | .approve messageId operator =>
    if s.calls t = .idle then
      match s.messageQueue.get messageId with
      | none => some s
      | some row => some (s.goto t (.approveCheck row operator))
    else none
  | .approveCheck =>
    match s.calls t with
    | .approveCheck row operator =>
      match approveCheck s row with
      | .error _ => some ((afterApproveCheck s row).goto t .idle)
      | .ok () => some ((afterApproveCheck s row).goto t (.approve row operator))
    | _ => none
  | .delay messageId operator =>
    if s.calls t = .idle then
      match s.messageQueue.get messageId with
      | none => some s
      | some row => some (s.goto t (.delay row operator))
    else none
  -- an unknown id is left to the DAO, which raises; the audit record then has no row to describe
  | .cancel messageId operator =>
    if s.calls t = .idle then
      some (s.goto t (.cancel messageId (s.messageQueue.get messageId) operator))
    else none
  -- `read_full` reads outside the lock and stores later, over whatever a toggle has put there
  | .readFull => if s.calls t = .idle then some (s.goto t (.readFull s.flag)) else none
  | .storeFlag =>
    match s.calls t with
    | .readFull value => some ((s.store value).goto t .idle)
    | _ => none
  | .commit ts => commitCall env s t ts
  | .raise => some (s.goto t .idle)

/-! ## Steps of the worker -/

inductive WorkerLabel where
  | poll
  | pick
  | recheck (containerActive paneResolvable : Bool)
  | resolve (succeeds : Bool)
  | commit (ts : String)
  | lockConflict
  | readBody
  | load
  | paste
  | submit
  | tmuxError (failureReason : Option FailureReason)
  | raise
  deriving DecidableEq, Repr

def Worker.transition (env : Env) (ts : String) : Worker → Option (DaoOp × QueueTransition)
  | .blocking row reason =>
    some (.transitionQueuedToBlockedReCheck row.messageId reason ts, blockedAgain row reason ts)
  | .submitted row body =>
    some (.transitionQueuedToDelivered row.messageId ts, delivered env row body ts)
  | .failing row reason =>
    some (.transitionQueuedToFailed row.messageId reason ts, failed row reason ts)
  | _ => none

def commitWorker (env : Env) (s : State) (ts : String) : Option State :=
  match s.worker.transition env ts with
  | none => none
  | some (op, record) =>
    match s.transact op record with
    | .error _ => some (s.work .idle)
    | .ok s' => some (s'.work .idle)

def stepWorker (env : Env) (s : State) (l : WorkerLabel) : Option State :=
  match s.worker, l with
  -- with the switch off the loop sleeps and looks again
  | .idle, .poll => some (s.filled.work (if s.isEnabled then .polled else .idle))
  | .polled, .pick =>
    match pickNextReadyRow s.messageQueue with
    | none => some (s.work .idle)
    | some row => some (s.work (.picked row))
  | .picked row, .recheck containerActive paneResolvable =>
    match getAgentById s.agents row.targetAgentId with
    -- a target that is gone from the registry counts as inactive
    | none => some (s.work (.blocking row .targetNotActive))
    | some target =>
      match recheckTargetOnly target s.isEnabled containerActive paneResolvable with
      | .allow => some (s.filled.work (.rechecked row))
      | .block reason => some (s.filled.work (.blocking row reason))
  | .rechecked row, .resolve succeeds =>
    some (s.work (if succeeds then .resolved row else .blocking row .targetPaneMissing))
  | .resolved row, .commit ts =>
    -- the stamp is the one transition without an audit row
    match (DaoOp.stampDeliveryAttemptStarted row.messageId ts).apply s.messageQueue with
    | .error _ => some (s.work .idle)
    | .ok q => some { s with messageQueue := q, worker := .stamped row }
  -- the body is read after the stamp; the row cannot be gone, nothing deletes rows
  | .stamped row, .readBody =>
    match s.messageQueue.get row.messageId with
    | none => some (s.work .idle)
    | some stored => some (s.work (.loading row stored.envelopeBody))
  | .loading row body, .load => some (s.work (.loaded row body))
  -- from here on the pane may have the text, whatever happens to the process
  | .loaded row body, .paste =>
    let state := (s.messageQueue.get row.messageId).map QueueRow.state
    some ((s.recordPaste ⟨row.messageId, state⟩).work (.pasted row body))
  | .pasted row body, .submit => some (s.work (.submitted row body))
  | .loading row _, .tmuxError failureReason | .pasted row _, .tmuxError failureReason =>
    some (s.work (.failing row (failureReason.getD .tmuxPasteFailed)))
  -- the text is in the pane and the row cannot be marked delivered: it is marked failed
  | .submitted row _, .lockConflict => some (s.work (.failing row .sqliteLockConflict))
  | .blocking _ _, .lockConflict | .resolved _, .lockConflict | .failing _ _, .lockConflict =>
    some (s.work .idle)
  | _, .commit ts => commitWorker env s ts
  -- `is_enabled` at the top of the loop is outside every `try`
  | .idle, .raise => some (s.work .dead)
  | .dead, .raise => none
  | _, .raise => some (s.work .idle)
  | _, _ => none

inductive Label where
  | call (thread : Nat) (l : CallLabel)
  | worker (l : WorkerLabel)
  | toggle (value : FlagValue)
  | register (agents : List AgentRecord)
  | crash
  | boot (ts : String)
  deriving DecidableEq, Repr

def boot (s : State) (ts : String) : Option State :=
  match (DaoOp.recoverInFlightRows ts).apply s.messageQueue with
  | .error _ => none
  | .ok q =>
    some { s.crashed with
      messageQueue := q
      audit := s.audit ++
        (snapshotInFlightIdentities s.messageQueue).map (Recovery.recoveredTransition ts)
      running := true }

def step (env : Env) (s : State) : Label → Option State
  | .call t l => if s.running then stepCall env s t l else none
  | .worker l => if s.running then stepWorker env s l else none
  | .toggle value =>
    if s.running then some { s with flag := value, cachedValue := some value } else none
  | .register agents => some { s with agents }
  | .crash => some s.crashed
  | .boot ts => if s.running then none else boot s ts

end AgentTower.Routing.Daemon
