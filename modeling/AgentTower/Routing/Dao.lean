import AgentTower.Lib.Table
import AgentTower.Routing.Envelope

/-!
# The `message_queue` table and its DAO

A method of `MessageQueueDao` is the effect of its transaction on the table: the new table if it
commits, the exception if it rolls back.  The spec lemma of a method says which row it replaced and by
what.
-/

namespace AgentTower.Routing

open Sql Table
open Fallible (bind_eq_ok)

structure QueueRow where
  messageId : String
  state : QueueState
  blockReason : Option BlockReason
  failureReason : Option FailureReason
  senderAgentId : String
  senderLabel : String
  senderRole : Role
  senderCapability : Option String
  targetAgentId : String
  targetLabel : String
  targetRole : Role
  targetCapability : Option String
  targetContainerId : String
  targetPaneId : String
  envelopeBody : List UInt8
  envelopeBodySha256 : String
  envelopeSizeBytes : Nat
  enqueuedAt : String
  deliveryAttemptStartedAt : Option String
  deliveredAt : Option String
  failedAt : Option String
  canceledAt : Option String
  lastUpdatedAt : String
  operatorAction : Option OperatorAction
  operatorActionAt : Option String
  operatorActionBy : Option String
  origin : Origin
  routeId : Option String
  eventId : Option Nat
  deriving DecidableEq, Repr

namespace QueueRow

variable (r : QueueRow)

/-- `idx_message_queue_route_event`: SQLite lets rows with a NULL in the index repeat. -/
def routeEvent : Option (String × Nat) :=
  match r.origin, r.routeId, r.eventId with
  | .route, some route, some event => some (route, event)
  | _, _, _ => none

/-- The `CHECK` clauses of the table that the column types do not express. -/
def checkOk : Bool :=
  decide (0 < r.envelopeSizeBytes) &&
  (r.blockReason.isNone || decide (r.state = .blocked)) &&
  (r.failureReason.isNone || decide (r.state = .failed)) &&
  ((r.operatorAction.isNone && r.operatorActionAt.isNone && r.operatorActionBy.isNone) ||
    (r.operatorAction.isSome && r.operatorActionAt.isSome && r.operatorActionBy.isSome)) &&
  (decide (r.state ≠ .delivered) || r.deliveredAt.isSome) &&
  (decide (r.state ≠ .failed) || r.failedAt.isSome) &&
  (decide (r.state ≠ .canceled) || r.canceledAt.isSome)

/-- `delivery_attempt_started_at` is set and no terminal stamp is. -/
def inFlight : Bool :=
  r.deliveryAttemptStartedAt.isSome && r.deliveredAt.isNone && r.failedAt.isNone &&
    r.canceledAt.isNone

/-- `queued` without an in-flight stamp: what the live worker may claim. -/
def ready : Bool :=
  decide (r.state = .queued) && r.deliveryAttemptStartedAt.isNone

def sender : EnvelopeIdentity :=
  ⟨r.senderAgentId, r.senderLabel, r.senderRole, r.senderCapability⟩

def target : EnvelopeIdentity :=
  ⟨r.targetAgentId, r.targetLabel, r.targetRole, r.targetCapability⟩

end QueueRow

abbrev MessageQueue := Table QueueRow.messageId QueueRow.routeEvent QueueRow.checkOk

abbrev RowPatch := Patch QueueRow.messageId QueueRow.routeEvent

structure NewMessage where
  messageId : String
  sender : EnvelopeIdentity
  target : EnvelopeIdentity
  containerId : String
  paneId : String
  envelopeBody : List UInt8
  envelopeBodySha256 : String
  envelopeSizeBytes : Nat
  enqueuedAt : String
  origin : Origin
  routeId : Option String
  eventId : Option Nat
  deriving DecidableEq, Repr

def NewMessage.row (m : NewMessage) (state : QueueState) (blockReason : Option BlockReason) :
    QueueRow where
  messageId := m.messageId
  state := state
  blockReason := blockReason
  failureReason := none
  senderAgentId := m.sender.agentId
  senderLabel := m.sender.label
  senderRole := m.sender.role
  senderCapability := m.sender.capability
  targetAgentId := m.target.agentId
  targetLabel := m.target.label
  targetRole := m.target.role
  targetCapability := m.target.capability
  targetContainerId := m.containerId
  targetPaneId := m.paneId
  envelopeBody := m.envelopeBody
  envelopeBodySha256 := m.envelopeBodySha256
  envelopeSizeBytes := m.envelopeSizeBytes
  enqueuedAt := m.enqueuedAt
  deliveryAttemptStartedAt := none
  deliveredAt := none
  failedAt := none
  canceledAt := none
  lastUpdatedAt := m.enqueuedAt
  operatorAction := none
  operatorActionAt := none
  operatorActionBy := none
  origin := m.origin
  routeId := m.routeId
  eventId := m.eventId

namespace MessageQueueDao

section

variable (q : MessageQueue)

def insertRow (r : QueueRow) : Except PyExc MessageQueue :=
  match q.insert r with
  | some q' => .ok q'
  | none =>
    .error <| integrityError <|
      if r.messageId ∈ q.rows.map QueueRow.messageId then
        "UNIQUE constraint failed: message_queue.message_id"
      else if r.checkOk then
        "UNIQUE constraint failed: message_queue.route_id, message_queue.event_id"
      else "CHECK constraint failed: message_queue"

def runUpdate (sel : QueueRow → Bool) (p : RowPatch) :
    Except PyExc MessageQueue :=
  match q.update sel p with
  | some q' => .ok q'
  | none => .error (integrityError "CHECK constraint failed: message_queue")

/-- An `UPDATE` that must touch a row: with `rowcount == 0` the method rolls back and raises. -/
def updateOne (sel : QueueRow → Bool) (p : RowPatch) (missing : PyExc) :
    Except PyExc MessageQueue :=
  if q.rowcount sel = 0 then .error missing else runUpdate q sel p

def insertQueued (m : NewMessage) : Except PyExc MessageQueue :=
  insertRow q (m.row .queued none)

def insertBlocked (m : NewMessage) (blockReason : BlockReason) :
    Except PyExc MessageQueue :=
  insertRow q (m.row .blocked (some blockReason))

end

/-! ## Worker transitions -/

def stampPatch (ts : String) : RowPatch where
  set r := { r with deliveryAttemptStartedAt := some ts, lastUpdatedAt := ts }
  key_set _ := rfl
  index_set _ := rfl

def stampDeliveryAttemptStarted (q : MessageQueue) (messageId ts : String) :
    Except PyExc MessageQueue :=
  updateOne q (fun r => decide (r.messageId = messageId) && r.ready) (stampPatch ts)
    (queueServiceError .deliveryInProgress
      ("message " ++ messageId ++ " not in queued+unstamped state"))

/-- `_terminal_transition_from_in_flight`; the patch is the `SET` list built from its arguments. -/
def terminalTransitionFromInFlight (q : MessageQueue) (messageId : String) (p : RowPatch) :
    Except PyExc MessageQueue :=
  updateOne q
    (fun r => decide (r.messageId = messageId) && decide (r.state = .queued) && r.inFlight) p
    (queueServiceError .messageIdNotFound ("message " ++ messageId ++ " not in in-flight state"))

def deliveredPatch (ts : String) : RowPatch where
  set r := { r with state := .delivered, deliveredAt := some ts, lastUpdatedAt := ts }
  key_set _ := rfl
  index_set _ := rfl

def transitionQueuedToDelivered (q : MessageQueue) (messageId ts : String) :
    Except PyExc MessageQueue :=
  terminalTransitionFromInFlight q messageId (deliveredPatch ts)

def failedPatch (failureReason : FailureReason) (ts : String) : RowPatch where
  set r :=
    { r with
      state := .failed, failedAt := some ts, lastUpdatedAt := ts
      failureReason := some failureReason }
  key_set _ := rfl
  index_set _ := rfl

def transitionQueuedToFailed (q : MessageQueue) (messageId : String)
    (failureReason : FailureReason) (ts : String) : Except PyExc MessageQueue :=
  terminalTransitionFromInFlight q messageId (failedPatch failureReason ts)

def recheckPatch (blockReason : BlockReason) (ts : String) : RowPatch where
  set r := { r with state := .blocked, blockReason := some blockReason, lastUpdatedAt := ts }
  key_set _ := rfl
  index_set _ := rfl

def transitionQueuedToBlockedReCheck (q : MessageQueue) (messageId : String)
    (blockReason : BlockReason) (ts : String) : Except PyExc MessageQueue :=
  updateOne q (fun r => decide (r.messageId = messageId) && r.ready) (recheckPatch blockReason ts)
    (queueServiceError .messageIdNotFound
      ("message " ++ messageId ++ " not in queued+unstamped state"))

/-! ## Operator transitions -/

/-- The checks that `_operator_transition` and `transition_to_canceled` share. -/
def operatorPrecheck (q : MessageQueue) (messageId : String) : Except PyExc QueueRow :=
  match q.get messageId with
  | none =>
    .error (queueServiceError .messageIdNotFound ("unknown message_id " ++ pyRepr messageId))
  | some row =>
    if row.state.terminal then
      .error (queueServiceError .terminalStateCannotChange
        ("row in terminal state " ++ pyRepr row.state.text))
    else if row.inFlight then
      .error (queueServiceError .deliveryInProgress ("message " ++ messageId ++ " is mid-delivery"))
    else .ok row

def notApplicable (action : OperatorAction) (state : QueueState) : PyExc :=
  match action with
  | .approved =>
    queueServiceError .approvalNotApplicable
      ("approve requires state='blocked'; got " ++ pyRepr state.text)
  | .delayed =>
    queueServiceError .delayNotApplicable
      ("delay requires state='queued'; got " ++ pyRepr state.text)
  | .canceled =>
    queueServiceError .terminalStateCannotChange
      ("transition not applicable from " ++ pyRepr state.text)

def raceAborted (action : OperatorAction) (fromState : QueueState) : PyExc :=
  match action with
  | .approved =>
    queueServiceError .approvalNotApplicable
      ("approve race-aborted: row state changed during transition (expected "
        ++ pyRepr fromState.text ++ ")")
  | .delayed =>
    queueServiceError .delayNotApplicable
      ("delay race-aborted: row state changed during transition (expected "
        ++ pyRepr fromState.text ++ ")")
  | .canceled =>
    queueServiceError .terminalStateCannotChange
      ("operator transition race-aborted: row state changed during transition (expected "
        ++ pyRepr fromState.text ++ ")")

def operatorPatch (fromState toState : QueueState) (action : OperatorAction)
    (blockReasonNew : Option BlockReason) (operator ts : String) : RowPatch where
  set r :=
    { r with
      state := toState
      lastUpdatedAt := ts
      operatorAction := some action
      operatorActionAt := some ts
      operatorActionBy := some operator
      -- cleared on `blocked → queued`, kept when no new reason is given otherwise
      blockReason :=
        match blockReasonNew with
        | some reason => some reason
        | none => if fromState = .blocked ∧ toState = .queued then none else r.blockReason }
  key_set _ := rfl
  index_set _ := rfl

section

variable (q : MessageQueue) (messageId operator ts : String)

def operatorTransition (fromState toState : QueueState) (action : OperatorAction)
    (blockReasonNew : Option BlockReason) : Except PyExc MessageQueue := do
  let row ← operatorPrecheck q messageId
  -- the check and the `UPDATE` are in one transaction, so the race cannot be lost in between
  if row.state ≠ fromState then .error (notApplicable action row.state)
  else
    updateOne q (fun r => decide (r.messageId = messageId) && decide (r.state = fromState))
      (operatorPatch fromState toState action blockReasonNew operator ts)
      (raceAborted action fromState)

def transitionBlockedToQueuedApprove :
    Except PyExc MessageQueue :=
  operatorTransition q messageId operator ts .blocked .queued .approved none

def transitionQueuedToBlockedDelay :
    Except PyExc MessageQueue :=
  operatorTransition q messageId operator ts .queued .blocked .delayed (some .operatorDelayed)

end

def canceledPatch (operator ts : String) : RowPatch where
  set r :=
    { r with
      state := .canceled
      canceledAt := some ts
      lastUpdatedAt := ts
      blockReason := none
      operatorAction := some .canceled
      operatorActionAt := some ts
      operatorActionBy := some operator }
  key_set _ := rfl
  index_set _ := rfl

def transitionToCanceled (q : MessageQueue) (messageId operator ts : String) :
    Except PyExc MessageQueue := do
  let _ ← operatorPrecheck q messageId
  updateOne q (fun r => decide (r.messageId = messageId) && decide (r.state ∈ [.queued, .blocked]))
    (canceledPatch operator ts)
    (queueServiceError .messageIdNotFound ("message " ++ messageId ++ " state changed mid-cancel"))

def recoveredPatch (ts : String) : RowPatch := failedPatch .attemptInterrupted ts

def snapshotInFlightIdentities (q : MessageQueue) :
    List (String × EnvelopeIdentity × EnvelopeIdentity) :=
  (q.rows.filter QueueRow.inFlight).map fun r => (r.messageId, r.sender, r.target)

def recoverInFlightRows (q : MessageQueue) (ts : String) : Except PyExc MessageQueue :=
  runUpdate q QueueRow.inFlight (recoveredPatch ts)

/-! ## Reads -/

def enqueuedBefore (a b : QueueRow) : Bool :=
  decide (a.enqueuedAt < b.enqueuedAt) ||
    (decide (a.enqueuedAt = b.enqueuedAt) && decide (a.messageId < b.messageId))

def pickNextReadyRow (q : MessageQueue) : Option QueueRow :=
  (q.rows.filter QueueRow.ready).foldl
    (fun best r =>
      match best with
      | none => some r
      | some b => if enqueuedBefore r b then some r else some b)
    none

/-! ## What a committed method did

Every method but the recovery touches one row.  `Inserted` and `Replaced` say so through the
lookup by `message_id`. -/

structure Inserted (q q' : MessageQueue) (r : QueueRow) : Prop where
  fresh : q.get r.messageId = none
  after : ∀ k, q'.get k = if k = r.messageId then some r else q.get k

structure Replaced (q q' : MessageQueue) (messageId : String) (r r' : QueueRow) : Prop where
  before : q.get messageId = some r
  after : ∀ k, q'.get k = if k = messageId then some r' else q.get k

section Spec

variable {q q' : MessageQueue} {messageId operator ts : String}

theorem insertRow_ok {r : QueueRow} (h : insertRow q r = .ok q') : Inserted q q' r := by
  unfold insertRow at h
  split at h <;> cases h
  rename_i hinsert
  exact ⟨(insert_eq_some hinsert).1, get_insert hinsert⟩

theorem insertRow_error {r : QueueRow} {e : PyExc} (h : insertRow q r = .error e) :
    e.code = none ∧ q.insert r = none := by
  unfold insertRow at h
  split at h <;> cases h
  rename_i hinsert
  exact ⟨rfl, hinsert⟩

theorem updateOne_ok (messageId : String) {sel : QueueRow → Bool} {p : RowPatch} {missing : PyExc}
    (h : updateOne q sel p missing = .ok q') (hkey : ∀ r, sel r = true → r.messageId = messageId) :
    ∃ r, sel r = true ∧ Replaced q q' messageId r (p.set r) := by
  unfold updateOne runUpdate at h
  split_ifs at h with hcount
  split at h <;> cases h
  rename_i hupdate
  obtain ⟨r, hget, hsel, hafter⟩ := get_update_point hupdate hcount hkey
  exact ⟨r, hsel, hget, hafter⟩

theorem stampDeliveryAttemptStarted_ok (h : stampDeliveryAttemptStarted q messageId ts = .ok q') :
    ∃ r, r.ready = true ∧ Replaced q q' messageId r ((stampPatch ts).set r) := by
  obtain ⟨r, hsel, hr⟩ := updateOne_ok messageId h (by simp +contextual)
  exact ⟨r, by simp_all, hr⟩

theorem terminalTransitionFromInFlight_ok {p : RowPatch}
    (h : terminalTransitionFromInFlight q messageId p = .ok q') :
    ∃ r, r.state = .queued ∧ r.inFlight = true ∧ Replaced q q' messageId r (p.set r) := by
  obtain ⟨r, hsel, hr⟩ := updateOne_ok messageId h (by simp +contextual)
  simp only [Bool.and_eq_true, decide_eq_true_eq] at hsel
  exact ⟨r, hsel.1.2, hsel.2, hr⟩

theorem transitionQueuedToBlockedReCheck_ok {blockReason : BlockReason}
    (h : transitionQueuedToBlockedReCheck q messageId blockReason ts = .ok q') :
    ∃ r, r.ready = true ∧ Replaced q q' messageId r ((recheckPatch blockReason ts).set r) := by
  obtain ⟨r, hsel, hr⟩ := updateOne_ok messageId h (by simp +contextual)
  exact ⟨r, by simp_all, hr⟩

theorem operatorPrecheck_ok {r : QueueRow} (h : operatorPrecheck q messageId = .ok r) :
    q.get messageId = some r ∧ r.state.terminal = false ∧ r.inFlight = false := by
  unfold operatorPrecheck at h
  split at h
  · cases h
  · rename_i hget
    split_ifs at h with hterminal hflight
    cases h
    exact ⟨hget, by simpa using hterminal, by simpa using hflight⟩

/-- The row that the pre-check read is the row that the `UPDATE` replaced: the transaction holds
the write lock in between. -/
theorem operatorTransition_ok {fromState toState : QueueState} {action : OperatorAction}
    {blockReasonNew : Option BlockReason}
    (h : operatorTransition q messageId operator ts fromState toState action blockReasonNew
      = .ok q') :
    ∃ r, r.state = fromState ∧ r.inFlight = false ∧
      Replaced q q' messageId r
        ((operatorPatch fromState toState action blockReasonNew operator ts).set r) := by
  obtain ⟨row, hcheck, h⟩ := bind_eq_ok.mp h
  split_ifs at h with hstate
  obtain ⟨r, hsel, hr⟩ := updateOne_ok messageId h (by simp +contextual)
  obtain ⟨hget, -, hflight⟩ := operatorPrecheck_ok hcheck
  have hrow : row = r := Option.some.inj (hget.symm.trans hr.before)
  subst hrow
  exact ⟨row, not_not.mp hstate, hflight, hr⟩

theorem transitionToCanceled_ok (h : transitionToCanceled q messageId operator ts = .ok q') :
    ∃ r, (r.state = .queued ∨ r.state = .blocked) ∧ r.inFlight = false ∧
      Replaced q q' messageId r ((canceledPatch operator ts).set r) := by
  obtain ⟨row, hcheck, h⟩ := bind_eq_ok.mp h
  obtain ⟨r, hsel, hr⟩ := updateOne_ok messageId h (by simp +contextual)
  obtain ⟨hget, -, hflight⟩ := operatorPrecheck_ok hcheck
  have hrow : row = r := Option.some.inj (hget.symm.trans hr.before)
  subst hrow
  exact ⟨row, by simpa using (Bool.and_eq_true_iff.mp hsel).2, hflight, hr⟩

theorem recoverInFlightRows_ok (h : recoverInFlightRows q ts = .ok q') (k : String) :
    q'.get k
      = (q.get k).map fun r => if r.inFlight then (recoveredPatch ts).set r else r := by
  unfold recoverInFlightRows runUpdate at h
  split at h <;> cases h
  rename_i hupdate
  exact get_update hupdate k

end Spec

end MessageQueueDao

end AgentTower.Routing
