import AgentTower.Routing.DaoInvariant

/-!
# The gate of `send_input`

Steps 1 to 3 of `QueueService.send_input`, up to the transaction: the target is resolved, the envelope
rendered and measured, and the permission gate decides with which state the row goes in.
-/

namespace AgentTower.Routing

open Fallible (bind_eq_ok)

/-- The configured size limit and the library functions that the queue's logic does not look
into. -/
structure Env where
  renderExcerpt : List UInt8 → String
  sha256Hex : List UInt8 → String
  decodeErrorText : List UInt8 → String
  envelopeMaxBytes : Nat

structure SendRequest where
  target : String
  body : List UInt8
  origin : Origin
  routeId : Option String
  eventId : Option Nat
  deriving DecidableEq, Repr

/-- The arguments of the insert; `rendered` is the whole envelope, of which only the size is
stored. -/
def newMessage (env : Env) (messageId ts : String) (sender target : AgentRecord)
    (request : SendRequest) (rendered : List UInt8) : NewMessage where
  messageId := messageId
  sender := sender.identity
  target := target.identity
  containerId := target.containerId
  paneId := target.tmuxPaneId
  envelopeBody := request.body
  envelopeBodySha256 := env.sha256Hex request.body
  envelopeSizeBytes := rendered.length
  enqueuedAt := ts
  origin := request.origin
  routeId := request.routeId
  eventId := request.eventId

-- stated for any `rendered`, so that no proof computes the length of an envelope
theorem newMessage_envelopeSizeBytes (env : Env) (messageId ts : String)
    (sender target : AgentRecord) (request : SendRequest) (rendered : List UInt8) :
    (newMessage env messageId ts sender target request rendered).envelopeSizeBytes
      = rendered.length :=
  rfl

def prepareSend (env : Env) (agents : List AgentRecord) (routingEnabled : Bool)
    (sender : AgentRecord) (request : SendRequest) (messageId ts : String)
    (containerActive paneResolvable : Bool) :
    Except PyExc (NewMessage × Decision × AgentRecord) := do
  let target ← resolveTarget request.target agents
  let rendered ← serializeAndCheckSize env.decodeErrorText messageId sender.identity
    target.identity request.body env.envelopeMaxBytes
  let decision :=
    evaluateEnqueuePermissions sender target routingEnabled containerActive paneResolvable
  pure (newMessage env messageId ts sender target request rendered, decision, target)

variable {env : Env} {agents : List AgentRecord}
  {routingEnabled containerActive paneResolvable : Bool} {sender : AgentRecord}
  {request : SendRequest} {messageId ts : String} {m : NewMessage} {decision : Decision} {e : PyExc}
  {q q' : MessageQueue}

theorem prepareSend_ok {target : AgentRecord}
    (h : prepareSend env agents routingEnabled sender request messageId ts containerActive
      paneResolvable = .ok (m, decision, target)) :
    resolveTarget request.target agents = .ok target ∧
      m = newMessage env messageId ts sender target request
        (renderEnvelope messageId sender.identity target.identity request.body) ∧
      decision = evaluateEnqueuePermissions sender target routingEnabled containerActive
        paneResolvable := by
  obtain ⟨resolved, hresolve, h⟩ := bind_eq_ok.mp h
  obtain ⟨rendered, hrendered, h⟩ := bind_eq_ok.mp h
  obtain ⟨hm, hrest⟩ := Prod.mk.inj (Except.ok.inj h)
  obtain ⟨hdecision, htarget⟩ := Prod.mk.inj hrest
  subst htarget
  rw [← (serializeAndCheckSize_eq_ok hrendered).2.1]
  exact ⟨hresolve, hm.symm, hdecision.symm⟩

theorem prepareSend_error
    (h : prepareSend env agents routingEnabled sender request messageId ts containerActive
      paneResolvable = .error e) :
    e.isinstance .integrityError = false ∧ e.code ≠ some .sqliteLockConflict := by
  unfold prepareSend at h
  cases hresolve : resolveTarget request.target agents with
  | error e' =>
    rw [hresolve] at h
    cases h
    obtain ⟨hcls, hcode⟩ := resolveTarget_error hresolve
    exact ⟨by rw [PyExc.isinstance, hcls]; rfl, hcode⟩
  | ok resolved =>
    rw [hresolve] at h
    simp only [bind, Except.bind] at h
    split at h <;> cases h
    rename_i e' hrendered
    obtain ⟨hcls, hcode⟩ := serializeAndCheckSize_error hrendered
    exact ⟨by rw [PyExc.isinstance, hcls]; rfl, hcode⟩

/-! ## The insert -/

def Decision.toState : Decision → QueueState
  | .allow => .queued
  | .block _ => .blocked

def Decision.reason : Decision → Option BlockReason
  | .allow => none
  | .block reason => some reason

def Decision.insert (m : NewMessage) : Decision → DaoOp
  | .allow => .insertQueued m
  | .block reason => .insertBlocked m reason

theorem Decision.apply_insert (q : MessageQueue) (m : NewMessage) (decision : Decision) :
    (decision.insert m).apply q
      = MessageQueueDao.insertRow q (m.row decision.toState decision.reason) := by
  cases decision <;> rfl

theorem Decision.insert_ok (h : (decision.insert m).apply q = .ok q') :
    q.get m.messageId = none ∧ ∀ k, q'.get k =
      if k = m.messageId then some (m.row decision.toState decision.reason) else q.get k := by
  rw [Decision.apply_insert] at h
  have hinserted := MessageQueueDao.insertRow_ok h
  exact ⟨hinserted.fresh, hinserted.after⟩

theorem Decision.checkOk_row (decision : Decision) (hsize : 0 < m.envelopeSizeBytes) :
    (m.row decision.toState decision.reason).checkOk = true := by
  cases decision <;>
    simp [QueueRow.checkOk, NewMessage.row, Decision.toState, Decision.reason, hsize]

/-- With a fresh id and a rendered envelope, the one constraint left to violate is the unique index
on the route and the event. -/
theorem Decision.insert_error
    (h : (decision.insert m).apply q = .error e) (hfresh : q.get m.messageId = none)
    (hsize : 0 < m.envelopeSizeBytes) :
    ∃ u, (m.row decision.toState decision.reason).routeEvent = some u ∧
      ∃ r ∈ q.rows, r.routeEvent = some u := by
  rw [Decision.apply_insert] at h
  have hinsert := (MessageQueueDao.insertRow_error h).2
  exact Sql.Table.insert_eq_none hinsert hfresh (decision.checkOk_row hsize)

theorem DaoOp.apply_source {op : DaoOp} (h : op.apply q = .ok q')
    {k : String} {r' : QueueRow} (hget : q'.get k = some r') :
    (∃ r, q.get k = some r ∧ (r' = r ∨ RowStep op r r')) ∨
      q.get k = none ∧ ∃ m decision, op = Decision.insert m decision ∧ k = m.messageId ∧
        r' = m.row decision.toState decision.reason := by
  have heffect := DaoOp.apply_effect h k
  have hkey : r'.messageId = k := Sql.Table.key_of_get hget
  rw [hget] at heffect
  generalize hold : q.get k = o at heffect
  cases heffect with
  | same => exact .inl ⟨r', rfl, .inl rfl⟩
  | insertQueued m => exact .inr ⟨rfl, m, .allow, rfl, hkey.symm, rfl⟩
  | insertBlocked m reason => exact .inr ⟨rfl, m, .block reason, rfl, hkey.symm, rfl⟩
  | update hstep => exact .inl ⟨_, rfl, .inr hstep⟩

end AgentTower.Routing
