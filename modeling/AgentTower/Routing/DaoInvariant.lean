import AgentTower.Lib.Run
import AgentTower.Routing.Dao

/-!
# The rows that the DAO can produce

`RowStep` says once what a call can do to one row; coherence of the columns and finality of the
terminal states follow from it.  The recovery's `UPDATE` has no test of `state`: it passes over a
terminal row because that row carries its own terminal stamp.
-/

namespace AgentTower.Routing

open Transition Sql Option Table
open MessageQueueDao

inductive DaoOp where
  | insertQueued (m : NewMessage)
  | insertBlocked (m : NewMessage) (blockReason : BlockReason)
  | stampDeliveryAttemptStarted (messageId ts : String)
  | transitionQueuedToDelivered (messageId ts : String)
  | transitionQueuedToFailed (messageId : String) (failureReason : FailureReason) (ts : String)
  | transitionQueuedToBlockedReCheck (messageId : String) (blockReason : BlockReason) (ts : String)
  | transitionBlockedToQueuedApprove (messageId operator ts : String)
  | transitionQueuedToBlockedDelay (messageId operator ts : String)
  | transitionToCanceled (messageId operator ts : String)
  | recoverInFlightRows (ts : String)
  deriving DecidableEq, Repr

def DaoOp.apply (q : MessageQueue) : DaoOp → Except PyExc MessageQueue
  | .insertQueued m => MessageQueueDao.insertQueued q m
  | .insertBlocked m reason => MessageQueueDao.insertBlocked q m reason
  | .stampDeliveryAttemptStarted m ts => MessageQueueDao.stampDeliveryAttemptStarted q m ts
  | .transitionQueuedToDelivered m ts => MessageQueueDao.transitionQueuedToDelivered q m ts
  | .transitionQueuedToFailed m reason ts => MessageQueueDao.transitionQueuedToFailed q m reason ts
  | .transitionQueuedToBlockedReCheck m reason ts =>
      MessageQueueDao.transitionQueuedToBlockedReCheck q m reason ts
  | .transitionBlockedToQueuedApprove m operator ts =>
      MessageQueueDao.transitionBlockedToQueuedApprove q m operator ts
  | .transitionQueuedToBlockedDelay m operator ts =>
      MessageQueueDao.transitionQueuedToBlockedDelay q m operator ts
  | .transitionToCanceled m operator ts => MessageQueueDao.transitionToCanceled q m operator ts
  | .recoverInFlightRows ts => MessageQueueDao.recoverInFlightRows q ts

/-- A call that raises has rolled its transaction back.  So has one that gives up on a lock or
whose audit callback raises: in a sequence of calls it might as well be left out. -/
def DaoOp.perform (q : MessageQueue) (op : DaoOp) : MessageQueue :=
  match op.apply q with
  | .ok q' => q'
  | .error _ => q

/-! ## One row under one call -/

/-- What a call can do to the row that it names; the recovery names every in-flight row. -/
inductive RowStep : DaoOp → QueueRow → QueueRow → Prop where
  | stamp {r : QueueRow} (ts : String) : r.ready = true →
      RowStep (.stampDeliveryAttemptStarted r.messageId ts) r ((stampPatch ts).set r)
  | deliver {r : QueueRow} (ts : String) : r.state = .queued → r.inFlight = true →
      RowStep (.transitionQueuedToDelivered r.messageId ts) r ((deliveredPatch ts).set r)
  | fail {r : QueueRow} (reason : FailureReason) (ts : String) :
      r.state = .queued → r.inFlight = true →
      RowStep (.transitionQueuedToFailed r.messageId reason ts) r ((failedPatch reason ts).set r)
  | recheck {r : QueueRow} (reason : BlockReason) (ts : String) : r.ready = true →
      RowStep (.transitionQueuedToBlockedReCheck r.messageId reason ts) r
        ((recheckPatch reason ts).set r)
  | approve {r : QueueRow} (operator ts : String) : r.state = .blocked → r.inFlight = false →
      RowStep (.transitionBlockedToQueuedApprove r.messageId operator ts) r
        ((operatorPatch .blocked .queued .approved none operator ts).set r)
  | delay {r : QueueRow} (operator ts : String) : r.state = .queued → r.inFlight = false →
      RowStep (.transitionQueuedToBlockedDelay r.messageId operator ts) r
        ((operatorPatch .queued .blocked .delayed (some .operatorDelayed) operator ts).set r)
  | cancel {r : QueueRow} (operator ts : String) :
      r.state = .queued ∨ r.state = .blocked → r.inFlight = false →
      RowStep (.transitionToCanceled r.messageId operator ts) r ((canceledPatch operator ts).set r)
  | recover {r : QueueRow} (ts : String) : r.inFlight = true →
      RowStep (.recoverInFlightRows ts) r ((recoveredPatch ts).set r)

/-- What a call can do to the row of one `message_id`, if there is one. -/
inductive RowEffect : DaoOp → Option QueueRow → Option QueueRow → Prop where
  | same (op : DaoOp) (o : Option QueueRow) : RowEffect op o o
  | insertQueued (m : NewMessage) :
      RowEffect (.insertQueued m) none (some (m.row .queued none))
  | insertBlocked (m : NewMessage) (reason : BlockReason) :
      RowEffect (.insertBlocked m reason) none (some (m.row .blocked (some reason)))
  | update {op : DaoOp} {r r' : QueueRow} : RowStep op r r' → RowEffect op (some r) (some r')

variable {q q' : MessageQueue} {r r' : QueueRow} {op : DaoOp}

theorem MessageQueueDao.Inserted.effect
    (h : Inserted q q' r) (hnew : RowEffect op none (some r)) (k : String) :
    RowEffect op (q.get k) (q'.get k) := by
  rw [h.after k]
  by_cases hk : k = r.messageId
  · rw [if_pos hk, hk, h.fresh]
    exact hnew
  · rw [if_neg hk]
    exact .same _ _

theorem MessageQueueDao.Replaced.effect {messageId : String}
    (h : Replaced q q' messageId r r') (hstep : RowStep op r r')
    (k : String) : RowEffect op (q.get k) (q'.get k) := by
  rw [h.after k]
  by_cases hk : k = messageId
  · rw [if_pos hk, hk, h.before]
    exact .update hstep
  · rw [if_neg hk]
    exact .same _ _

theorem MessageQueueDao.Replaced.messageId_eq {messageId : String}
    (h : Replaced q q' messageId r r') : messageId = r.messageId :=
  (key_of_get h.before).symm

theorem DaoOp.apply_effect (h : op.apply q = .ok q')
    (k : String) : RowEffect op (q.get k) (q'.get k) := by
  cases op with
  | insertQueued m => exact (insertRow_ok h).effect (.insertQueued m) k
  | insertBlocked m reason => exact (insertRow_ok h).effect (.insertBlocked m reason) k
  | stampDeliveryAttemptStarted m ts =>
    obtain ⟨r, hready, hr⟩ := stampDeliveryAttemptStarted_ok h
    cases hr.messageId_eq
    exact hr.effect (.stamp ts hready) k
  | transitionQueuedToDelivered m ts =>
    obtain ⟨r, hstate, hflight, hr⟩ := terminalTransitionFromInFlight_ok h
    cases hr.messageId_eq
    exact hr.effect (.deliver ts hstate hflight) k
  | transitionQueuedToFailed m reason ts =>
    obtain ⟨r, hstate, hflight, hr⟩ := terminalTransitionFromInFlight_ok h
    cases hr.messageId_eq
    exact hr.effect (.fail reason ts hstate hflight) k
  | transitionQueuedToBlockedReCheck m reason ts =>
    obtain ⟨r, hready, hr⟩ := transitionQueuedToBlockedReCheck_ok h
    cases hr.messageId_eq
    exact hr.effect (.recheck reason ts hready) k
  | transitionBlockedToQueuedApprove m operator ts =>
    obtain ⟨r, hstate, hflight, hr⟩ := operatorTransition_ok h
    cases hr.messageId_eq
    exact hr.effect (.approve operator ts hstate hflight) k
  | transitionQueuedToBlockedDelay m operator ts =>
    obtain ⟨r, hstate, hflight, hr⟩ := operatorTransition_ok h
    cases hr.messageId_eq
    exact hr.effect (.delay operator ts hstate hflight) k
  | transitionToCanceled m operator ts =>
    obtain ⟨r, hstate, hflight, hr⟩ := transitionToCanceled_ok h
    cases hr.messageId_eq
    exact hr.effect (.cancel operator ts hstate hflight) k
  | recoverInFlightRows ts =>
    rw [recoverInFlightRows_ok h k]
    cases hget : q.get k with
    | none => exact .same _ none
    | some r =>
      by_cases hflight : r.inFlight = true
      · rw [map_some, if_pos hflight]
        exact .update (.recover ts hflight)
      · rw [map_some, if_neg hflight]
        exact .same _ (some r)

/-- No call removes a row, and what it does to one is a `RowStep`. -/
theorem DaoOp.apply_get (h : op.apply q = .ok q') {k : String} (hget : q.get k = some r) :
    ∃ r', q'.get k = some r' ∧ (r' = r ∨ RowStep op r r') := by
  have heffect := DaoOp.apply_effect h k
  rw [hget] at heffect
  generalize q'.get k = o' at heffect
  cases heffect with
  | same => exact ⟨r, rfl, .inl rfl⟩
  | update hstep => exact ⟨_, rfl, .inr hstep⟩

theorem RowStep.routeEvent (h : RowStep op r r') : r'.routeEvent = r.routeEvent := by
  cases h <;> exact Patch.index_set _ _

theorem DaoOp.apply_routeEvent (h : op.apply q = .ok q')
    (hr : r ∈ q.rows) : ∃ r' ∈ q'.rows, r'.routeEvent = r.routeEvent := by
  obtain ⟨r', hr', rfl | hstep⟩ := DaoOp.apply_get h (get_of_mem hr)
  · exact ⟨r', mem_of_get hr', rfl⟩
  · exact ⟨r', mem_of_get hr', hstep.routeEvent⟩

theorem DaoOp.perform_effect (q : MessageQueue) (op : DaoOp) (k : String) :
    RowEffect op (q.get k) ((op.perform q).get k) := by
  unfold DaoOp.perform
  split
  · rename_i happly
    exact DaoOp.apply_effect happly k
  · exact .same _ _

/-! ## Coherence of the columns -/

/-- The reason and stamp columns agree with `state`. -/
structure QueueRow.Coherent (r : QueueRow) : Prop where
  blockReason_iff : r.blockReason.isSome = true ↔ r.state = .blocked
  failureReason_iff : r.failureReason.isSome = true ↔ r.state = .failed
  deliveredAt_iff : r.deliveredAt.isSome = true ↔ r.state = .delivered
  failedAt_iff : r.failedAt.isSome = true ↔ r.state = .failed
  canceledAt_iff : r.canceledAt.isSome = true ↔ r.state = .canceled
  stamped : r.deliveryAttemptStartedAt.isSome = true →
    r.state = .queued ∨ r.state = .delivered ∨ r.state = .failed

theorem QueueRow.ready_iff :
    r.ready = true ↔ r.state = .queued ∧ r.deliveryAttemptStartedAt = none := by
  simp [QueueRow.ready]

/-- On a coherent row the in-flight test of the recovery, which does not look at `state`, means a
stamped `queued` row. -/
theorem QueueRow.Coherent.inFlight_iff (h : r.Coherent) :
    r.inFlight = true ↔ r.state = .queued ∧ r.deliveryAttemptStartedAt.isSome = true := by
  have hdelivered := h.deliveredAt_iff
  have hfailed := h.failedAt_iff
  have hcanceled := h.canceledAt_iff
  have hstamped := h.stamped
  unfold QueueRow.inFlight
  simp only [Bool.and_eq_true, isNone_iff_eq_none, ← not_isSome_iff_eq_none]
  constructor
  · rintro ⟨⟨⟨hstamp, hd⟩, hf⟩, -⟩
    rcases hstamped hstamp with hstate | hstate | hstate
    · exact ⟨hstate, hstamp⟩
    · exact absurd (hdelivered.mpr hstate) hd
    · exact absurd (hfailed.mpr hstate) hf
  · rintro ⟨hstate, hstamp⟩
    rw [hdelivered, hfailed, hcanceled, hstate]
    exact ⟨⟨⟨hstamp, by decide⟩, by decide⟩, by decide⟩

theorem RowStep.coherent (hstep : RowStep op r r') (h : r.Coherent) : r'.Coherent := by
  have hflight_iff := h.inFlight_iff
  obtain ⟨hblock, hfail, hdelivered, hfailed, hcanceled, hstamped⟩ := h
  cases hstep with
  | stamp ts hready =>
    have hstate := (QueueRow.ready_iff.mp hready).1
    exact ⟨hblock, hfail, hdelivered, hfailed, hcanceled, fun _ => .inl hstate⟩
  | deliver ts hstate _ => constructor <;> simp_all [deliveredPatch]
  | fail reason ts hstate _ => constructor <;> simp_all [failedPatch]
  | recheck reason ts hready =>
    obtain ⟨hstate, hstamp⟩ := QueueRow.ready_iff.mp hready
    constructor <;> simp_all [recheckPatch]
  | approve operator ts hstate _ | delay operator ts hstate hflight =>
    constructor <;> simp_all [operatorPatch]
  | cancel operator ts hstate hflight =>
    rcases hstate with hstate | hstate <;> constructor <;> simp_all [canceledPatch]
  | recover ts hflight =>
    have hstate := (hflight_iff.mp hflight).1
    constructor <;> simp_all [recoveredPatch, failedPatch]

theorem RowStep.not_terminal (hstep : RowStep op r r')
    (h : r.Coherent) : r.state.terminal = false := by
  cases hstep with
  | stamp _ hready | recheck _ _ hready => rw [(QueueRow.ready_iff.mp hready).1]; rfl
  | deliver _ hstate | fail _ _ hstate | approve _ _ hstate | delay _ _ hstate =>
    rw [hstate]; rfl
  | cancel _ _ hstate => rcases hstate with hstate | hstate <;> rw [hstate] <;> rfl
  | recover _ hflight => rw [(h.inFlight_iff.mp hflight).1]; rfl

/-! ## Runs -/

def MessageQueue.Coherent (q : MessageQueue) : Prop := ∀ k r, q.get k = some r → r.Coherent

open MessageQueue (Coherent)

/-- On coherent rows the recovery's `UPDATE` violates no `CHECK`. -/
theorem recoverInFlightRows_succeeds (h : Coherent q)
    (ts : String) : ∃ q', recoverInFlightRows q ts = .ok q' := by
  have hcheck : ∀ r ∈ q.rows, r.inFlight = true → ((recoveredPatch ts).set r).checkOk = true := by
    intro r hr hflight
    have hcoherent := h r.messageId r (get_of_mem hr)
    have hstate := (hcoherent.inFlight_iff.mp hflight).1
    have hblock : r.blockReason = none := by
      have hiff := hcoherent.blockReason_iff
      rw [hstate] at hiff
      simpa using hiff
    have hchecked := q.checked r hr
    unfold QueueRow.checkOk at hchecked ⊢
    simp only [recoveredPatch, failedPatch, hblock]
    simp_all
  obtain ⟨q', hupdate⟩ := update_succeeds hcheck
  unfold recoverInFlightRows runUpdate
  rw [hupdate]
  exact ⟨q', rfl⟩

theorem RowEffect.coherent {o o' : Option QueueRow} (heffect : RowEffect op o o')
    (h : ∀ r, o = some r → r.Coherent) : ∀ r', o' = some r' → r'.Coherent := by
  intro r' hr'
  cases heffect with
  | same => exact h r' hr'
  | insertQueued m | insertBlocked m reason =>
    cases hr'
    constructor <;> simp [NewMessage.row]
  | update hstep =>
    cases hr'
    exact hstep.coherent (h _ rfl)

theorem DaoOp.apply_coherent (h : op.apply q = .ok q') (hq : Coherent q) : Coherent q' :=
  fun k r hr => (DaoOp.apply_effect h k).coherent (hq k) r hr

theorem DaoOp.perform_coherent (op : DaoOp) (h : Coherent q) : Coherent (op.perform q) :=
  fun k r hr => (op.perform_effect q k).coherent (h k) r hr

theorem DaoOp.perform_terminal (op : DaoOp) (h : Coherent q)
    {k : String} (hget : q.get k = some r) (hterminal : r.state.terminal = true) :
    (op.perform q).get k = some r := by
  have heffect := op.perform_effect q k
  rw [hget] at heffect
  generalize (op.perform q).get k = o' at heffect
  cases heffect with
  | same => rfl
  | update hstep =>
    have hfinal := hstep.not_terminal (h k r hget)
    rw [hterminal] at hfinal
    cases hfinal

abbrev DaoReach := Reach (fun q op => some (DaoOp.perform q op)) anyStep

theorem daoReach_foldl (q : MessageQueue) (ops : List DaoOp) :
    DaoReach q (ops.foldl DaoOp.perform q) :=
  reach_of_run (run_total DaoOp.perform q ops)

theorem DaoReach.coherent (h : DaoReach q q') (hq : Coherent q) : Coherent q' := by
  refine Reach.invariant Coherent hq ?_ h
  intro s op t hs _ ht
  cases ht
  exact op.perform_coherent hs

theorem DaoReach.coherent_of_empty (h : DaoReach Table.empty q) : Coherent q :=
  h.coherent fun k r hr => by cases (get_empty k).symm.trans hr

/-- In every queue that sequences of DAO calls produce from the empty one, the columns of each row
agree with its state, and a row that reached a terminal state stays as it is under every further
sequence of calls. -/
theorem daoReach_coherent_and_final {q : MessageQueue} (hq : DaoReach Table.empty q) :
    (∀ r ∈ q.rows, r.Coherent) ∧
      ∀ r ∈ q.rows, r.state.terminal = true →
        ∀ q', DaoReach q q' → q'.get r.messageId = some r := by
  have hcoherent := hq.coherent_of_empty
  refine ⟨fun r hr => hcoherent _ r (get_of_mem hr), ?_⟩
  intro r hr hterminal q' hq'
  -- the invariant carries the coherence that finality of the next call needs
  have hinv : Coherent q' ∧ q'.get r.messageId = some r := by
    refine Reach.invariant (fun s => Coherent s ∧ s.get r.messageId = some r)
      ⟨hcoherent, get_of_mem hr⟩ ?_ hq'
    intro s op t hs _ ht
    cases ht
    exact ⟨op.perform_coherent hs.1, op.perform_terminal hs.1 hs.2 hterminal⟩
  exact hinv.2

def sampleMessage : NewMessage where
  messageId := "m1"
  sender := ⟨"agt_00000000000a", "lead", .master, some "claude"⟩
  target := ⟨"agt_00000000000b", "worker", .slave, some "codex"⟩
  containerId := "c1"
  paneId := "%0"
  envelopeBody := [104, 105]
  envelopeBodySha256 := "8f43"
  envelopeSizeBytes := 180
  enqueuedAt := "2026-01-01T00:00:00.000Z"
  origin := .direct
  routeId := none
  eventId := none

def sampleDelivery : List DaoOp :=
  [.insertQueued sampleMessage, .stampDeliveryAttemptStarted "m1" "2026-01-01T00:00:01.000Z",
    .transitionQueuedToDelivered "m1" "2026-01-01T00:00:02.000Z"]

def sampleDelivered : QueueRow :=
  (deliveredPatch "2026-01-01T00:00:02.000Z").set
    ((stampPatch "2026-01-01T00:00:01.000Z").set (sampleMessage.row .queued none))

theorem sampleDelivery_canceled :
    sampleDelivered ∈ (sampleDelivery.foldl DaoOp.perform Table.empty).rows ∧
      sampleDelivered.Coherent ∧
      (List.foldl DaoOp.perform (sampleDelivery.foldl DaoOp.perform Table.empty)
        [.transitionToCanceled "m1" "host-operator" "2026-01-01T00:00:03.000Z"]).get "m1"
        = some sampleDelivered := by
  have hreach := daoReach_foldl Table.empty sampleDelivery
  have hmem : sampleDelivered ∈ (sampleDelivery.foldl DaoOp.perform Table.empty).rows := by
    decide
  refine ⟨hmem, (daoReach_coherent_and_final hreach).1 _ hmem, ?_⟩
  exact (daoReach_coherent_and_final hreach).2 _ hmem rfl _ (daoReach_foldl _ _)

end AgentTower.Routing
