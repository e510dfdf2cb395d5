import Mathlib.Data.List.Chain
import AgentTower.Routing.Authorization

/-!
# The audit records of one message form a chain

Every transition writes its record in its own transaction, and all but `cancel` write a constant
`from_state` that the guard of their `UPDATE` enforces.  `cancel` writes the state that it read before
its transaction; its guard admits two states.
-/

namespace AgentTower.Routing.Daemon

open Transition Sql List
open MessageQueueDao (Replaced snapshotInFlightIdentities)
open QueueRow (state)

variable {env : Env} {s s' : State}

def recordsOf (messageId : String) (audit : List QueueTransition) : List QueueTransition :=
  audit.filter fun t => decide (t.messageId = messageId)

/-- The records lead from no row to a row in `state`, or are empty if there is none. -/
structure AuditChain (records : List QueueTransition) (state : Option QueueState) : Prop where
  first : ∀ t ∈ records.head?, t.fromState = none
  linked : records.IsChain fun a b => b.fromState = some a.toState
  last : records.getLast?.map QueueTransition.toState = state

instance (records : List QueueTransition) (state : Option QueueState) :
    Decidable (AuditChain records state) :=
  decidable_of_iff ((∀ t ∈ records.head?, t.fromState = none) ∧
      (records.IsChain fun a b => b.fromState = some a.toState) ∧
      records.getLast?.map QueueTransition.toState = state)
    ⟨fun h => ⟨h.1, h.2.1, h.2.2⟩, fun h => ⟨h.first, h.linked, h.last⟩⟩

theorem AuditChain.append {records : List QueueTransition} {state : Option QueueState}
    (h : AuditChain records state) {t : QueueTransition} (hfrom : t.fromState = state) :
    AuditChain (records ++ [t]) (some t.toState) := by
  refine ⟨fun x hx => ?_, ?_, by rw [List.getLast?_concat]; rfl⟩
  · cases records with
    | nil =>
      cases hx
      rw [hfrom, ← h.last]
      rfl
    | cons a records => exact h.first x hx
  · refine isChain_append.mpr ⟨h.linked, isChain_singleton t, ?_⟩
    intro a ha b hb
    cases hb
    rw [hfrom, ← h.last, Option.mem_def.mp ha]
    rfl

/-! ## One transaction -/

/-- The record tells what its transaction did to the queue. -/
structure Recorded (q q' : MessageQueue) (record : QueueTransition) : Prop where
  other : ∀ k, k ≠ record.messageId → q'.get k = q.get k
  before : record.fromState = (q.get record.messageId).map state
  after : (q'.get record.messageId).map state = some record.toState

variable {q q' : MessageQueue} {audit : List QueueTransition} {ts : String}

theorem Recorded.of_replaced {r r' : QueueRow} {record : QueueTransition}
    (h : Replaced q q' record.messageId r r') (hbefore : record.fromState = some r.state)
    (hafter : r'.state = record.toState) : Recorded q q' record where
  other k hk := by rw [h.after k, if_neg hk]
  before := by rw [h.before, hbefore]; rfl
  after := by rw [h.after, if_pos rfl, Option.map_some, hafter]

def Chained (q : MessageQueue) (audit : List QueueTransition) : Prop :=
  ∀ k, AuditChain (recordsOf k audit) ((q.get k).map state)

theorem Chained.record
    {record : QueueTransition} (h : Chained q audit) (hrecord : Recorded q q' record) :
    Chained q' (audit ++ [record]) := by
  intro k
  unfold recordsOf
  rw [filter_append]
  by_cases hk : k = record.messageId
  · subst hk
    rw [filter_singleton, decide_eq_true rfl, hrecord.after]
    exact (h record.messageId).append hrecord.before
  · rw [filter_singleton, decide_eq_false (Ne.symm hk), hrecord.other k hk]
    show AuditChain (recordsOf k audit ++ []) _
    rw [append_nil]
    exact h k

/-- The cancel whose transaction goes through finds the row in the state that it has read. -/
def cancelUnraced (s : State) : Label → Bool
  | .call t (.commit ts) =>
    match s.calls t with
    | .cancel messageId preRow operator =>
      match s.transact (.transitionToCanceled messageId operator ts)
          (canceled messageId preRow operator ts) with
      | .ok _ =>
        decide (preRow.map state = (s.messageQueue.get messageId).map state)
      | .error _ => true
    | _ => true
  | _ => true

theorem commitCall_recorded {t : Nat} {op : DaoOp} {record : QueueTransition}
    (htransition : (s.calls t).transition env ts = some (op, record))
    (hcommit : Committed s op record s') (hok : cancelUnraced s (.call t (.commit ts)) = true) :
    Recorded s.messageQueue s'.messageQueue record := by
  have happly := hcommit.apply
  cases hcall : s.calls t with
  | insert m decision sender target =>
    rw [hcall] at htransition
    cases htransition
    obtain ⟨hfresh, hafter⟩ := Decision.insert_ok happly
    refine ⟨fun k hk => by rw [hafter k]; exact if_neg hk, ?_, ?_⟩
    · show none = (s.messageQueue.get m.messageId).map state
      rw [hfresh]
      rfl
    · show (s'.messageQueue.get m.messageId).map state = some decision.toState
      rw [hafter m.messageId, if_pos rfl]
      rfl
  | approve row operator | delay row operator =>
    rw [hcall] at htransition
    cases htransition
    obtain ⟨r, hstate, -, hreplaced⟩ := MessageQueueDao.operatorTransition_ok happly
    exact .of_replaced hreplaced (by rw [hstate]; rfl) rfl
  | cancel messageId preRow operator =>
    rw [hcall] at htransition
    cases htransition
    obtain ⟨r, -, -, hreplaced⟩ := MessageQueueDao.transitionToCanceled_ok happly
    simp only [cancelUnraced, hcall, hcommit.transact, decide_eq_true_eq] at hok
    rw [hreplaced.before] at hok
    exact .of_replaced hreplaced hok rfl
  | idle | sendInput | approveCheck | readFull =>
    rw [hcall] at htransition
    cases htransition

theorem commitWorker_recorded {op : DaoOp} {record : QueueTransition}
    (htransition : s.worker.transition env ts = some (op, record))
    (hcommit : Committed s op record s') : Recorded s.messageQueue s'.messageQueue record := by
  have happly := hcommit.apply
  cases hworker : s.worker with
  | blocking row reason =>
    rw [hworker] at htransition
    cases htransition
    obtain ⟨r, hready, hreplaced⟩ := MessageQueueDao.transitionQueuedToBlockedReCheck_ok happly
    exact .of_replaced hreplaced (by rw [(QueueRow.ready_iff.mp hready).1]; rfl) rfl
  | submitted | failing =>
    rw [hworker] at htransition
    cases htransition
    obtain ⟨r, hstate, -, hreplaced⟩ := MessageQueueDao.terminalTransitionFromInFlight_ok happly
    exact .of_replaced hreplaced (by rw [hstate]; rfl) rfl
  | _ =>
    rw [hworker] at htransition
    cases htransition

theorem recordsOf_recovered (q : MessageQueue) (ts k : String) :
    recordsOf k ((snapshotInFlightIdentities q).map (Recovery.recoveredTransition ts)) =
      ((q.get k).toList.filter QueueRow.inFlight).map fun r =>
        Recovery.recoveredTransition ts (r.messageId, r.sender, r.target) := by
  unfold recordsOf snapshotInFlightIdentities
  rw [map_map, filter_map, ← Table.filter_key, filter_filter, filter_filter]
  congr 1
  exact filter_congr fun r _ => Bool.and_comm _ _

theorem Chained.boot (h : Chained q audit) (hq : MessageQueue.Coherent q)
    (happly : (DaoOp.recoverInFlightRows ts).apply q = .ok q') :
    Chained q' (audit ++
      (snapshotInFlightIdentities q).map (Recovery.recoveredTransition ts)) := by
  intro k
  have hchain := h k
  have hrow := MessageQueueDao.recoverInFlightRows_ok happly k
  have hrecords := recordsOf_recovered q ts k
  unfold recordsOf at hrecords ⊢
  rw [filter_append, hrecords, hrow]
  cases hget : q.get k with
  | none =>
    rw [hget] at hchain
    simpa [recordsOf] using hchain
  | some r =>
    rw [hget] at hchain
    by_cases hflight : r.inFlight = true
    · have hqueued := ((hq k r hget).inFlight_iff.mp hflight).1
      have happend := hchain.append
        (t := Recovery.recoveredTransition ts (r.messageId, r.sender, r.target))
        (by rw [Option.map_some, hqueued]; rfl)
      rw [Option.toList_some, filter_cons_of_pos hflight, Option.map_some, if_pos hflight]
      exact happend
    · simpa [hflight, recordsOf] using hchain

/-! ## Runs -/

theorem Chained.stamp {messageId : String} (h : Chained q audit)
    (happly : (DaoOp.stampDeliveryAttemptStarted messageId ts).apply q = .ok q') :
    Chained q' audit := by
  obtain ⟨r, -, hreplaced⟩ := MessageQueueDao.stampDeliveryAttemptStarted_ok happly
  intro k
  have hchain := h k
  rw [hreplaced.after k]
  by_cases hk : k = messageId
  · subst hk
    rw [hreplaced.before] at hchain
    rw [if_pos rfl]
    exact hchain
  · rw [if_neg hk]
    exact hchain

theorem Chained.change {l : Label} (h : Chained s.messageQueue s.audit)
    (hq : MessageQueue.Coherent s.messageQueue) (hok : cancelUnraced s l = true)
    (hchange : Change env s l s') : Chained s'.messageQueue s'.audit := by
  cases hchange with
  | register | toggle | crash | refused | storeFlag | paste => exact h
  | boot ts happly => exact h.boot hq happly
  | call _ hfill | worker _ hfill => rcases hfill with rfl | rfl <;> exact h
  | @commitCall t ts op record s₁ htransition hcommit =>
    show Chained ((s.calls t).record s s₁).messageQueue ((s.calls t).record s s₁).audit
    rw [Call.record_messageQueue, Call.record_audit, hcommit.audit]
    exact h.record (commitCall_recorded htransition hcommit hok)
  | stamp _ happly => exact h.stamp happly
  | @commitWorker ts op record s₁ htransition hcommit =>
    show Chained s₁.messageQueue s₁.audit
    rw [hcommit.audit]
    exact h.record (commitWorker_recorded htransition hcommit)

variable {agents : List AgentRecord} {flag : KillSwitch.FlagValue}

/-- In every run in which each cancel that goes through finds the row in the state that it has read,
the audit records of every message form a chain from no row to the row's committed state. -/
theorem audit_records_chained (h : Reach (step env) (fun s l => cancelUnraced s l = true)
      (State.init agents flag) s) (messageId : String) :
    AuditChain (recordsOf messageId s.audit)
      ((s.messageQueue.get messageId).map state) := by
  have hinv : Chained s.messageQueue s.audit ∧ PasteInv s.messageQueue s.worker s.pastes := by
    refine Reach.invariant
      (fun s => Chained s.messageQueue s.audit ∧ PasteInv s.messageQueue s.worker s.pastes)
      ⟨fun k => ?_, PasteInv.init⟩ ?_ h
    · exact ⟨fun t ht => (by cases ht), isChain_nil, rfl⟩
    · rintro s l s' ⟨hchained, hpaste⟩ hok hstep
      have hchange := step_change hstep
      exact ⟨hchained.change hpaste.coherent hok hchange, hpaste.change hchange⟩
  exact hinv.1 messageId

def delayDuringCancel : List Label :=
  .boot "t0" :: sendLabels .hostOperator "m1" "t1" ++
    [.call 1 (.cancel "m1" "host-operator"), .call 0 (.delay "m1" "host-operator"),
      .call 0 (.commit "t2"), .call 1 (.commit "t3")]

theorem audit_records_broken :
    ∃ s, run (step sampleEnv) (State.init [sampleTarget] .enabled) delayDuringCancel = some s ∧
      (recordsOf "m1" s.audit).map (fun t => (t.fromState, t.toState)) =
        [(none, .queued), (some .queued, .blocked), (some .queued, .canceled)] ∧
      ¬ AuditChain (recordsOf "m1" s.audit)
        ((s.messageQueue.get "m1").map state) := by decide +kernel

def delayThenCancel : List Label :=
  .boot "t0" :: sendLabels .hostOperator "m1" "t1" ++
    [.call 0 (.delay "m1" "host-operator"), .call 0 (.commit "t2"),
      .call 1 (.cancel "m1" "host-operator"), .call 1 (.commit "t3")]

theorem audit_records_chained_delayThenCancel :
    ∃ s, run (step sampleEnv) (State.init [sampleTarget] .enabled) delayThenCancel = some s ∧
      (recordsOf "m1" s.audit).length = 3 ∧
      AuditChain (recordsOf "m1" s.audit) ((s.messageQueue.get "m1").map state) :=
  exists_run_and cancelUnraced (by decide +kernel) fun _ hs _ => audit_records_chained hs "m1"

end AgentTower.Routing.Daemon
