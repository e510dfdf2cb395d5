import AgentTower.Routing.AtMostOnce

/-!
# At most one row in flight

Nothing in the queue keeps a second row from being stamped while a first one is in flight; the worker
does, by ending an attempt before it looks for the next row.  An exception that leaves `_deliver_one`,
or a lock conflict that outlasts the retries, leaves the row behind as it is.
-/

namespace AgentTower.Routing

open Transition Sql Table
open MessageQueueDao

variable {q q' : MessageQueue} {k ts : String} {r : QueueRow} {op : DaoOp}

theorem MessageQueueDao.terminalTransition_succeeds
    {p : RowPatch} (hget : q.get k = some r) (hqueued : r.state = .queued)
    (hflight : r.inFlight = true) (hcheck : (p.set r).checkOk = true) :
    ∃ q', terminalTransitionFromInFlight q k p = .ok q' := by
  have hkey : r.messageId = k := key_of_get hget
  unfold terminalTransitionFromInFlight updateOne runUpdate
  rw [if_neg]
  · -- the `WHERE` pins the key, so the checked row is the only one that changes
    have hchecked : ∀ r' ∈ q.rows, (decide (r'.messageId = k) && decide (r'.state = .queued) &&
        r'.inFlight) = true → (p.set r').checkOk = true := by
      intro r' hr' hsel
      simp only [Bool.and_eq_true, decide_eq_true_eq] at hsel
      have hget' := get_of_mem hr'
      rw [hsel.1.1, hget] at hget'
      rw [← Option.some.inj hget']
      exact hcheck
    obtain ⟨q', hupdate⟩ := update_succeeds hchecked
    rw [hupdate]
    exact ⟨q', rfl⟩
  · intro hcount
    have hsel := rowcount_eq_zero_iff.mp hcount r (mem_of_get hget)
    simp [hkey, hqueued, hflight] at hsel

theorem QueueRow.Coherent.reasons_of_queued (h : r.Coherent)
    (hqueued : r.state = .queued) : r.blockReason = none ∧ r.failureReason = none := by
  have hblock := h.blockReason_iff
  have hfailure := h.failureReason_iff
  rw [hqueued] at hblock hfailure
  exact ⟨by simpa using hblock, by simpa using hfailure⟩

theorem transitionQueuedToDelivered_succeeds (hq : MessageQueue.Coherent q)
    (hget : q.get k = some r) (hflight : r.inFlight = true)
    (ts : String) : ∃ q', transitionQueuedToDelivered q k ts = .ok q' := by
  have hqueued := ((hq k r hget).inFlight_iff.mp hflight).1
  obtain ⟨hblock, hfailure⟩ := (hq k r hget).reasons_of_queued hqueued
  refine terminalTransition_succeeds hget hqueued hflight ?_
  have hchecked := q.checked r (mem_of_get hget)
  unfold QueueRow.checkOk at hchecked ⊢
  simp only [deliveredPatch, hblock, hfailure]
  simp_all

theorem transitionQueuedToFailed_succeeds (hq : MessageQueue.Coherent q)
    (hget : q.get k = some r) (hflight : r.inFlight = true) (reason : FailureReason) (ts : String) :
    ∃ q', transitionQueuedToFailed q k reason ts = .ok q' := by
  have hqueued := ((hq k r hget).inFlight_iff.mp hflight).1
  obtain ⟨hblock, -⟩ := (hq k r hget).reasons_of_queued hqueued
  refine terminalTransition_succeeds hget hqueued hflight ?_
  have hchecked := q.checked r (mem_of_get hget)
  unfold QueueRow.checkOk at hchecked ⊢
  simp only [failedPatch, hblock]
  simp_all

/-! ## Which rows are in flight -/

/-- The row of `messageId` has an attempt that is started and not ended. -/
def MessageQueue.InFlight (q : MessageQueue) (messageId : String) : Prop :=
  ∃ r, q.get messageId = some r ∧ r.inFlight = true

open MessageQueue (InFlight)

instance (q : MessageQueue) (messageId : String) : Decidable (q.InFlight messageId) :=
  decidable_of_iff ((q.get messageId).any QueueRow.inFlight = true) (Option.any_eq_true _ _)

def DaoOp.stamps : DaoOp → Option String
  | .stampDeliveryAttemptStarted messageId _ => some messageId
  | _ => none

theorem RowStep.inFlight_before {r' : QueueRow} (hstep : RowStep op r r')
    (hflight : r'.inFlight = true) : op.stamps = some r.messageId ∨ r.inFlight = true := by
  cases hstep with
  | stamp => exact .inl rfl
  | deliver ts _ h | fail reason ts _ h | recover ts h => exact .inr h
  | recheck reason ts hready =>
    have hstamp := QueueRow.stamped_of_inFlight hflight
    have hnone : r.deliveryAttemptStartedAt = none := (QueueRow.ready_iff.mp hready).2
    rw [show ((recheckPatch reason ts).set r).deliveryAttemptStartedAt = none from hnone] at hstamp
    cases hstamp
  | approve operator ts | delay operator ts => exact .inr hflight
  | cancel operator ts =>
    -- the cancel stamps `canceled_at`, so its row is not in flight
    simp [QueueRow.inFlight, canceledPatch] at hflight

theorem DaoOp.inFlight_before (happly : op.apply q = .ok q') (h : InFlight q' k) :
    op.stamps = some k ∨ InFlight q k := by
  obtain ⟨r', hget', hflight⟩ := h
  rcases DaoOp.apply_source happly hget' with ⟨r, hget, rfl | hstep⟩ | ⟨-, m, decision, -, -, rfl⟩
  · exact .inr ⟨r', hget, hflight⟩
  · rcases hstep.inFlight_before hflight with hstamp | hbefore
    · rw [key_of_get hget] at hstamp
      exact .inl hstamp
    · exact .inr ⟨r, hget, hbefore⟩
  · simp [QueueRow.inFlight, NewMessage.row] at hflight

theorem DaoOp.inFlight_of_apply (happly : op.apply q = .ok q')
    (hop : op.stamps = none) (h : InFlight q' k) :
    InFlight q k := by
  rcases DaoOp.inFlight_before happly h with hstamp | hbefore
  · rw [hop] at hstamp
    cases hstamp
  · exact hbefore

theorem not_inFlight_of_terminal {p : RowPatch}
    (h : terminalTransitionFromInFlight q k p = .ok q') (hp : ∀ r, (p.set r).inFlight = false) :
    ¬ InFlight q' k := by
  obtain ⟨r, -, -, hreplaced⟩ := terminalTransitionFromInFlight_ok h
  rintro ⟨r', hget', hflight⟩
  rw [hreplaced.after k, if_pos rfl] at hget'
  cases hget'
  rw [hp r] at hflight
  cases hflight

theorem not_inFlight_of_delivered
    (h : transitionQueuedToDelivered q k ts = .ok q') : ¬ InFlight q' k :=
  not_inFlight_of_terminal h fun r => by simp [QueueRow.inFlight, deliveredPatch]

theorem not_inFlight_of_failed {reason : FailureReason}
    (h : transitionQueuedToFailed q k reason ts = .ok q') : ¬ InFlight q' k :=
  not_inFlight_of_terminal h fun r => by simp [QueueRow.inFlight, failedPatch]

theorem not_inFlight_of_recovered
    (h : recoverInFlightRows q ts = .ok q') (k : String) : ¬ InFlight q' k := by
  rintro ⟨r', hget', hflight⟩
  rw [recoverInFlightRows_ok h k] at hget'
  obtain ⟨r, -, rfl⟩ := Option.map_eq_some_iff.mp hget'
  split at hflight
  · simp [QueueRow.inFlight, recoveredPatch, failedPatch] at hflight
  · rename_i hnot
    exact hnot hflight

namespace Daemon

variable {env : Env} {s s' : State}

/-- The step does not leave an attempt before its row is terminal: no exception leaves
`_deliver_one` after the stamp, and the transaction of `_transition_to_failed` does not lose all its
retries. -/
def attemptEnds (s : State) : Label → Bool
  | .worker .raise => s.worker.attempt.isNone
  | .worker .lockConflict =>
    match s.worker with
    | .failing .. => false
    | _ => true
  | _ => true

variable {ts : String} {op : DaoOp} {record : QueueTransition} {row : QueueRow}

theorem Call.transition_stamps {call : Call}
    (h : call.transition env ts = some (op, record)) : op.stamps = none := by
  cases call with
  | insert m decision => cases decision <;> cases h <;> rfl
  | _ => cases h <;> rfl

theorem Worker.transition_stamps {w : Worker}
    (h : w.transition env ts = some (op, record)) : op.stamps = none := by
  cases w <;> cases h <;> rfl

/-- The transaction at the end of an attempt. -/
theorem Worker.transition_of_attempt {w : Worker} (hrow : w.attempt = some row)
    (h : w.transition env ts = some (op, record)) :
    record.target.isSome = true ∧ (op = .transitionQueuedToDelivered row.messageId ts ∨
      ∃ reason, op = .transitionQueuedToFailed row.messageId reason ts) := by
  cases w with
  | submitted =>
    cases hrow
    cases h
    exact ⟨rfl, .inl rfl⟩
  | failing =>
    cases hrow
    cases h
    exact ⟨rfl, .inr ⟨_, rfl⟩⟩
  | blocking => cases hrow
  | _ => cases h

/-! ## The worker in an attempt -/

inductive AttemptStep (env : Env) (s : State) (row : QueueRow) : WorkerLabel → State → Prop where
  | goes {l : WorkerLabel} {w : Worker} :
      w.attempt = some row → AttemptStep env s row l (s.work w)
  | pastes {body : List UInt8} (x : Paste) :
      AttemptStep env s row .paste ((s.recordPaste x).work (.pasted row body))
  | ends {ts : String} {op : DaoOp} {record : QueueTransition} {s' : State} :
      s.worker.transition env ts = some (op, record) → s.transact op record = .ok s' →
      AttemptStep env s row (.commit ts) (s'.work .idle)
  | refused {ts : String} {op : DaoOp} {record : QueueTransition} {e : PyExc} :
      s.worker.transition env ts = some (op, record) → s.transact op record = .error e →
      AttemptStep env s row (.commit ts) (s.work .idle)
  | noRow : s.messageQueue.get row.messageId = none → AttemptStep env s row .readBody (s.work .idle)
  | leaves {l : WorkerLabel} {s' : State} :
      attemptEnds s (.worker l) = false → AttemptStep env s row l s'

theorem commitWorker_attempt
    (h : commitWorker env s ts = some s') : AttemptStep env s row (.commit ts) s' := by
  unfold commitWorker at h
  split at h
  · cases h
  · rename_i op record htransition
    split at h
    · rename_i htransact
      cases h
      exact .refused htransition htransact
    · rename_i htransact
      cases h
      exact .ends htransition htransact

theorem stepWorker_commit_attempt (hrow : s.worker.attempt = some row)
    (ts : String) : stepWorker env s (.commit ts) = commitWorker env s ts := by
  cases hworker : s.worker with
  | resolved r =>
    rw [hworker] at hrow
    cases hrow
  | _ => simp only [stepWorker, hworker]

theorem stepWorker_attempt {l : WorkerLabel} (hrow : s.worker.attempt = some row)
    (h : stepWorker env s l = some s') : AttemptStep env s row l s' := by
  cases l with
  | raise => exact .leaves (by simp [attemptEnds, hrow])
  | commit ts =>
    rw [stepWorker_commit_attempt hrow] at h
    exact commitWorker_attempt h
  | readBody =>
    cases hworker : s.worker <;> simp only [stepWorker, hworker, reduceCtorEq] at h
    rw [hworker] at hrow
    cases hrow
    split at h <;> cases h
    · rename_i hget
      exact .noRow hget
    · exact .goes rfl
  | paste =>
    cases hworker : s.worker <;> simp only [stepWorker, hworker, reduceCtorEq] at h
    rw [hworker] at hrow
    cases hrow
    cases h
    exact .pastes _
  | load | submit | tmuxError =>
    cases hworker : s.worker <;> simp only [stepWorker, hworker, reduceCtorEq] at h
    all_goals
      rw [hworker] at hrow
      cases hrow
      cases h
      exact .goes rfl
  | lockConflict =>
    cases hworker : s.worker with
    | submitted r body =>
      rw [hworker] at hrow
      cases hrow
      simp only [stepWorker, hworker] at h
      cases h
      exact .goes rfl
    | failing r reason => exact .leaves (by simp [attemptEnds, hworker])
    | _ => simp_all [stepWorker, Worker.attempt]
  | poll | pick | recheck | resolve =>
    -- these are for a worker outside an attempt
    cases hworker : s.worker <;> simp_all [stepWorker, Worker.attempt]

/-! ## The invariant -/

/-- At most one row is in flight, and while the daemon runs it is the one the worker is at. -/
structure FlightInv (s : State) : Prop where
  unique : ∀ k k', InFlight s.messageQueue k →
    InFlight s.messageQueue k' → k = k'
  held : s.running = true → ∀ k, InFlight s.messageQueue k →
    ∃ row, s.worker.attempt = some row ∧ row.messageId = k

namespace FlightInv

theorem init (agents : List AgentRecord) (flag : KillSwitch.FlagValue) :
    FlightInv (State.init agents flag) where
  unique k k' := by
    rintro ⟨r, hget, -⟩
    cases (get_empty k).symm.trans hget
  held hrunning := by cases hrunning

theorem shrink (h : FlightInv s)
    (hqueue : ∀ k, InFlight s'.messageQueue k → InFlight s.messageQueue k)
    (hrunning : s'.running = true → s.running = true)
    (hworker : s'.running = true → ∀ row, s.worker.attempt = some row →
      s'.worker.attempt = some row ∨ ¬ InFlight s'.messageQueue row.messageId) :
    FlightInv s' where
  unique k k' hk hk' := h.unique k k' (hqueue k hk) (hqueue k' hk')
  held hrun k hk := by
    obtain ⟨row, hattempt, hid⟩ := h.held (hrunning hrun) k (hqueue k hk)
    rcases hworker hrun row hattempt with hsame | hleft
    · exact ⟨row, hsame, hid⟩
    · rw [hid] at hleft
      exact absurd hk hleft

theorem not_inFlight (h : FlightInv s) (hrunning : s.running = true)
    (hattempt : s.worker.attempt = none) (k : String) :
    ¬ InFlight s.messageQueue k := by
  intro hk
  obtain ⟨row, hrow, -⟩ := h.held hrunning k hk
  rw [hattempt] at hrow
  cases hrow

theorem apply (h : FlightInv s) {op : DaoOp} (happly : op.apply s.messageQueue = .ok s'.messageQueue)
    (hop : op.stamps = none) (hworker : s'.worker = s.worker) (hrunning : s'.running = s.running) :
    FlightInv s' := by
  refine h.shrink (fun k => DaoOp.inFlight_of_apply happly hop) (fun hrun => hrunning ▸ hrun) ?_
  intro _ row hrow
  rw [hworker]
  exact .inl hrow

theorem stamp (h : FlightInv s) (hrunning : s.running = true) {row : QueueRow} {ts : String}
    {q : MessageQueue} (hworker : s.worker = .resolved row)
    (happly : (DaoOp.stampDeliveryAttemptStarted row.messageId ts).apply s.messageQueue = .ok q) :
    FlightInv { s with messageQueue := q, worker := .stamped row } := by
  have hnone := h.not_inFlight hrunning (by rw [hworker]; rfl)
  have honly : ∀ k, InFlight q k → row.messageId = k := by
    intro k hk
    rcases DaoOp.inFlight_before happly hk with hstamp | hbefore
    · exact Option.some.inj hstamp
    · exact absurd hbefore (hnone k)
  exact ⟨fun k k' hk hk' => (honly k hk).symm.trans (honly k' hk'),
    fun _ k hk => ⟨row, rfl, honly k hk⟩⟩

theorem ends (h : FlightInv s) {row : QueueRow} {ts : String} {op : DaoOp}
    {record : QueueTransition} (hrow : s.worker.attempt = some row)
    (htransition : s.worker.transition env ts = some (op, record))
    (hcommit : Committed s op record s') : FlightInv (s'.work .idle) := by
  have happly := hcommit.apply
  have hop := Worker.transition_stamps htransition
  have hleft : ¬ InFlight s'.messageQueue row.messageId := by
    rcases (Worker.transition_of_attempt hrow htransition).2 with rfl | ⟨reason, rfl⟩
    · exact not_inFlight_of_delivered happly
    · exact not_inFlight_of_failed happly
  refine h.shrink (fun k => DaoOp.inFlight_of_apply happly hop) (fun hrun => ?_)
    fun _ row' hrow' => .inr ?_
  · rw [← hcommit.running]
    exact hrun
  · rw [hrow] at hrow'
    cases hrow'
    exact hleft

end FlightInv

theorem PasteInv.transact_succeeds (h : PasteInv s.messageQueue s.worker s.pastes)
    (hrow : s.worker.attempt = some row)
    (htransition : s.worker.transition env ts = some (op, record)) :
    ∃ s', s.transact op record = .ok s' := by
  obtain ⟨r, hget, hflight⟩ := h.attempt row hrow
  obtain ⟨htarget, rfl | ⟨reason, rfl⟩⟩ := Worker.transition_of_attempt hrow htransition
  · obtain ⟨q, happly⟩ := transitionQueuedToDelivered_succeeds h.coherent hget hflight ts
    exact State.transact_succeeds happly htarget
  · obtain ⟨q, happly⟩ := transitionQueuedToFailed_succeeds h.coherent hget hflight reason ts
    exact State.transact_succeeds happly htarget

namespace FlightInv

theorem attempt (h : FlightInv s) (hpaste : PasteInv s.messageQueue s.worker s.pastes)
    {row : QueueRow} {l : WorkerLabel} (hrow : s.worker.attempt = some row)
    (hok : attemptEnds s (.worker l) = true) (hstep : stepWorker env s l = some s') :
    FlightInv s' := by
  cases stepWorker_attempt hrow hstep with
  | goes hw =>
    refine h.shrink (fun _ hk => hk) (fun hrun => hrun) fun _ row' hrow' => .inl ?_
    rw [← hrow', hrow]
    exact hw
  | pastes x =>
    refine h.shrink (fun _ hk => hk) (fun hrun => hrun) fun _ row' hrow' => .inl ?_
    rw [← hrow', hrow]
    rfl
  | ends htransition htransact => exact h.ends hrow htransition (State.transact_ok htransact)
  | refused htransition htransact =>
    obtain ⟨s₁, hs₁⟩ := hpaste.transact_succeeds hrow htransition
    rw [htransact] at hs₁
    cases hs₁
  | noRow hget =>
    obtain ⟨r, hget', -⟩ := hpaste.attempt row hrow
    rw [hget] at hget'
    cases hget'
  | leaves hleaves =>
    rw [hok] at hleaves
    cases hleaves

theorem outside (h : FlightInv s) (hrunning : s.running = true) {l : WorkerLabel}
    (hattempt : s.worker.attempt = none) (hchange : Change env s (.worker l) s') :
    FlightInv s' := by
  have hnone : ∀ row, s.worker.attempt ≠ some row := by
    intro row hrow
    rw [hattempt] at hrow
    cases hrow
  cases hchange with
  | worker hmove hfill =>
    rcases hfill with rfl | rfl <;>
      exact h.shrink (fun _ hk => hk) (fun hrun => hrun) fun _ row hrow => absurd hrow (hnone row)
  | stamp hworker happly => exact h.stamp hrunning hworker happly
  | paste hworker => rw [hworker] at hattempt; cases hattempt
  | @commitWorker ts op record s₁ htransition hcommit =>
    have hop := Worker.transition_stamps htransition
    exact h.shrink (fun k => DaoOp.inFlight_of_apply hcommit.apply hop) (fun _ => hrunning)
      fun _ row hrow => absurd hrow (hnone row)

theorem step (h : FlightInv s) (hpaste : PasteInv s.messageQueue s.worker s.pastes) {l : Label}
    (hok : attemptEnds s l = true) (hstep : step env s l = some s') : FlightInv s' := by
  have hchange := step_change hstep
  cases l with
  | worker l =>
    simp only [Daemon.step] at hstep
    split_ifs at hstep with hrunning
    cases hattempt : s.worker.attempt with
    | none => exact h.outside hrunning hattempt hchange
    | some row => exact h.attempt hpaste hattempt hok hstep
  | call t l =>
    cases hchange with
    | refused => exact h
    | call _ hfill =>
      rcases hfill with rfl | rfl <;> exact ⟨h.unique, h.held⟩
    | storeFlag => exact ⟨h.unique, h.held⟩
    | @commitCall _ ts op record s₁ htransition hcommit =>
      have happly : op.apply s.messageQueue =
          .ok (((s.calls t).record s s₁).goto t .idle).messageQueue := by
        simp only [State.goto, Call.record_messageQueue]
        exact hcommit.apply
      refine h.apply happly (Call.transition_stamps htransition) ?_ ?_
      · simp only [State.goto, Call.record_worker]
        exact hcommit.worker
      · simp only [State.goto, Call.record_running]
        exact hcommit.running
  | toggle | register =>
    cases hchange
    exact ⟨h.unique, h.held⟩
  | crash =>
    cases hchange
    exact ⟨h.unique, fun hrunning => by cases hrunning⟩
  | boot ts =>
    cases hchange with
    | boot _ happly =>
      have hnone := not_inFlight_of_recovered happly
      exact ⟨fun k _ hk => absurd hk (hnone k), fun _ k hk => absurd hk (hnone k)⟩

end FlightInv

theorem step_messageQueue {l : Label} (hstep : step env s l = some s') :
    s'.messageQueue = s.messageQueue ∨
      ∃ op : DaoOp, op.apply s.messageQueue = .ok s'.messageQueue ∧ ∀ k, op.stamps = some k →
        s.running = true ∧ ∃ row, s.worker = .resolved row ∧ row.messageId = k := by
  have hchange := step_change hstep
  cases hchange with
  | register | toggle | crash | refused | storeFlag | paste => exact .inl rfl
  | call _ hfill | worker _ hfill => rcases hfill with rfl | rfl <;> exact .inl rfl
  | boot ts happly => exact .inr ⟨_, happly, nofun⟩
  | commitCall htransition hcommit =>
    simp only [State.goto, Call.record_messageQueue]
    refine .inr ⟨_, hcommit.apply, fun k hk => ?_⟩
    rw [Call.transition_stamps htransition] at hk
    cases hk
  | commitWorker htransition hcommit =>
    refine .inr ⟨_, hcommit.apply, fun k hk => ?_⟩
    rw [Worker.transition_stamps htransition] at hk
    cases hk
  | @stamp row ts q hworker happly =>
    refine .inr ⟨_, happly, fun k hk => ?_⟩
    simp only [step] at hstep
    split_ifs at hstep with hrunning
    exact ⟨hrunning, row, hworker, Option.some.inj hk⟩

theorem step_stamps {l : Label} (hstep : step env s l = some s') {k : String}
    (hk : InFlight s'.messageQueue k) (hnot : ¬ InFlight s.messageQueue k) :
    s.running = true ∧ ∃ row, s.worker = .resolved row ∧ row.messageId = k := by
  rcases step_messageQueue hstep with hsame | ⟨op, happly, hstamp⟩
  · rw [hsame] at hk
    exact absurd hk hnot
  · exact hstamp k ((DaoOp.inFlight_before happly hk).resolve_right hnot)

variable {agents : List AgentRecord} {flag : KillSwitch.FlagValue}

/-- In every run in which each attempt is carried to one of its two last transactions, at most one
row is in flight at any moment, and a stamp commits when no row is in flight. -/
theorem one_row_in_flight
    (h : Reach (step env) (fun s l => attemptEnds s l = true) (State.init agents flag) s) :
    (∀ k k', InFlight s.messageQueue k → InFlight s.messageQueue k' →
      k = k') ∧
    ∀ l s', step env s l = some s' → ∀ k, InFlight s'.messageQueue k →
      ¬ InFlight s.messageQueue k → ∀ k', ¬ InFlight s.messageQueue k' := by
  have hinv : FlightInv s ∧ PasteInv s.messageQueue s.worker s.pastes := by
    refine Reach.invariant (fun s => FlightInv s ∧ PasteInv s.messageQueue s.worker s.pastes)
      ⟨FlightInv.init agents flag, PasteInv.init⟩ ?_ h
    rintro s l s' ⟨hflight, hpaste⟩ hok hstep
    exact ⟨hflight.step hpaste hok hstep, hpaste.change (step_change hstep)⟩
  refine ⟨hinv.1.unique, fun l s' hstep k hk hnot => ?_⟩
  obtain ⟨hrunning, row, hworker, -⟩ := step_stamps hstep hk hnot
  exact hinv.1.not_inFlight hrunning (by rw [hworker]; rfl)

def firstInFlight : List Label :=
  .boot "t0" :: sendLabels .hostOperator "m1" "t1" ++ sendLabels .hostOperator "m2" "t2" ++
    [.worker .poll, .worker .pick, .worker (.recheck true true), .worker (.resolve true),
      .worker (.commit "t3"), .worker .readBody]

def nextStamp : List Label :=
  [.worker .poll, .worker .pick, .worker (.recheck true true), .worker (.resolve true),
    .worker (.commit "t5")]

/-- The first attempt fails at `load_buffer`, and the transaction that should say so loses all its
retries. -/
theorem two_rows_in_flight :
    ∃ s, run (step sampleEnv) (State.init [sampleTarget] .enabled)
        (firstInFlight ++ [.worker (.tmuxError none), .worker .lockConflict] ++ nextStamp) = some s ∧
      InFlight s.messageQueue "m1" ∧ InFlight s.messageQueue "m2" := by decide +kernel

/-- The first row is marked failed, and the second one is stamped. -/
theorem one_row_in_flight_second :
    ∃ s, run (step sampleEnv) (State.init [sampleTarget] .enabled)
        (firstInFlight ++ [.worker (.tmuxError none), .worker (.commit "t4")] ++ nextStamp)
        = some s ∧
      InFlight s.messageQueue "m2" ∧
      ∀ k, InFlight s.messageQueue k → k = "m2" :=
  exists_run_and attemptEnds (by decide +kernel) fun _ hs hm2 k hk =>
    (one_row_in_flight hs).1 k "m2" hk hm2

end Daemon

end AgentTower.Routing
