import AgentTower.Routing.DaemonChange

/-!
# A message is pasted at most once

The worker stamps a row before it touches tmux.  The stamp is never taken back, and a stamped row can no
longer be claimed: after a crash the recovery fails it instead of trying again.
-/

namespace AgentTower.Routing

open Transition Sql List

def DaoOp.endsAttempt : DaoOp → Bool
  | .transitionQueuedToDelivered .. | .transitionQueuedToFailed .. | .recoverInFlightRows _ => true
  | _ => false

variable {r r' : QueueRow} {op : DaoOp}

theorem QueueRow.stamped_of_inFlight (h : r.inFlight = true) :
    r.deliveryAttemptStartedAt.isSome = true := by
  simp only [QueueRow.inFlight, Bool.and_eq_true] at h
  exact h.1.1.1

theorem QueueRow.not_ready_of_inFlight (h : r.inFlight = true) : r.ready = false := by
  have hstamp := QueueRow.stamped_of_inFlight h
  rw [QueueRow.ready, Option.isNone_eq_false_iff.mpr hstamp, Bool.and_false]

theorem RowStep.stamped (hstep : RowStep op r r') (h : r.deliveryAttemptStartedAt.isSome = true) :
    r'.deliveryAttemptStartedAt.isSome = true := by
  cases hstep with
  | stamp => rfl
  | deliver | fail | recheck | approve | delay | cancel | recover => exact h

theorem RowStep.endsAttempt (hstep : RowStep op r r')
    (h : r.inFlight = true) : op.endsAttempt = true := by
  cases hstep with
  | deliver | fail | recover => rfl
  | stamp _ hready | recheck _ _ hready =>
    rw [QueueRow.not_ready_of_inFlight h] at hready
    cases hready
  | approve _ _ _ hflight | delay _ _ _ hflight | cancel _ _ _ hflight =>
    rw [h] at hflight
    cases hflight

theorem DaoOp.apply_inFlight {q q' : MessageQueue} (h : op.apply q = .ok q')
    (hop : op.endsAttempt = false) {k : String} (hget : q.get k = some r)
    (hflight : r.inFlight = true) : q'.get k = some r := by
  obtain ⟨r', hget', hsame | hstep⟩ := DaoOp.apply_get h hget
  · rw [hget', hsame]
  · rw [hstep.endsAttempt hflight] at hop
    cases hop

namespace Daemon

open MessageQueueDao (Replaced stampDeliveryAttemptStarted_ok)

variable {env : Env} {s s' : State}

def Worker.attempt : Worker → Option QueueRow
  | .stamped row | .loading row _ | .loaded row _ | .pasted row _ | .submitted row _
  | .failing row _ => some row
  | _ => none

def Worker.unpasted : Worker → Option QueueRow
  | .stamped row | .loading row _ | .loaded row _ => some row
  | _ => none

def pastedIds (pastes : List Paste) : List String := pastes.map Paste.messageId

structure PasteInv (q : MessageQueue) (worker : Worker) (pastes : List Paste) : Prop where
  coherent : MessageQueue.Coherent q
  attempt : ∀ row, worker.attempt = some row →
    ∃ r, q.get row.messageId = some r ∧ r.inFlight = true
  unpasted : ∀ row, worker.unpasted = some row → row.messageId ∉ pastedIds pastes
  started : ∀ p ∈ pastes, p.state = some .queued ∧
    ∃ r, q.get p.messageId = some r ∧ r.deliveryAttemptStartedAt.isSome = true
  once : (pastedIds pastes).Nodup

namespace PasteInv

variable {q q' : MessageQueue} {worker : Worker} {pastes : List Paste}

theorem init : PasteInv Table.empty .idle [] where
  coherent k r hr := by cases (Table.get_empty k).symm.trans hr
  attempt row hrow := by cases hrow
  unpasted row hrow := by cases hrow
  started p hp := by cases hp
  once := nodup_nil

theorem stopped (h : PasteInv q worker pastes) {w : Worker} (hattempt : w.attempt = none)
    (hunpasted : w.unpasted = none) : PasteInv q w pastes where
  coherent := h.coherent
  attempt row hrow := by rw [hattempt] at hrow; cases hrow
  unpasted row hrow := by rw [hunpasted] at hrow; cases hrow
  started := h.started
  once := h.once

theorem apply (h : PasteInv q worker pastes) {op : DaoOp} (happly : op.apply q = .ok q')
    (hop : op.endsAttempt = false ∨ worker.attempt = none) : PasteInv q' worker pastes where
  coherent := DaoOp.apply_coherent happly h.coherent
  attempt row hrow := by
    rcases hop with hop | hnone
    · obtain ⟨r, hget, hflight⟩ := h.attempt row hrow
      exact ⟨r, DaoOp.apply_inFlight happly hop hget hflight, hflight⟩
    · rw [hnone] at hrow
      cases hrow
  unpasted := h.unpasted
  started p hp := by
    obtain ⟨hstate, r, hget, hstamp⟩ := h.started p hp
    obtain ⟨r', hget', hsame | hstep⟩ := DaoOp.apply_get happly hget
    · exact ⟨hstate, r', hget', hsame ▸ hstamp⟩
    · exact ⟨hstate, r', hget', hstep.stamped hstamp⟩
  once := h.once

variable {row : QueueRow}

theorem stamp (h : PasteInv q worker pastes) {ts : String}
    (happly : (DaoOp.stampDeliveryAttemptStarted row.messageId ts).apply q = .ok q') :
    PasteInv q' (.stamped row) pastes := by
  obtain ⟨r, hready, hreplaced⟩ := stampDeliveryAttemptStarted_ok happly
  obtain ⟨hqueued, hunstamped⟩ := QueueRow.ready_iff.mp hready
  have hidle : PasteInv q' .idle pastes := (h.stopped (w := .idle) rfl rfl).apply happly (.inr rfl)
  have hget := hreplaced.after row.messageId
  rw [if_pos rfl] at hget
  refine ⟨hidle.coherent, ?_, ?_, hidle.started, hidle.once⟩
  · intro row' hrow'
    cases hrow'
    refine ⟨_, hget, (hidle.coherent _ _ hget).inFlight_iff.mpr ⟨hqueued, rfl⟩⟩
  · intro row' hrow' hpasted
    cases hrow'
    obtain ⟨p, hp, hid⟩ := mem_map.mp hpasted
    obtain ⟨-, r', hget', hstamp⟩ := h.started p hp
    rw [hid, hreplaced.before] at hget'
    cases hget'
    rw [hunstamped] at hstamp
    cases hstamp

theorem paste {body : List UInt8} (h : PasteInv q (.loaded row body) pastes) :
    PasteInv q (.pasted row body)
      (pastes ++ [⟨row.messageId, (q.get row.messageId).map QueueRow.state⟩]) := by
  obtain ⟨r, hget, hflight⟩ := h.attempt row rfl
  have hqueued := ((h.coherent _ r hget).inFlight_iff.mp hflight).1
  refine ⟨h.coherent, h.attempt, fun _ hrow => (by cases hrow), ?_, ?_⟩
  · intro p hp
    rcases mem_append.mp hp with hp | hp
    · exact h.started p hp
    · cases mem_singleton.mp hp
      exact ⟨by rw [hget, Option.map_some, hqueued], r, hget, QueueRow.stamped_of_inFlight hflight⟩
  · rw [pastedIds, map_append]
    refine nodup_append.mpr ⟨h.once, nodup_singleton _, ?_⟩
    intro a ha b hb hab
    cases mem_singleton.mp hb
    have hid : a = row.messageId := hab
    exact h.unpasted row rfl (hid ▸ ha)

theorem move (h : PasteInv s.messageQueue s.worker s.pastes) (hmove : WorkerMove s worker) :
    PasteInv s.messageQueue worker s.pastes := by
  cases hmove with
  | idle | dead | polled | picked | rechecked | blocking | resolved => exact h.stopped rfl rfl
  | loading body hw | loaded hw =>
    rw [hw] at h
    exact ⟨h.coherent, h.attempt, h.unpasted, h.started, h.once⟩
  | submitted hw =>
    rw [hw] at h
    exact ⟨h.coherent, h.attempt, fun _ hrow => (by cases hrow), h.started, h.once⟩
  | failing reason hw =>
    rcases hw with hw | hw | hw <;> rw [hw] at h <;>
      exact ⟨h.coherent, h.attempt, fun _ hrow => (by cases hrow), h.started, h.once⟩

end PasteInv

theorem Call.transition_endsAttempt {call : Call} {ts : String} {op : DaoOp}
    {record : QueueTransition} (h : call.transition env ts = some (op, record)) :
    op.endsAttempt = false := by
  cases call with
  | insert m decision => cases decision <;> cases h <;> rfl
  | _ => cases h <;> rfl

theorem PasteInv.change {l : Label} (h : PasteInv s.messageQueue s.worker s.pastes)
    (hchange : Change env s l s') : PasteInv s'.messageQueue s'.worker s'.pastes := by
  cases hchange with
  | register | toggle | refused | storeFlag => exact h
  | crash => exact h.stopped rfl rfl
  | boot ts happly => exact (h.stopped (w := .idle) rfl rfl).apply happly (.inr rfl)
  | call _ hfill => rcases hfill with rfl | rfl <;> exact h
  | commitCall htransition hcommit =>
    have hop := Call.transition_endsAttempt htransition
    have hafter := h.apply hcommit.apply (.inl hop)
    simpa only [State.goto, Call.record_messageQueue, Call.record_worker, Call.record_pastes,
      hcommit.worker, hcommit.pastes] using hafter
  | worker hmove hfill => rcases hfill with rfl | rfl <;> exact h.move hmove
  | stamp _ happly => exact h.stamp happly
  | paste hworker =>
    rw [hworker] at h
    exact h.paste
  | commitWorker _ hcommit =>
    have hafter := (h.stopped (w := .idle) rfl rfl).apply hcommit.apply (.inr rfl)
    rw [← hcommit.pastes] at hafter
    exact hafter

abbrev Reachable (env : Env) (agents : List AgentRecord) (flag : KillSwitch.FlagValue) :
    State → Prop :=
  Reach (step env) anyStep (State.init agents flag)

variable {agents : List AgentRecord} {flag : KillSwitch.FlagValue}

theorem Reachable.pasteInv (h : Reachable env agents flag s) :
    PasteInv s.messageQueue s.worker s.pastes :=
  Reach.invariant (fun s => PasteInv s.messageQueue s.worker s.pastes) PasteInv.init
    (fun _ _ _ hinv _ hstep => hinv.change (step_change hstep)) h

/-- In every run, crashes, lock conflicts and concurrent operators included, the paste of a message
is started at most once, and whenever one is started the committed row is `queued`. -/
theorem paste_started_at_most_once (h : Reachable env agents flag s) :
    (s.pastes.map Paste.messageId).Nodup ∧ ∀ p ∈ s.pastes, p.state = some .queued :=
  ⟨h.pasteInv.once, fun p hp => (h.pasteInv.started p hp).1⟩

def sampleEnv : Env := ⟨fun _ => "hi", fun _ => "8f43", fun _ => "", defaultEnvelopeBodyMaxBytes⟩

def sampleTarget : AgentRecord :=
  ⟨"agt_00000000000b", "c1", "%0", .slave, "codex", "worker", true⟩

def sendLabels (sender : Sender) (messageId ts : String) : List Label :=
  [.call 0 (.sendInput sender ⟨"agt_00000000000b", [104, 105], .direct, none, none⟩),
    .call 0 (.gate messageId ts true true), .call 0 (.commit ts)]

def pasteLabels (ts : String) : List Label :=
  [.worker .poll, .worker .pick, .worker (.recheck true true), .worker (.resolve true),
    .worker (.commit ts), .worker .readBody, .worker .load, .worker .paste]

/-- The daemon dies in the paste; the next boot fails the row, and an operator cannot revive it. -/
def crashInPaste : List Label :=
  .boot "t0" :: sendLabels .hostOperator "m1" "t1" ++ pasteLabels "t2" ++
    [.crash, .boot "t3", .call 0 (.approve "m1" "host-operator"), .call 0 .approveCheck,
      .call 0 (.commit "t4"), .worker .poll, .worker .pick]

theorem paste_started_at_most_once_crashInPaste :
    ∃ s, run (step sampleEnv) (State.init [sampleTarget] .enabled) crashInPaste = some s ∧
      s.pastes = [⟨"m1", some .queued⟩] ∧ (s.pastes.map Paste.messageId).Nodup :=
  exists_run_and (fun _ _ => true) (by decide +kernel) fun _ hs _ =>
    (paste_started_at_most_once (hs.weaken fun _ _ _ => trivial)).1

end Daemon

end AgentTower.Routing
