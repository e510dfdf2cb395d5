import AgentTower.Routing.RouteDecision

/-!
# Lock conflicts in the routing worker

A lock conflict in the middle of an event ends the batch, so that the event comes again, but for one in
the insert: what that raises after its last attempt is a `SqliteLockConflict`, the clause for
`QueueServiceError` takes it for a decision about the event, and the cursor passes.
-/

namespace AgentTower.Routing.RouteWorker

open Transition Sql List
open EventLog (ofType selectEventsAfterCursor)

variable {maxPending : Nat} {env : RouteEnv} {agents : List AgentRecord} {s s' : State maxPending}

def lockRetriesSuffice (s : State maxPending) (l : Label) : Bool :=
  match s.worker, l with
  | .job _ (.inserting _ _ _ _ attempts), .worker (.fail message) =>
    !isLockConflict (operationalError message) || decide (attempts < lockRetries)
  | _, _ => true

def Outcome.isLockSkip : Outcome → Bool
  | .skipped reason _ => decide (reason = .queue (some .sqliteLockConflict))
  | _ => false

variable {j : Job} {stage : Stage} {ok : State maxPending → Label → Prop}

theorem isLockSkip_of_ne {winner target : Option AgentRecord} {reason : SkipReason}
    {subReason : Option String} (h : reason ≠ .queue (some .sqliteLockConflict)) :
    (skippedOutcome j winner target reason subReason).isLockSkip = false :=
  decide_eq_false h

/-! ## The invariant -/

def Worker.LockOk : Worker → Prop
  | .job _ (.advancing outcome) => outcome.isLockSkip = false
  | _ => True

structure LockInv (s : State maxPending) : Prop where
  worker : s.worker.LockOk
  decided : ∀ d ∈ s.decisions, d.outcome.isLockSkip = false

theorem Handled.lockOk {winner target : AgentRecord} {e : PyExc}
    (h : Handled j winner target e stage) (hcode : e.code ≠ some .sqliteLockConflict) :
    (Worker.job j stage).LockOk := by
  cases h with
  | skip => exact isLockSkip_of_ne fun heq => hcode (SkipReason.queue.inj heq)
  | duplicate => exact rfl

theorem StageMove.lockOk {l : WorkerLabel} {stage' : Stage}
    (hmove : StageMove env s j l stage stage') (hworker : s.worker = .job j stage)
    (hok : lockRetriesSuffice s (.worker l) = true) : (Worker.job j stage').LockOk := by
  cases hmove with
  | unmatched | readBack => exact rfl
  | matched | won | rendered | prepared | retried => trivial
  | noMaster _ hreason | unresolved _ _ hreason => exact isLockSkip_of_ne (hreason _)
  | refused hprepare hhandled => exact hhandled.lockOk (prepareSend_error hprepare).2
  | @rejected winner target m decision _ e _ _ happly hhandled =>
    rw [Decision.apply_insert] at happly
    refine hhandled.lockOk ?_
    rw [(MessageQueueDao.insertRow_error happly).1]
    nofun
  | exhausted hlock hattempts =>
    -- the step that the condition rules out
    simp only [lockRetriesSuffice, hworker, hlock, Bool.not_true, Bool.false_or,
      decide_eq_true_eq] at hok
    exact absurd hok hattempts

theorem AuditMove.lockOk {w w' : Worker} (hmove : AuditMove w w') (h : w.LockOk) : w'.LockOk := by
  cases hmove with
  | same => exact h
  | idle | draining | listing | emitted | raised => trivial

theorem LockInv.change {l : Label} (hchange : Change env s l s') (h : LockInv s)
    (hok : lockRetriesSuffice s l = true) : LockInv s' := by
  cases hchange with
  | @moved l w hmove =>
    refine ⟨?_, h.decided⟩
    show w.LockOk
    generalize hworker : s.worker = w₀ at hmove
    cases hmove with
    | stage hstage => exact hstage.lockOk hworker hok
    | listed | unlisted | cycleEnd | nextRoute | selected | batchEnd | nextEvent | abandoned =>
      trivial
  | inserted => exact ⟨trivial, h.decided⟩
  | @advanced j outcome hworker =>
    have hstage := h.worker
    rw [hworker] at hstage
    refine ⟨?_, fun d hd => ?_⟩
    · cases outcome <;> trivial
    · rcases mem_append.mp hd with hold | hnew
      · exact h.decided d hold
      · cases mem_singleton.mp hnew
        exact hstage
  | audited haudited =>
    have hworker := haudited.worker.lockOk h.worker
    obtain ⟨_, _, _, _, _, rfl⟩ := haudited.frame
    exact ⟨hworker, h.decided⟩
  | observed | routeAdded | enabledSet | routeRemoved | registered | queued =>
    exact ⟨h.worker, h.decided⟩

abbrev LockReachable (env : RouteEnv) (maxPending : Nat) (agents : List AgentRecord) :
    State maxPending → Prop :=
  Reach (step env) (fun s l => lockRetriesSuffice s l = true) (State.init maxPending agents)

theorem LockInv.init (maxPending : Nat) (agents : List AgentRecord) :
    LockInv (State.init maxPending agents) :=
  ⟨trivial, fun _ hd => absurd hd not_mem_nil⟩

theorem LockReachable.lockInv (h : LockReachable env maxPending agents s) : LockInv s :=
  Reach.invariant LockInv (.init maxPending agents)
    (fun _ _ _ hs hok hstep => hs.change (step_change hstep) hok) h

theorem LockReachable.reachable (h : LockReachable env maxPending agents s) :
    Reachable env maxPending agents s :=
  h.weaken fun _ _ _ => trivial

/-! ## The event comes again -/

theorem isNext_of_reach
    (hrun : Reach (step env) ok s s') {cursor : Nat} {p : Event → Bool} {e : Event}
    (h : Log.IsNext s.events cursor p e) : Log.IsNext s'.events cursor p e := by
  refine Reach.invariant (fun t : State maxPending => Log.IsNext t.events cursor p e) h
    (fun t l t' ht _ hstep => ?_) hrun
  cases step_change hstep with
  | inserted | observed =>
    show Log.IsNext (EventLog.insert t.events _ _ _ _) cursor p e
    exact ht.push
  | audited haudited =>
    obtain ⟨_, _, _, _, _, rfl⟩ := haudited.frame
    exact ht
  | moved | advanced | routeAdded | enabledSet | routeRemoved | registered | queued => exact ht

theorem fail_job {message : String} (hworker : s.worker = .job j stage)
    (hstep : step env s (.worker (.fail message)) = some s') :
    s'.routes = s.routes ∧ stage.isEmitting = false := by
  constructor
  · cases step_change hstep with
    | moved => rfl
    | audited haudited =>
      obtain ⟨_, _, _, _, _, rfl⟩ := haudited.frame
      rfl
  · cases stage with
    | emitting entry =>
      rw [step_job hworker] at hstep
      cases hstep
    | matching | arbitrating | resolving | enqueuing | inserting | inserted | advancing => rfl

theorem CursorInv.decided_or_next (h : CursorInv s)
    (hworker : s.worker = .job j stage) (hemitting : stage.isEmitting = false)
    (hrun : Reach (step env) ok s s')
    (h' : CursorInv s') {r : RouteRow} (hr : s'.routes.get j.route.routeId = some r) :
    DecidedOn s'.decisions r j.ev ∨
      Log.IsNext s'.events r.lastConsumedEventId (ofType r.eventType) j.ev := by
  have hunread := h.worker.unread
  simp only [hworker, Worker.unread, hemitting] at hunread
  have hbatch := (hunread j.route (j.ev :: j.later) rfl).1
  obtain ⟨t, ht, hrule, hle⟩ := route_of_reach hrun hbatch.created hr
  obtain ⟨hroute, hahead⟩ := hbatch.ahead t ht
  have hnext := isNext_of_reach hrun hahead.isNext
  rw [← RouteRow.eventType_of_rule (hrule.trans hroute)] at hnext
  by_cases hpassed : j.ev.eventId ≤ r.lastConsumedEventId
  · -- the creation record is one and the same at both ends of the run
    obtain ⟨r₀, hr₀, hrule₀, hle₀, -⟩ := h.routes _ t ht
    obtain ⟨r₁, hr₁, hrule₁, -, -, hcovered⟩ := h'.routes _ r hr
    have hsame : r₀ = r₁ := inj_on_of_nodup_map h'.nodup (created_of_reach hrun hr₀) hr₁
      (RouteRow.routeId_of_rule (hrule₀.trans (hrule.symm.trans hrule₁.symm)))
    subst hsame
    refine .inl (hcovered j.ev hnext.mem hnext.test ?_ hpassed)
    exact Nat.lt_of_le_of_lt hle₀ hahead.isNext.unread
  · exact .inr (hnext.mono hle (by omega))

/-- In every run in which no insert runs out of attempts: an event of a route's type that the cursor
has passed since the route's creation has been decided, and not by a lock conflict; and a lock
conflict at any access of an event leaves all cursors where they are, and in every later state the
route's next selection starts with that event, unless a decision about it, again not a lock
conflict, has been committed. -/
theorem lock_conflict_retried (h : LockReachable env maxPending agents s) :
    (∀ r ∈ s.routes.rows, ∃ r₀ ∈ s.created, r₀.routeId = r.routeId ∧
        ∀ e ∈ s.events.rows, e.eventType = r.eventType →
          r₀.lastConsumedEventId < e.eventId → e.eventId ≤ r.lastConsumedEventId →
          ∃ d ∈ s.decisions, d.route.rule = r.rule ∧ d.ev = e ∧ d.outcome.isLockSkip = false ∧
            OutcomeOk (LookedUp env (State.init maxPending agents) s) s.messageQueue d.route d.ev
              d.outcome) ∧
      ∀ j stage message s', s.worker = .job j stage →
        isLockConflict (operationalError message) = true →
        lockRetriesSuffice s (.worker (.fail message)) = true →
        step env s (.worker (.fail message)) = some s' →
        s'.routes = s.routes ∧
          ∀ s'', Reach (step env) (fun s l => lockRetriesSuffice s l = true) s' s'' →
            ∀ r, s''.routes.get j.route.routeId = some r →
              (∃ d ∈ s''.decisions, d.route.rule = r.rule ∧ d.ev = j.ev ∧
                d.outcome.isLockSkip = false) ∨
              (selectEventsAfterCursor s''.events r.lastConsumedEventId r.eventType
                env.batchSize).head? = some j.ev := by
  have hinv := h.reachable.cursorInv
  constructor
  · intro r hr
    obtain ⟨r₀, hr₀, hrule₀, -, -, hcovered⟩ := hinv.routes _ r (Table.get_of_mem hr)
    refine ⟨r₀, hr₀, RouteRow.routeId_of_rule hrule₀, fun e he htype hlt hle => ?_⟩
    obtain ⟨d, hd, hrule, hev⟩ := hcovered e he (decide_eq_true htype) hlt hle
    exact ⟨d, hd, hrule, hev, h.lockInv.decided d hd, h.reachable.decisionInv.decided d hd⟩
  · intro j stage message s' hworker _ hok hstep
    obtain ⟨hroutes, hemitting⟩ := fail_job hworker hstep
    refine ⟨hroutes, fun s'' hrun r hr => ?_⟩
    have hfirst : Reach (step env) (fun s l => lockRetriesSuffice s l = true) s s' :=
      .next .start hok hstep
    have hrun' := hfirst.trans hrun
    have h'' : LockReachable env maxPending agents s'' := h.trans hrun'
    rcases hinv.decided_or_next hworker hemitting hrun' h''.reachable.cursorInv hr with
      ⟨d, hd, hrule, hev⟩ | hnext
    · exact .inl ⟨d, hd, hrule, hev, h''.lockInv.decided d hd⟩
    · exact .inr (hnext.head?_after env.batchSize_bounds.1)

def lockedOut : List Label :=
  setupLabels ++ arbitrateLabels ++ gateLabels "m1" ++
    List.replicate 4 (.worker (.fail "database is locked")) ++ [.worker .commit]

/-- The cursor has passed the event, and the one reason is the lock: there is a master and a target,
the gate has let the message through, and there is no row. -/
theorem lock_conflict_passed :
    ∃ s, run (step sampleRouteEnv) (State.init 10000 [sampleMaster, sampleSlave])
        lockedOut = some s ∧
      s.created = [sampleRoute 0] ∧ s.routes.rows = [sampleRoute 1] ∧
      s.events.rows = [sampleEvent] ∧ s.messageQueue.rows = [] ∧
      inScope (sampleRoute 0) sampleEvent sampleSlave = true ∧
      ∃ d, s.decisions = [d] ∧ d.route = sampleRoute 0 ∧ d.ev = sampleEvent ∧
        d.outcome.isLockSkip = true := by
  obtain ⟨s, hs, hcreated, hroutes, hevents, hqueue, hdecisions⟩ : ∃ s, run (step sampleRouteEnv)
      (State.init 10000 [sampleMaster, sampleSlave]) lockedOut = some s ∧
      s.created = [sampleRoute 0] ∧ s.routes.rows = [sampleRoute 1] ∧
      s.events.rows = [sampleEvent] ∧ s.messageQueue.rows = [] ∧
      s.decisions.map (fun d => (d.route, d.ev, d.outcome.isLockSkip))
        = [(sampleRoute 0, sampleEvent, true)] := by decide +kernel
  refine ⟨s, hs, hcreated, hroutes, hevents, hqueue, by decide, ?_⟩
  obtain ⟨d, hd, hfields⟩ := map_eq_singleton_iff.mp hdecisions
  simp only [Prod.mk.injEq] at hfields
  exact ⟨d, hd, hfields⟩

def insertPending : List Label := setupLabels ++ arbitrateLabels ++ gateLabels "m1"

def onSample : Worker → Bool
  | .job j _ => decide (j.route = sampleRoute 0) && decide (j.ev = sampleEvent)
  | _ => false

/-- The first attempt of the insert meets a lock: the cursor stays, and until the event is decided
the next selection starts with it. -/
theorem lock_conflict_retried_insertPending :
    ∃ s s', run (step sampleRouteEnv) (State.init 10000 [sampleMaster, sampleSlave])
        insertPending = some s ∧
      step sampleRouteEnv s (.worker (.fail "database is locked")) = some s' ∧
      s'.routes = s.routes ∧
      ∀ r, s'.routes.get "r1" = some r →
        (∃ d ∈ s'.decisions, d.route.rule = r.rule ∧ d.ev = sampleEvent ∧
          d.outcome.isLockSkip = false) ∨
        (selectEventsAfterCursor s'.events r.lastConsumedEventId r.eventType 100).head?
          = some sampleEvent := by
  have hrun : (runWhile (step sampleRouteEnv) lockRetriesSuffice
      (State.init 10000 [sampleMaster, sampleSlave]) insertPending).any (fun s =>
        onSample s.worker &&
        lockRetriesSuffice s (.worker (.fail "database is locked")) &&
        (step sampleRouteEnv s (.worker (.fail "database is locked"))).isSome) = true := by
    decide +kernel
  obtain ⟨s, hs, hstate⟩ := (Option.any_eq_true _ _).mp hrun
  simp only [Bool.and_eq_true] at hstate
  obtain ⟨⟨hjob, hok⟩, henabled⟩ := hstate
  obtain ⟨s', hstep⟩ := Option.isSome_iff_exists.mp henabled
  unfold onSample at hjob
  split at hjob
  · rename_i j stage hworker
    simp only [Bool.and_eq_true, decide_eq_true_eq] at hjob
    have hreach := reach_of_runWhile .start hs
    obtain ⟨hroutes, hlater⟩ := (lock_conflict_retried hreach).2 j stage "database is locked" s'
      hworker (by decide) hok hstep
    rw [hjob.1, hjob.2] at hlater
    exact ⟨s, s', run_of_runWhile hs, hstep, hroutes, hlater s' .start⟩
  · cases hjob

end AgentTower.Routing.RouteWorker
