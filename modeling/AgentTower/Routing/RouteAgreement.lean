import AgentTower.Routing.RouteEntries

/-!
# The audit trail and the queue

A `route_matched` line names the master and the target of the attempt that moved the cursor; the row
names those of the attempt that inserted it.  After a crash between the two transactions these are
different attempts, and the second may come to another winner, or to none.  The trail agrees with the
queue as long as every attempt that has a row already comes to the row's master and target.
-/

namespace AgentTower.Routing.RouteWorker

open Transition Sql List

variable {maxPending : Nat} {env : RouteEnv} {s s' : State maxPending}

/-! ## Rows and their agents -/

def RoutedTo (q : MessageQueue) (routeEvent : String × Nat) (senderId targetId : String) : Prop :=
  ∃ r ∈ q.rows, r.routeEvent = some routeEvent ∧ r.senderAgentId = senderId ∧
    r.targetAgentId = targetId

def insertsRouted : DaoOp → Bool
  | .insertQueued m | .insertBlocked m _ => decide (m.origin = .route)
  | _ => false

/-- What the index on the route and the event, and the agents of its rows, look like is the same. -/
def SameRoutes (q q' : MessageQueue) : Prop :=
  ∀ routeEvent senderId targetId,
    RoutedTo q' routeEvent senderId targetId ↔ RoutedTo q routeEvent senderId targetId

section Rows

variable {q q' : MessageQueue}

variable {routeId : String} {eventId : Nat} {m : NewMessage} {decision : Decision}

theorem routed_iff :
    Routed q routeId eventId ↔ ∃ senderId targetId,
      RoutedTo q (routeId, eventId) senderId targetId := by
  constructor
  · rintro ⟨r, hr, hindex⟩
    exact ⟨_, _, r, hr, hindex, rfl, rfl⟩
  · rintro ⟨_, _, r, hr, hindex, -, -⟩
    exact ⟨r, hr, hindex⟩

theorem SameRoutes.routed (h : SameRoutes q q') :
    Routed q' routeId eventId ↔ Routed q routeId eventId := by
  simp only [routed_iff, h _ _ _]

variable {op : DaoOp}

theorem rowStep_agents {r r' : QueueRow} (h : RowStep op r r') :
    r'.senderAgentId = r.senderAgentId ∧ r'.targetAgentId = r.targetAgentId := by
  cases h <;> exact ⟨rfl, rfl⟩

theorem sameRoutes_apply (hop : insertsRouted op = false)
    (happly : op.apply q = .ok q') : SameRoutes q q' := by
  intro routeEvent senderId targetId
  constructor
  · rintro ⟨r', hr', hindex, hsender, htarget⟩
    rcases DaoOp.apply_source happly (Table.get_of_mem hr') with
      ⟨r, hr, rfl | hstep⟩ | ⟨-, m, decision, rfl, -, rfl⟩
    · exact ⟨r', Table.mem_of_get hr, hindex, hsender, htarget⟩
    · obtain ⟨hsender', htarget'⟩ := rowStep_agents hstep
      exact ⟨r, Table.mem_of_get hr, hstep.routeEvent.symm.trans hindex,
        hsender'.symm.trans hsender, htarget'.symm.trans htarget⟩
    · -- the new row is a direct one, which is not in the index
      have horigin : m.origin ≠ .route := by
        cases decision <;> exact of_decide_eq_false hop
      simp [QueueRow.routeEvent, NewMessage.row, horigin] at hindex
  · rintro ⟨r, hr, hindex, hsender, htarget⟩
    obtain ⟨r', hr', rfl | hstep⟩ := DaoOp.apply_get happly (Table.get_of_mem hr)
    · exact ⟨r', Table.mem_of_get hr', hindex, hsender, htarget⟩
    · obtain ⟨hsender', htarget'⟩ := rowStep_agents hstep
      exact ⟨r', Table.mem_of_get hr', hstep.routeEvent.trans hindex,
        hsender'.trans hsender, htarget'.trans htarget⟩

theorem sameRoutes_perform (hop : insertsRouted op = false) (q : MessageQueue) :
    SameRoutes q (op.perform q) := by
  unfold DaoOp.perform
  split
  · rename_i happly
    exact sameRoutes_apply hop happly
  · exact fun _ _ _ => Iff.rfl

theorem Job.Carries.routedTo_insert {j : Job}
    (h : j.Carries m) (happly : (decision.insert m).apply q = .ok q') {routeEvent : String × Nat}
    {senderId targetId : String} :
    RoutedTo q' routeEvent senderId targetId ↔ RoutedTo q routeEvent senderId targetId ∨
      (j.route.routeId, j.ev.eventId) = routeEvent ∧ m.sender.agentId = senderId ∧
        m.target.agentId = targetId := by
  obtain ⟨hfresh, hget⟩ := Decision.insert_ok happly
  have hindex := h.routeEvent decision
  constructor
  · rintro ⟨r', hr', hroute, hsender, htarget⟩
    have hr' := Table.get_of_mem hr'
    rw [hget] at hr'
    split at hr'
    · cases hr'
      exact .inr ⟨Option.some.inj (hindex.symm.trans hroute), hsender, htarget⟩
    · exact .inl ⟨r', Table.mem_of_get hr', hroute, hsender, htarget⟩
  · rintro (⟨r, hr, hroute, hsender, htarget⟩ | ⟨rfl, rfl, rfl⟩)
    · have hr := Table.get_of_mem hr
      refine ⟨r, Table.mem_of_get (k := r.messageId) ?_, hroute, hsender, htarget⟩
      rw [hget, if_neg fun heq => ?_]
      · exact hr
      · rw [heq, hfresh] at hr
        cases hr
    · refine ⟨_, Table.mem_of_get (k := m.messageId) ?_, hindex, rfl, rfl⟩
      rw [hget, if_pos rfl]

theorem insert_error_class {e : PyExc}
    (h : (decision.insert m).apply q = .error e) : e.isinstance .queueServiceError = false := by
  rw [Decision.apply_insert] at h
  unfold MessageQueueDao.insertRow at h
  split at h <;> cases h
  simp [PyExc.isinstance, integrityError, ExcClass.mro]

end Rows

/-! ## Agreement -/

def AuditEntry.Agrees (q : MessageQueue) : AuditEntry → Prop
  | .routeMatched eventId routeId winnerId targetId _ _ =>
    RoutedTo q (routeId, eventId) winnerId targetId
  | .routeSkipped eventId routeId .. => ¬ Routed q routeId eventId
  | .other _ => True

def RowsAre (q : MessageQueue) (j : Job) (winner target : AgentRecord) : Prop :=
  ∀ senderId targetId, RoutedTo q (j.route.routeId, j.ev.eventId) senderId targetId →
    winner.agentId = senderId ∧ target.agentId = targetId

def StageAgrees (q : MessageQueue) (j : Job) : Stage → Prop
  | .arbitrating source => isAgentId source.agentId = true
  | .resolving source winner => isAgentId source.agentId = true ∧ ∀ senderId targetId,
      RoutedTo q (j.route.routeId, j.ev.eventId) senderId targetId → winner.agentId = senderId
  | .enqueuing winner target _ => isAgentId target.agentId = true ∧ RowsAre q j winner target
  | .inserting winner target m _ _ => j.Carries m ∧ m.sender.agentId = winner.agentId ∧
      m.target.agentId = target.agentId ∧ RowsAre q j winner target
  | .inserted winner target =>
    RoutedTo q (j.route.routeId, j.ev.eventId) winner.agentId target.agentId
  | .advancing outcome => ∀ entry, outcome.entry = some entry → entry.Agrees q
  | _ => True

def Worker.Agrees (q : MessageQueue) : Worker → Prop
  | .job j stage => StageAgrees q j stage
  | _ => True

structure AgreeInv (s : State maxPending) : Prop where
  agents : ∀ a ∈ s.agents, isAgentId a.agentId = true
  worker : s.worker.Agrees s.messageQueue
  entries : ∀ entry, s.Accounted entry → entry.Agrees s.messageQueue

section Same

variable {q q' : MessageQueue}

theorem AuditEntry.Agrees.same {entry : AuditEntry} (h : entry.Agrees q)
    (hsame : SameRoutes q q') : entry.Agrees q' := by
  cases entry with
  | routeMatched => exact (hsame _ _ _).mpr h
  | routeSkipped => exact fun hrouted => h (hsame.routed.mp hrouted)
  | other => trivial

theorem Worker.Agrees.same {w : Worker} (h : w.Agrees q) (hsame : SameRoutes q q') :
    w.Agrees q' := by
  cases w with
  | idle | draining | listing | cycle | batch => trivial
  | job j stage =>
    cases stage with
    | matching | emitting => trivial
    | arbitrating => exact h
    | resolving | enqueuing => exact ⟨h.1, fun _ _ hrow => h.2 _ _ ((hsame _ _ _).mp hrow)⟩
    | inserting =>
      exact ⟨h.1, h.2.1, h.2.2.1, fun _ _ hrow => h.2.2.2 _ _ ((hsame _ _ _).mp hrow)⟩
    | inserted => exact (hsame _ _ _).mpr h
    | advancing => exact fun entry hentry => (h entry hentry).same hsame

end Same

/-! ## The second attempt -/

/-- The attempt does not depart from a row that its event has already: the arbitration comes to the
sender of the row, the rule to its target, and neither the template nor the gate nor the retries of
the insert make a skip of it.  An exception that ends the batch is no departure. -/
def replayAgrees (env : RouteEnv) (agents : List AgentRecord) (j : Job) (row : QueueRow) :
    Stage → WorkerLabel → Bool
  | .arbitrating _, .arbitrate =>
    match pickMaster j.route.masterRule (listActiveMasters agents) with
    | .won winner => decide (winner.agentId = row.senderAgentId)
    | .skip _ => false
  | .resolving source _, .resolve =>
    match resolveRouteTarget agents j.route.targetRule source with
    | .error _ => true
    | .ok (.error _) => false
    | .ok (.ok target) =>
      decide (target.agentId = row.targetAgentId) &&
        match env.renderTemplate j.route.template (buildTemplateFields j.ev source)
            j.ev.excerpt with
        | .renderError _ => false
        | _ => true
  | .enqueuing winner target body, .gate messageId ts routingEnabled containerActive
      paneResolvable =>
    (prepareSend env.toEnv agents routingEnabled winner (routeRequest j target body) messageId ts
      containerActive paneResolvable).isOk
  | .inserting _ _ _ _ attempts, .fail message =>
    !isLockConflict (operationalError message) || decide (attempts < lockRetries)
  | _, _ => true

/-- The worker's attempts agree with the rows that are there; the rest of the daemon inserts no row
of a route, and registers agents under well-formed ids only. -/
def attemptsAgree (env : RouteEnv) (s : State maxPending) : Label → Bool
  | .worker l =>
    match s.worker with
    | .job j stage => s.messageQueue.rows.all fun row =>
        !decide (row.routeEvent = some (j.route.routeId, j.ev.eventId)) ||
          replayAgrees env s.agents j row stage l
    | _ => true
  | .queue op => !insertsRouted op
  | .register agents => agents.all fun a => isAgentId a.agentId
  | _ => true

def ReplaysAgree (env : RouteEnv) (s : State maxPending) (j : Job) (stage : Stage)
    (l : WorkerLabel) : Prop :=
  ∀ row ∈ s.messageQueue.rows, row.routeEvent = some (j.route.routeId, j.ev.eventId) →
    replayAgrees env s.agents j row stage l = true

theorem replaysAgree_of_attemptsAgree {j : Job} {stage : Stage} {l : WorkerLabel}
    (hworker : s.worker = .job j stage) (h : attemptsAgree env s (.worker l) = true) :
    ReplaysAgree env s j stage l := by
  intro row hrow hindex
  simp only [attemptsAgree, hworker, all_eq_true] at h
  simpa [hindex] using h row hrow

section Stages

variable {j : Job}

variable {stage : Stage} {l : WorkerLabel} {q : MessageQueue} {winner target : AgentRecord}

theorem ReplaysAgree.not_routed (h : ReplaysAgree env s j stage l)
    (hfalse : ∀ row, replayAgrees env s.agents j row stage l = false) :
    ¬ Routed s.messageQueue j.route.routeId j.ev.eventId := by
  rintro ⟨row, hrow, hindex⟩
  exact Bool.noConfusion ((hfalse row).symm.trans (h row hrow hindex))

theorem agrees_skippedOutcome
    (h : ¬ Routed q j.route.routeId j.ev.eventId) (winner target : Option AgentRecord)
    (reason : SkipReason) (subReason : Option String) :
    StageAgrees q j (.advancing (skippedOutcome j winner target reason subReason)) := by
  intro entry hentry
  cases hentry
  exact h

theorem agrees_matchedOutcome
    (h : RoutedTo q (j.route.routeId, j.ev.eventId) winner.agentId target.agentId) :
    StageAgrees q j (.advancing (matchedOutcome j winner target)) := by
  intro entry hentry
  cases hentry
  exact h

theorem agrees_noMatch (q : MessageQueue) (source : Option AgentRecord) :
    StageAgrees q j (.advancing (.noMatch source)) := by
  intro entry hentry
  cases hentry

theorem agrees_matchSource {agents : List AgentRecord}
    (hagents : ∀ a ∈ agents, isAgentId a.agentId = true) :
    StageAgrees q j (matchSource agents j) := by
  unfold matchSource
  split
  · exact agrees_noMatch q none
  · rename_i source hsource
    split_ifs
    · exact hagents source (mem_of_getAgentById hsource)
    · exact agrees_noMatch q (some source)

variable {source : AgentRecord} {m : NewMessage} {decision : Decision} {e : PyExc} {stage' : Stage}

theorem agrees_arbitrate (hok : ReplaysAgree env s j (.arbitrating source) .arbitrate)
    (h : StageAgrees s.messageQueue j (.arbitrating source)) :
    StageAgrees s.messageQueue j (arbitrate s.agents j source) := by
  unfold arbitrate
  split
  · rename_i winner hpick
    refine ⟨h, ?_⟩
    rintro _ _ ⟨row, hrow, hindex, rfl, -⟩
    have hreplay := hok row hrow hindex
    simp only [replayAgrees, hpick] at hreplay
    exact of_decide_eq_true hreplay
  · rename_i reason hpick
    refine agrees_skippedOutcome (hok.not_routed fun row => ?_) _ _ _ _
    simp only [replayAgrees, hpick]

theorem agrees_resolveAndRender (hagents : ∀ a ∈ s.agents, isAgentId a.agentId = true)
    (hok : ReplaysAgree env s j (.resolving source winner) .resolve)
    (h : StageAgrees s.messageQueue j (.resolving source winner))
    (hstage : resolveAndRender env s.agents j source winner = some stage) :
    StageAgrees s.messageQueue j stage := by
  unfold resolveAndRender at hstage
  split at hstage
  · cases hstage
  · rename_i reason htarget
    cases hstage
    refine agrees_skippedOutcome (hok.not_routed fun row => ?_) _ _ _ _
    simp only [replayAgrees, htarget]
  · rename_i target htarget
    split at hstage <;> cases hstage
    · refine ⟨?_, ?_⟩
      · rcases mem_cons.mp (mem_of_resolveRouteTarget htarget) with rfl | hmem
        · exact h.1
        · exact hagents target hmem
      · rintro _ _ ⟨row, hrow, hindex, rfl, rfl⟩
        have hreplay := hok row hrow hindex
        simp only [replayAgrees, htarget, Bool.and_eq_true, decide_eq_true_eq] at hreplay
        exact ⟨h.2 _ _ ⟨row, hrow, hindex, rfl, rfl⟩, hreplay.1⟩
    · rename_i subReason hrender
      refine agrees_skippedOutcome (hok.not_routed fun row => ?_) _ _ _ _
      simp only [replayAgrees, htarget, hrender, Bool.and_false]

theorem agrees_prepareSend {resolved : AgentRecord} {body : List UInt8} {messageId ts : String}
    {routingEnabled containerActive paneResolvable : Bool}
    (h : StageAgrees s.messageQueue j (.enqueuing winner target body))
    (hprepare : prepareSend env.toEnv s.agents routingEnabled winner (routeRequest j target body)
      messageId ts containerActive paneResolvable = .ok (m, decision, resolved)) :
    StageAgrees s.messageQueue j (.inserting winner target m decision 0) := by
  obtain ⟨hresolve, hm, -⟩ := prepareSend_ok hprepare
  refine ⟨carries_of_prepareSend hprepare, ?_, ?_, h.2⟩
  · rw [hm]
    rfl
  · have hsame : m.target.agentId = resolved.agentId := by
      rw [hm]
      rfl
    exact hsame.trans (agentId_of_resolveTarget h.1 hresolve)

theorem agrees_rejected {attempts : Nat}
    (h : StageAgrees s.messageQueue j (.inserting winner target m decision attempts))
    (hfresh : s.messageQueue.get m.messageId = none)
    (happly : (decision.insert m).apply s.messageQueue = .error e)
    (hhandled : Handled j winner target e stage) : StageAgrees s.messageQueue j stage := by
  obtain ⟨hcarries, -, -, hrows⟩ := h
  cases hhandled with
  | skip hqueue =>
    rw [insert_error_class happly] at hqueue
    cases hqueue
  | duplicate =>
    obtain ⟨senderId, targetId, hrow⟩ := routed_iff.mp (hcarries.rejected hfresh happly)
    obtain ⟨rfl, rfl⟩ := hrows senderId targetId hrow
    exact agrees_matchedOutcome hrow

theorem agrees_refused (hrow : ¬ Routed s.messageQueue j.route.routeId j.ev.eventId)
    (hclass : e.isinstance .integrityError = false)
    (hhandled : Handled j winner target e stage) : StageAgrees s.messageQueue j stage := by
  cases hhandled with
  | skip => exact agrees_skippedOutcome hrow _ _ _ _
  | duplicate hintegrity =>
    rw [hclass] at hintegrity
    cases hintegrity

theorem stage_of_stepJob {next : Option Stage}
    (h : stepJob env s j stage l = some (s.work (.job j stage')))
    (hnext : stepJob env s j stage l = some (s.work (j.goto next))) : next = some stage' := by
  have hworker : j.goto next = .job j stage' :=
    congrArg State.worker (Option.some.inj (hnext.symm.trans h))
  cases next with
  | none => cases hworker
  | some => exact congrArg some (Worker.job.inj hworker).2

theorem StageMove.agrees (hmove : StageMove env s j l stage stage')
    (hstep : stepJob env s j stage l = some (s.work (.job j stage')))
    (hagents : ∀ a ∈ s.agents, isAgentId a.agentId = true) (hok : ReplaysAgree env s j stage l)
    (h : StageAgrees s.messageQueue j stage) : StageAgrees s.messageQueue j stage' := by
  cases hmove with
  | unmatched | matched =>
    have hnext : some (matchSource s.agents j) = some _ := stage_of_stepJob hstep rfl
    rw [← Option.some.inj hnext]
    exact agrees_matchSource hagents
  | won source | noMaster source =>
    have hnext : some (arbitrate s.agents j source) = some _ := stage_of_stepJob hstep rfl
    rw [← Option.some.inj hnext]
    exact agrees_arbitrate hok h
  | rendered | unresolved =>
    exact agrees_resolveAndRender hagents hok h (stage_of_stepJob hstep rfl)
  | prepared hprepare => exact agrees_prepareSend h hprepare
  | refused hprepare hhandled =>
    refine agrees_refused (hok.not_routed fun row => ?_) (prepareSend_error hprepare).1 hhandled
    simp only [replayAgrees, hprepare]
    rfl
  | rejected hfresh happly hhandled => exact agrees_rejected h hfresh happly hhandled
  | retried => exact h
  | exhausted hlock hattempts hhandled =>
    refine agrees_refused (hok.not_routed fun row => ?_) rfl hhandled
    simp [replayAgrees, hlock, hattempts]
  | readBack => exact agrees_matchedOutcome h

end Stages

/-! ## Steps -/

theorem Move.agrees {l : WorkerLabel} {w : Worker} (hmove : Move env s l s.worker w)
    (hstep : step env s (.worker l) = some (s.work w))
    (hok : attemptsAgree env s (.worker l) = true) (h : AgreeInv s) :
    w.Agrees s.messageQueue := by
  have hworker := h.worker
  generalize hw : s.worker = w₀ at hmove hworker
  cases hmove with
  | listed | unlisted | cycleEnd | nextRoute | selected | batchEnd | nextEvent | abandoned =>
    trivial
  | @stage _ j stage stage' hstage =>
    rw [step_job hw] at hstep
    exact hstage.agrees hstep h.agents (replaysAgree_of_attemptsAgree hw hok) hworker

variable {l : Label}

theorem Change.sameRoutes (hchange : Change env s l s') (hok : attemptsAgree env s l = true) :
    SameRoutes s.messageQueue s'.messageQueue ∨
      ∃ j winner target m decision attempts,
        s.worker = .job j (.inserting winner target m decision attempts) ∧
        (decision.insert m).apply s.messageQueue = .ok s'.messageQueue := by
  cases hchange with
  | inserted hworker happly => exact .inr ⟨_, _, _, _, _, _, hworker, happly⟩
  | queued op => exact .inl (sameRoutes_perform (by simpa [attemptsAgree] using hok) _)
  | audited haudited =>
    obtain ⟨_, _, _, _, _, rfl⟩ := haudited.frame
    exact .inl fun _ _ _ => Iff.rfl
  | moved | advanced | observed | routeAdded | enabledSet | routeRemoved | registered =>
    exact .inl fun _ _ _ => Iff.rfl

theorem AgreeInv.agrees_after (hchange : Change env s l s')
    (hok : attemptsAgree env s l = true) (hentries : EntryInv s) (hpassed : PassedInv s)
    (h : AgreeInv s) {entry : AuditEntry} (hentry : s.Accounted entry) :
    entry.Agrees s'.messageQueue := by
  have hagrees := h.entries entry hentry
  rcases hchange.sameRoutes hok with hsame | ⟨j, winner, target, m, decision, attempts, hworker,
    happly⟩
  · exact hagrees.same hsame
  · have hstage := h.worker
    rw [hworker] at hstage
    cases entry with
    | routeMatched => exact (hstage.1.routedTo_insert happly).mpr (.inl hagrees)
    | other => trivial
    | routeSkipped eventId routeId =>
      intro hrouted
      obtain ⟨senderId, targetId, hrow⟩ := routed_iff.mp hrouted
      rcases (hstage.1.routedTo_insert happly).mp hrow with hold | ⟨hpair, -⟩
      · exact hagrees (routed_iff.mpr ⟨_, _, hold⟩)
      · obtain ⟨hroute, hev⟩ := Prod.mk.inj hpair
        obtain ⟨d, hd, -, hdroute, hdev⟩ := hentries.decision hentry rfl
        exact hpassed.undecided hworker rfl hd ⟨hdroute.trans hroute.symm, hdev.trans hev.symm⟩

theorem AgreeInv.worker_after (hstep : RouteWorker.step env s l = some s')
    (hok : attemptsAgree env s l = true) (h : AgreeInv s) :
    s'.worker.Agrees s'.messageQueue := by
  have hworker := h.worker
  cases step_change hstep with
  | moved hmove => exact hmove.agrees hstep hok h
  | inserted hinserting happly =>
    rw [hinserting] at hworker
    exact (hworker.1.routedTo_insert happly).mpr (.inr ⟨rfl, hworker.2.1, hworker.2.2.1⟩)
  | @advanced j outcome hadvancing => cases outcome <;> trivial
  | audited haudited =>
    have hmove := haudited.worker
    obtain ⟨_, _, _, w, _, rfl⟩ := haudited.frame
    generalize s.worker = w₀ at hmove hworker
    show w.Agrees s.messageQueue
    cases hmove with
    | same => exact hworker
    | idle | draining | listing | emitted | raised => trivial
  | queued op => exact hworker.same (sameRoutes_perform (by simpa [attemptsAgree] using hok) _)
  | observed | routeAdded | enabledSet | routeRemoved | registered => exact hworker

theorem AgreeInv.agents_after (hchange : Change env s l s')
    (hok : attemptsAgree env s l = true) (h : AgreeInv s) :
    ∀ a ∈ s'.agents, isAgentId a.agentId = true := by
  cases hchange with
  | registered agents => simpa [attemptsAgree] using hok
  | audited haudited =>
    obtain ⟨_, _, _, _, _, rfl⟩ := haudited.frame
    exact h.agents
  | moved | inserted | advanced | observed | routeAdded | enabledSet | routeRemoved | queued =>
    exact h.agents

theorem AgreeInv.step (hstep : RouteWorker.step env s l = some s')
    (hok : attemptsAgree env s l = true) (hentries : EntryInv s) (hpassed : PassedInv s)
    (h : AgreeInv s) : AgreeInv s' := by
  have hchange := step_change hstep
  refine ⟨h.agents_after hchange hok, h.worker_after hstep hok, fun entry hentry => ?_⟩
  cases hchange.entry hentry with
  | known hknown => exact h.agrees_after hchange hok hentries hpassed hknown
  | other _ heq => exact heq ▸ trivial
  | @decided j outcome hworker heq houtcome =>
    -- the line of the new decision, as the stage before had it
    have hstage := h.worker
    rw [hworker] at hstage
    rw [heq]
    exact hstage entry houtcome

/-! ## Runs -/

section Runs

variable {agents : List AgentRecord}

theorem agreeInv_of_reach (hagents : ∀ a ∈ agents, isAgentId a.agentId = true)
    (h : Reach (step env) (fun s l => attemptsAgree env s l = true)
      (State.init maxPending agents) s) : AgreeInv s := by
  have hinv : Reachable env maxPending agents s ∧ AgreeInv s := by
    refine Reach.invariant
      (fun s : State maxPending => Reachable env maxPending agents s ∧ AgreeInv s) ?_ ?_ h
    · refine ⟨.start, hagents, trivial, fun entry hentry => ?_⟩
      rcases (EntryInv.init maxPending agents).entries entry hentry with ⟨_, rfl⟩ | ⟨d, hd, -⟩
      · trivial
      · exact absurd hd not_mem_nil
    · intro s l s' hs hok hstep
      exact ⟨hs.1.next trivial hstep, hs.2.step hstep hok hs.1.entryInv hs.1.passedInv⟩
  exact hinv.2

theorem routed_of_routeMatched (h : Reachable env maxPending agents s) {eventId : Nat}
    {routeId winnerId targetId targetLabel excerpt : String}
    (hentry : s.Accounted (.routeMatched eventId routeId winnerId targetId targetLabel excerpt)) :
    Routed s.messageQueue routeId eventId := by
  obtain ⟨d, hd, houtcome, rfl, rfl⟩ := h.entryInv.decision hentry rfl
  have hok := h.decisionInv.decided d hd
  cases hoc : d.outcome with
  | noMatch => rw [hoc] at houtcome; cases houtcome
  | matched =>
    rw [hoc] at hok
    exact hok
  | skipped =>
    -- the line of a skip is no match
    rw [hoc] at hok houtcome
    cases houtcome
    cases hok

/-- In every run, whatever crashes and fails in it, every `route_matched` line in sight has its row.
If moreover the attempts agree with the rows that they find, then the row is from the line's winner
to the line's target, and no event with a `route_skipped` line in sight has a row. -/
theorem audit_agrees_with_queue (h : Reachable env maxPending agents s) :
    (∀ eventId routeId winnerId targetId targetLabel excerpt,
        s.Accounted (.routeMatched eventId routeId winnerId targetId targetLabel excerpt) →
        ∃ r ∈ s.messageQueue.rows, r.routeEvent = some (routeId, eventId)) ∧
      ((∀ a ∈ agents, isAgentId a.agentId = true) →
        Reach (step env) (fun s l => attemptsAgree env s l = true)
          (State.init maxPending agents) s →
        (∀ eventId routeId winnerId targetId targetLabel excerpt,
          s.Accounted (.routeMatched eventId routeId winnerId targetId targetLabel excerpt) →
          ∃ r ∈ s.messageQueue.rows, r.routeEvent = some (routeId, eventId) ∧
            r.senderAgentId = winnerId ∧ r.targetAgentId = targetId) ∧
        ∀ eventId routeId winnerId targetId targetLabel reason subReason excerpt,
          s.Accounted (.routeSkipped eventId routeId winnerId targetId targetLabel reason subReason
            excerpt) →
          ∀ r ∈ s.messageQueue.rows, r.routeEvent ≠ some (routeId, eventId)) := by
  refine ⟨fun _ _ _ _ _ _ hentry => routed_of_routeMatched h hentry, fun hagents hreach => ?_⟩
  have hinv := agreeInv_of_reach hagents hreach
  refine ⟨fun _ _ _ _ _ _ hentry => hinv.entries _ hentry, ?_⟩
  intro _ _ _ _ _ _ _ _ hentry r hr hindex
  exact hinv.entries _ hentry ⟨r, hr, hindex⟩

end Runs

/-! ### Sample runs -/

/-- The crash between the two transactions, and then the whole of the second attempt, with the line
that it writes. -/
def secondAttempt : List Label :=
  crashAfterInsert ++ [.worker (.append (.returned true))]

theorem audit_agrees_with_queue_secondAttempt :
    ∃ s, run (step sampleRouteEnv) (State.init 10000 [sampleMaster, sampleSlave])
        secondAttempt = some s ∧
      s.file = [.routeMatched 1 "r1" "agt_00000000000a" "agt_00000000000b" "worker" "done"] ∧
      ∃ r ∈ s.messageQueue.rows, r.routeEvent = some ("r1", 1) ∧
        r.senderAgentId = "agt_00000000000a" ∧ r.targetAgentId = "agt_00000000000b" := by
  refine exists_run_and (attemptsAgree sampleRouteEnv) (by decide +kernel) fun s hs hfile => ?_
  have hagree := (audit_agrees_with_queue (hs.weaken fun _ _ _ => trivial)).2 (by decide) hs
  exact hagree.1 _ _ _ _ _ _ (.inl (.inl (by rw [hfile]; exact mem_singleton_self _)))

def routedRows (q : MessageQueue) : List (Option (String × Nat) × String × String) :=
  q.rows.map fun r => (r.routeEvent, r.senderAgentId, r.targetAgentId)

def insertThenCrash : List Label :=
  setupLabels ++ arbitrateLabels ++ gateLabels "m1" ++ [.worker .commit, .crash]

def earlierMaster (active : Bool) : AgentRecord :=
  ⟨"agt_000000000009", "c1", "%2", .master, "claude", "early", active⟩

def masterActivated : List Label :=
  insertThenCrash ++ [.register [earlierMaster true, sampleMaster, sampleSlave]] ++
    arbitrateLabels ++ gateLabels "m2" ++
    [.worker .commit, .worker .commit, .worker (.append (.returned true))]

def masterDeactivated : List Label :=
  insertThenCrash ++ [.register [⟨"agt_00000000000a", "c1", "%1", .master, "claude", "lead", false⟩,
      sampleSlave]] ++
    arbitrateLabels ++ [.worker .commit, .worker (.append (.returned true))]

/-- The trail has a match for a master that the row is not from, or a skip of an event that has a
row. -/
theorem audit_disagrees_after_crash :
    (∃ s, run (step sampleRouteEnv)
        (State.init 10000 [earlierMaster false, sampleMaster, sampleSlave]) masterActivated
          = some s ∧
      s.file = [.routeMatched 1 "r1" "agt_000000000009" "agt_00000000000b" "worker" "done"] ∧
      routedRows s.messageQueue = [(some ("r1", 1), "agt_00000000000a", "agt_00000000000b")]) ∧
    ∃ s, run (step sampleRouteEnv) (State.init 10000 [sampleMaster, sampleSlave])
        masterDeactivated = some s ∧
      s.file = [.routeSkipped 1 "r1" none none none .noEligibleMaster none "done"] ∧
      routedRows s.messageQueue
        = [(some ("r1", 1), "agt_00000000000a", "agt_00000000000b")] := by decide +kernel

end AgentTower.Routing.RouteWorker
