import Mathlib.Data.List.Find
import AgentTower.Routing.RouteEntries
import AgentTower.Routing.RouteLock

/-!
# The reasons of skips

The reason of a `route_skipped` entry comes from the arbitration, the target, the template, or as it
is from a `QueueServiceError`, whose codes are of another set.  The arbitration is given the active
masters only, so it cannot tell an agent that is registered and not one of them from none.
-/

namespace AgentTower.Routing

def Code.text : Code → String
  | .agentNotFound => "agent_not_found"
  | .approvalNotApplicable => "approval_not_applicable"
  | .bodyEmpty => "body_empty"
  | .bodyInvalidChars => "body_invalid_chars"
  | .bodyInvalidEncoding => "body_invalid_encoding"
  | .bodyTooLarge => "body_too_large"
  | .delayNotApplicable => "delay_not_applicable"
  | .deliveryInProgress => "delivery_in_progress"
  | .messageIdNotFound => "message_id_not_found"
  | .sqliteLockConflict => "sqlite_lock_conflict"
  | .targetLabelAmbiguous => "target_label_ambiguous"
  | .terminalStateCannotChange => "terminal_state_cannot_change"

def SkipReason.text : SkipReason → String
  | .noEligibleMaster => "no_eligible_master"
  | .masterInactive => "master_inactive"
  | .masterNotFound => "master_not_found"
  | .targetNotFound => "target_not_found"
  | .targetNotActive => "target_not_active"
  | .noEligibleTarget => "no_eligible_target"
  | .templateRenderError => "template_render_error"
  | .queue code => (code.map Code.text).getD ""

def skipReasons : List String :=
  ["no_eligible_master", "master_inactive", "master_not_found", "target_not_found",
    "target_role_not_permitted", "target_not_active", "target_pane_missing",
    "target_container_inactive", "no_eligible_target", "template_render_error"]

theorem SkipReason.mem_skipReasons {reason : SkipReason} (h : ∀ code, reason ≠ .queue code) :
    reason.text ∈ skipReasons := by
  cases reason with
  | queue code => exact absurd rfl (h code)
  | noEligibleMaster | masterInactive | masterNotFound | targetNotFound | targetNotActive
  | noEligibleTarget | templateRenderError => decide

namespace RouteWorker

open Transition

variable {maxPending : Nat} {env : RouteEnv} {agents : List AgentRecord} {s s' : State maxPending}
  {j : Job} {stage stage' : Stage} {l : WorkerLabel}

/-! ## The queue's errors -/

/-- The exception that leaves `enqueue_route_message` at this step. -/
def enqueueError (env : RouteEnv) (s : State maxPending) (j : Job) :
    Stage → WorkerLabel → Option PyExc
  | .enqueuing winner target body, .gate messageId ts routingEnabled containerActive
      paneResolvable =>
    match prepareSend env.toEnv s.agents routingEnabled winner (routeRequest j target body)
        messageId ts containerActive paneResolvable with
    | .error e => some e
    | .ok _ => none
  | .inserting _ _ m decision _, .commit =>
    match (decision.insert m).apply s.messageQueue with
    | .error e => some e
    | .ok _ => none
  | .inserting _ _ _ _ attempts, .fail message =>
    let e := operationalError message
    if isLockConflict e then
      if attempts < lockRetries then none else some (lockRetryExhausted e)
    else some e
  | .enqueuing .., .fail message | .inserted .., .fail message => some (operationalError message)
  | _, _ => none

def queueAccepts (env : RouteEnv) (s : State maxPending) (l : Label) : Bool :=
  match s.worker, l with
  | .job j stage, .worker l =>
    (enqueueError env s j stage l).all fun e => !e.isinstance .queueServiceError
  | _, _ => true

def AuditEntry.skipReason : AuditEntry → Option SkipReason
  | .routeSkipped _ _ _ _ _ reason _ _ => some reason
  | _ => none

def AuditEntry.Listed (x : AuditEntry) : Prop :=
  ∀ reason, x.skipReason = some reason → reason.text ∈ skipReasons

def Worker.Listed : Worker → Prop
  | .job _ (.advancing outcome) => ∀ x, outcome.entry = some x → x.Listed
  | _ => True

theorem listed_skippedOutcome {winner target : Option AgentRecord} {reason : SkipReason}
    {subReason : Option String} (h : ∀ code, reason ≠ .queue code) :
    (Worker.job j (.advancing (skippedOutcome j winner target reason subReason))).Listed := by
  intro x hx reason' hreason'
  cases hx
  cases hreason'
  exact SkipReason.mem_skipReasons h

theorem listed_matchedOutcome (j : Job) (winner target : AgentRecord) :
    (Worker.job j (.advancing (matchedOutcome j winner target))).Listed := by
  intro x hx reason hreason
  cases hx
  cases hreason

theorem Handled.listed {winner target : AgentRecord} {e : PyExc}
    (h : Handled j winner target e stage) (he : e.isinstance .queueServiceError = false) :
    (Worker.job j stage).Listed := by
  cases h with
  | skip hqueue =>
    rw [he] at hqueue
    cases hqueue
  | duplicate => exact listed_matchedOutcome j winner target

theorem StageMove.listed (hmove : StageMove env s j l stage stage')
    (hok : (enqueueError env s j stage l).all (fun e => !e.isinstance .queueServiceError) = true) :
    (Worker.job j stage').Listed := by
  cases hmove with
  | matched | won | rendered | prepared | retried => trivial
  | unmatched =>
    intro x hx
    cases hx
  | readBack winner target => exact listed_matchedOutcome j winner target
  | noMaster _ hreason | unresolved _ _ hreason => exact listed_skippedOutcome hreason
  | refused hprepare hhandled =>
    refine hhandled.listed ?_
    simpa [enqueueError, hprepare] using hok
  | rejected _ happly hhandled =>
    refine hhandled.listed ?_
    simpa [enqueueError, happly] using hok
  | exhausted hlock hattempts hhandled =>
    refine hhandled.listed ?_
    simpa [enqueueError, hlock, hattempts] using hok

theorem AuditMove.listed {w w' : Worker} (hmove : AuditMove w w') (h : w.Listed) : w'.Listed := by
  cases hmove with
  | same => exact h
  | idle | draining | listing | emitted | raised => trivial

theorem Change.listed {l : Label} (hchange : Change env s l s') (h : s.worker.Listed)
    (hok : queueAccepts env s l = true) : s'.worker.Listed := by
  cases hchange with
  | @moved l w hmove =>
    show w.Listed
    generalize hworker : s.worker = w₀ at hmove
    cases hmove with
    | stage hstage =>
      refine hstage.listed ?_
      simpa only [queueAccepts, hworker] using hok
    | listed | unlisted | cycleEnd | nextRoute | selected | batchEnd | nextEvent | abandoned =>
      trivial
  | inserted => trivial
  | @advanced j outcome =>
    cases outcome with
    | noMatch | matched | skipped => trivial
  | audited haudited => exact haudited.worker.listed h
  | observed | routeAdded | enabledSet | routeRemoved | registered | queued => exact h

/-- Every `route_skipped` entry that is in the file, buffered, lost or about to be written has a
reason of `SKIP_REASONS`, in every run in which the queue raises no `QueueServiceError`. -/
theorem skip_reasons_closed
    (h : Reach (step env) (fun s l => queueAccepts env s l = true) (State.init maxPending agents) s)
    {x : AuditEntry} (hx : s.Accounted x) {reason : SkipReason}
    (hreason : x.skipReason = some reason) : reason.text ∈ skipReasons := by
  have hinv : s.worker.Listed ∧ ∀ x, s.Accounted x → x.Listed := by
    refine h.invariant (fun s => s.worker.Listed ∧ ∀ x, s.Accounted x → x.Listed) ?_ ?_
    · refine ⟨trivial, fun x hx => ?_⟩
      rcases (EntryInv.init maxPending agents).entries x hx with ⟨eventType, rfl⟩ | ⟨d, hd, -⟩
      · nofun
      · cases hd
    · intro s l s' hinv hok hstep
      refine ⟨(step_change hstep).listed hinv.1 hok, fun x hx => ?_⟩
      cases (step_change hstep).entry hx with
      | known hknown => exact hinv.2 x hknown
      | other eventType heq =>
        subst heq
        nofun
      | decided hworker _ hentry =>
        -- the entry is that of the outcome the cursor was moved for
        have hlisted := hinv.1
        rw [hworker] at hlisted
        exact hlisted x hentry
  exact hinv.2 x hx reason hreason

theorem skip_reasons_closed_noMaster :
    ∃ s, run (step sampleRouteEnv) (State.init 10000 [sampleSlave])
        (setupLabels ++ arbitrateLabels ++ [.worker .commit, .worker (.append (.returned true))]) = some s ∧
      ∃ x ∈ s.file, x.skipReason = some .noEligibleMaster ∧
        SkipReason.noEligibleMaster.text ∈ skipReasons := by
  obtain ⟨s, hs, x, hx, hreason⟩ : ∃ s, runWhile (step sampleRouteEnv) (queueAccepts sampleRouteEnv)
      (State.init 10000 [sampleSlave])
      (setupLabels ++ arbitrateLabels ++ [.worker .commit, .worker (.append (.returned true))]) = some s ∧
      ∃ x ∈ s.file, x.skipReason = some .noEligibleMaster := by decide +kernel
  exact ⟨s, run_of_runWhile hs, x, hx, hreason,
    skip_reasons_closed (reach_of_runWhile .start hs) (.inl (.inl hx)) hreason⟩

/-- An insert that finds the database locked four times. -/
theorem skip_reason_of_lock :
    ∃ s, run (step sampleRouteEnv) (State.init 10000 [sampleMaster, sampleSlave])
        (lockedOut ++ [.worker (.append (.returned true))]) = some s ∧
      ∃ x ∈ s.file, x.skipReason = some (.queue (some .sqliteLockConflict)) ∧
        (SkipReason.queue (some .sqliteLockConflict)).text ∉ skipReasons := by decide +kernel

/-! ## The explicit master -/

/-- The arbitration that is asked for: a registered agent that is not an active master is told from
none. -/
def explicitMaster (agents : List AgentRecord) (masterValue : String) : Arbitration :=
  match getAgentById agents masterValue with
  | none => .skip .masterNotFound
  | some a => if isActiveMaster a then .won a else .skip .masterInactive

def arbitrated (j : Job) (source : AgentRecord) : Arbitration → Stage
  | .won winner => .resolving source winner
  | .skip reason => .advancing (skippedOutcome j none none reason none)

theorem arbitrated_inj {source : AgentRecord} {x y : Arbitration}
    (h : arbitrated j source x = arbitrated j source y) : x = y := by
  cases x <;> cases y <;> simp_all [arbitrated, skippedOutcome]

theorem pickExplicit_eq_iff (agents : List AgentRecord) (masterValue : String) :
    pickExplicit (listActiveMasters agents) masterValue = explicitMaster agents masterValue ↔
      ∀ a, getAgentById agents masterValue = some a → isActiveMaster a = true := by
  unfold pickExplicit listActiveMasters explicitMaster getAgentById
  rw [List.find?_filter]
  cases hget : agents.find? fun a => decide (a.agentId = masterValue) with
  | none =>
    have hnone : agents.find? (fun a => isActiveMaster a && decide (a.agentId = masterValue)) = none := by
      rw [List.find?_eq_none] at hget ⊢
      intro a ha
      simp_all
    simp [hnone]
  | some a =>
    cases hactive : isActiveMaster a with
    | true =>
      obtain ⟨hid, before, after, rfl, hbefore⟩ := List.find?_eq_some_iff_append.mp hget
      have hsome : (before ++ a :: after).find?
          (fun a => isActiveMaster a && decide (a.agentId = masterValue)) = some a :=
        List.find?_eq_some_iff_append.mpr
          ⟨by rw [hactive, hid]; rfl, before, after, rfl, fun b hb => by simp [hbefore b hb]⟩
      simp [hsome, hactive]
    | false =>
      -- another row of that id would win, and without one the agent counts as not found
      cases hfind : agents.find? fun a => isActiveMaster a && decide (a.agentId = masterValue) with
      | none => simp [hfind, hactive]
      | some b =>
        have hb := List.find?_some hfind
        simp_all

/-- The worker decides as asked exactly if the agent that the route names is not registered, or is an
active master. -/
theorem explicit_master_decided {source : AgentRecord} {masterValue : String}
    (hworker : s.worker = .job j (.arbitrating source))
    (hrule : j.route.masterRule = .explicit masterValue) :
    step env s (.worker .arbitrate)
        = some (s.work (.job j (arbitrated j source (explicitMaster s.agents masterValue)))) ↔
      ∀ a, getAgentById s.agents masterValue = some a → isActiveMaster a = true := by
  rw [← pickExplicit_eq_iff]
  have hdecides : step env s (.worker .arbitrate) = some (s.work (.job j
      (arbitrated j source (pickExplicit (listActiveMasters s.agents) masterValue)))) := by
    rw [step_job hworker]
    simp only [stepJob, arbitrate, hrule, pickMaster]
    cases pickExplicit (listActiveMasters s.agents) masterValue <;> rfl
  rw [hdecides]
  refine ⟨fun h => ?_, fun h => by rw [h]⟩
  have hworkers := congrArg State.worker (Option.some_inj.mp h)
  exact arbitrated_inj (Worker.job.inj hworkers).2

def explicitJob : Job :=
  ⟨{ sampleRoute 0 with masterRule := .explicit "agt_00000000000a" }, sampleEvent, [], []⟩

theorem explicit_master_decided_active :
    let s := (State.init 10000 [sampleMaster, sampleSlave]).work
      (.job explicitJob (.arbitrating sampleSlave))
    step sampleRouteEnv s (.worker .arbitrate)
      = some (s.work (.job explicitJob (.resolving sampleSlave sampleMaster))) := by
  intro s
  exact (explicit_master_decided (s := s) (j := explicitJob) rfl rfl).mpr (by decide)

/-- The master that the route names is registered and not active. -/
theorem explicit_master_not_found :
    ∃ s, run (step sampleRouteEnv) (State.init 10000 [{ sampleMaster with active := false }, sampleSlave])
        (.addRoute explicitJob.route :: setupLabels.tail ++ arbitrateLabels) = some s ∧
      explicitMaster s.agents "agt_00000000000a" = .skip .masterInactive ∧
      s.worker = .job explicitJob
        (.advancing (skippedOutcome explicitJob none none .masterNotFound none)) := by decide +kernel

end RouteWorker

end AgentTower.Routing
