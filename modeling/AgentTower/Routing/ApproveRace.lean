import AgentTower.Routing.Authorization

/-!
# What an approve can commit on

`approve` reads the row, checks the reason that it has read against the kill switch, and then runs a
transaction whose guard is the state alone.  Between the three the row can be unblocked and blocked
again, and the switch can be thrown.  A role reason is out of reach of all of that.
-/

namespace AgentTower.Routing

open Transition Sql
open Daemon (operatorResolvable)

def QueueRow.resolvable (r : QueueRow) : Bool := r.blockReason.any operatorResolvable

variable {r : QueueRow}

theorem QueueRow.resolvable_iff : r.resolvable = true ↔
    ∃ reason, r.blockReason = some reason ∧ operatorResolvable reason = true := by
  unfold QueueRow.resolvable
  cases r.blockReason <;> simp

def DaoOp.killBlocks : DaoOp → Option String
  | .transitionQueuedToBlockedReCheck messageId .killSwitchOff _ => some messageId
  | _ => none

theorem RowStep.resolvable {op : DaoOp} {r' : QueueRow} (hstep : RowStep op r r')
    (hblocked : r'.state = .blocked) (hrole : op.roleFree = true)
    (hkill : op.killBlocks ≠ some r.messageId) : r'.resolvable = true := by
  cases hstep with
  | delay => rfl
  | recheck reason =>
    cases reason with
    | killSwitchOff => exact absurd rfl hkill
    | senderRoleNotPermitted | targetRoleNotPermitted => cases hrole
    | targetNotActive | targetContainerInactive | targetPaneMissing | operatorDelayed => rfl
  | stamp _ hready =>
    have hqueued : r.state = .blocked := hblocked
    rw [(QueueRow.ready_iff.mp hready).1] at hqueued
    cases hqueued
  | deliver | fail | approve | cancel | recover => cases hblocked

namespace Daemon

open KillSwitch (FlagValue)

variable {env : Env} {s s' : State}

def Approval.Allowed (a : Approval) : Prop :=
  ∃ reason, a.blockReason = some reason ∧
    (operatorResolvable reason = true ∨ reason = .killSwitchOff ∧ a.flag = .enabled)

instance (a : Approval) : Decidable a.Allowed :=
  inferInstanceAs (Decidable (∃ reason, a.blockReason = some reason ∧ _))

def Call.approving : Call → Option QueueRow
  | .approveCheck row _ | .approve row _ => some row
  | _ => none

/-- The call relies on the switch being on: it has checked a `kill_switch_off` row, or has read the
enabled flag and will put it into the cache. -/
def Call.reliesOnEnabled : Call → Prop
  | .approve row _ => row.blockReason = some .killSwitchOff
  | .readFull value => value = .enabled
  | _ => False

/-- No `disable` commits while a call relies on the switch, and no re-check blocks a row for the
switch while the row is being approved. -/
def approveUnraced (s : State) : Label → Prop
  | .toggle value => value = .disabled → ∀ t, ¬ (s.calls t).reliesOnEnabled
  | .worker (.commit _) => ∀ row, s.worker = .blocking row .killSwitchOff →
      ∀ t approved, (s.calls t).approving = some approved → approved.messageId ≠ row.messageId
  | _ => True

/-! ## The invariant -/

/-- What the row of an approve can look like by now; `flag` is the stored flag. -/
def Call.ApproveOk (q : MessageQueue) (flag : FlagValue) : Call → Prop
  | .approveCheck row _ => ∃ r, q.get row.messageId = some r ∧
      (r.state = .blocked →
        row.state = .blocked ∧ r.blockReason = row.blockReason ∨ r.resolvable = true)
  | .approve row _ => ∃ r, q.get row.messageId = some r ∧
      (r.state = .blocked → r.resolvable = true ∨
        r.blockReason = some .killSwitchOff ∧ row.blockReason = some .killSwitchOff ∧
          flag = .enabled)
  | .readFull value => value = .enabled → flag = .enabled
  | _ => True

structure ApproveInv (q : MessageQueue) (flag : FlagValue) (cachedValue : Option FlagValue)
    (calls : Nat → Call) (approvals : List Approval) : Prop where
  cache : cachedValue = some .enabled → flag = .enabled
  call : ∀ t, (calls t).ApproveOk q flag
  approvals : ∀ a ∈ approvals, a.Allowed

variable {q : MessageQueue} {op : DaoOp} {call : Call} {ts : String} {record : QueueTransition}

theorem Call.ApproveOk.apply {q' : MessageQueue} {flag : FlagValue}
    (happly : op.apply q = .ok q') (hrole : op.roleFree = true)
    (hkill : ∀ row, call.approving = some row → op.killBlocks ≠ some row.messageId)
    (h : call.ApproveOk q flag) : call.ApproveOk q' flag := by
  cases call with
  | approveCheck row operator | approve row operator =>
    obtain ⟨r, hget, hr⟩ := h
    obtain ⟨r', hget', hsame | hstep⟩ := DaoOp.apply_get happly hget
    · exact ⟨r', hget', hsame ▸ hr⟩
    · have hkey : r.messageId = row.messageId := Table.key_of_get hget
      refine ⟨r', hget', fun hblocked => ?_⟩
      have hresolvable := hstep.resolvable hblocked hrole (hkey ▸ hkill row rfl)
      simp only [hresolvable, true_or, or_true]
  | readFull value => exact h
  | idle | sendInput | insert | delay | cancel => trivial

theorem Call.ApproveOk.toggle {flag value : FlagValue}
    (h : call.ApproveOk q flag) (hok : value = .disabled → ¬ call.reliesOnEnabled) :
    call.ApproveOk q value := by
  have henabled (hrelies : call.reliesOnEnabled) : value = .enabled := by
    cases value with
    | enabled => rfl
    | disabled => exact absurd hrelies (hok rfl)
  cases call with
  | approve row operator =>
    obtain ⟨r, hget, hr⟩ := h
    refine ⟨r, hget, fun hblocked => (hr hblocked).imp_right fun hkill => ?_⟩
    exact ⟨hkill.1, hkill.2.1, henabled hkill.2.1⟩
  | readFull value => exact henabled
  | approveCheck row operator => exact h
  | idle | sendInput | insert | delay | cancel => trivial

namespace ApproveInv

variable {q : MessageQueue} {flag : FlagValue} {cachedValue : Option FlagValue}
  {calls : Nat → Call} {approvals : List Approval}

theorem init (flag : FlagValue) : ApproveInv Table.empty flag none (fun _ => .idle) [] where
  cache := nofun
  call _ := trivial
  approvals a ha := by cases ha

theorem filled (h : ApproveInv s.messageQueue s.flag s.cachedValue s.calls s.approvals) :
    ApproveInv s.messageQueue s.flag s.filled.cachedValue s.calls s.approvals :=
  ⟨State.flag_of_filled h.cache, h.call, h.approvals⟩

variable {t : Nat} {call : Call}

theorem goto (h : ApproveInv q flag cachedValue s.calls approvals) (hcall : call.ApproveOk q flag) :
    ApproveInv q flag cachedValue (s.goto t call).calls approvals :=
  ⟨h.cache, State.forall_goto h.call hcall, h.approvals⟩

theorem stopped (h : ApproveInv q flag cachedValue calls approvals) (q' : MessageQueue) :
    ApproveInv q' flag none (fun _ => .idle) approvals :=
  ⟨nofun, fun _ => trivial, h.approvals⟩

theorem move (h : ApproveInv s.messageQueue s.flag s.cachedValue s.calls s.approvals)
    {l : CallLabel} (hmove : CallMove env s t l call) :
    call.ApproveOk s.messageQueue s.flag := by
  cases hmove with
  | approveCheck hget => exact ⟨_, hget, fun hblocked => .inl ⟨hblocked, rfl⟩⟩
  | @approve row operator hcall hcheck =>
    have hread := h.call t
    rw [hcall] at hread
    obtain ⟨r, hget, hr⟩ := hread
    refine ⟨r, hget, fun hblocked => ?_⟩
    rcases hr hblocked with ⟨hrow, hreason⟩ | hresolvable
    · -- the row is as it was read, so the check was about its reason
      rw [approveCheck, if_pos hrow] at hcheck
      obtain ⟨reason, hreason', hallowed⟩ := checkApproveApplicable_ok hcheck
      rw [hreason'] at hreason
      rcases hallowed with hresolvable | ⟨hkill, henabled⟩
      · exact .inl (QueueRow.resolvable_iff.mpr ⟨reason, hreason, hresolvable⟩)
      · rw [hkill] at hreason hreason'
        exact .inr ⟨hreason, hreason', State.flag_of_isEnabled h.cache henabled⟩
    · exact .inl hresolvable
  | readFull => exact id
  | idle | sendInput | insert | delay | cancel => trivial

theorem approval_allowed (h : ApproveInv s.messageQueue s.flag s.cachedValue s.calls s.approvals)
    {row : QueueRow} {operator ts : String} (hcall : s.calls t = .approve row operator)
    {q' : MessageQueue}
    (happly : (DaoOp.transitionBlockedToQueuedApprove row.messageId operator ts).apply
      s.messageQueue = .ok q') :
    (⟨row.messageId, (s.messageQueue.get row.messageId).bind QueueRow.blockReason, s.flag⟩ :
      Approval).Allowed := by
  obtain ⟨r, hblocked, -, hreplaced⟩ := MessageQueueDao.operatorTransition_ok happly
  have hok := h.call t
  rw [hcall] at hok
  obtain ⟨r', hget, hr⟩ := hok
  have hsame : r = r' := Option.some.inj (hreplaced.before.symm.trans hget)
  subst hsame
  rw [Approval.Allowed, hreplaced.before, Option.bind_some]
  rcases hr hblocked with hresolvable | ⟨hkill, -, henabled⟩
  · obtain ⟨reason, hreason, hreason'⟩ := QueueRow.resolvable_iff.mp hresolvable
    exact ⟨reason, hreason, .inl hreason'⟩
  · exact ⟨_, hkill, .inr ⟨rfl, henabled⟩⟩

end ApproveInv

theorem Call.transition_killBlocks (h : call.transition env ts = some (op, record)) :
    op.killBlocks = none := by
  cases call with
  | insert m decision => cases decision <;> cases h <;> rfl
  | _ => cases h <;> rfl

theorem Worker.transition_killBlocks {w : Worker} {messageId : String}
    (h : w.transition env ts = some (op, record)) (hop : op.killBlocks = some messageId) :
    ∃ row, w = .blocking row .killSwitchOff ∧ row.messageId = messageId := by
  cases w with
  | blocking row reason =>
    cases h
    cases reason with
    | killSwitchOff => exact ⟨row, rfl, Option.some.inj hop⟩
    | _ => cases hop
  | submitted | failing => cases h; cases hop
  | _ => cases h

theorem ApproveInv.commitCall {t : Nat}
    (h : ApproveInv s.messageQueue s.flag s.cachedValue s.calls s.approvals)
    (htransition : (s.calls t).transition env ts = some (op, record))
    (hcommit : Committed s op record s') :
    ApproveInv s'.messageQueue s.flag s.cachedValue s.calls
      ((s.calls t).record s s').approvals := by
  have hrole := Call.transition_roleFree htransition
  have hkill := Call.transition_killBlocks htransition
  refine ⟨h.cache, fun u => (h.call u).apply hcommit.apply hrole fun row _ => ?_, ?_⟩
  · rw [hkill]
    exact nofun
  · cases hcall : s.calls t with
    | approve row operator =>
      rw [hcall] at htransition
      cases htransition
      intro a ha
      rcases List.mem_append.mp ha with ha | ha
      · rw [hcommit.approvals] at ha
        exact h.approvals a ha
      · cases List.mem_singleton.mp ha
        exact h.approval_allowed hcall hcommit.apply
    | insert | delay | cancel | idle | sendInput | approveCheck | readFull =>
      show ∀ a ∈ s'.approvals, a.Allowed
      rw [hcommit.approvals]
      exact h.approvals

theorem ApproveInv.change {l : Label}
    (h : ApproveInv s.messageQueue s.flag s.cachedValue s.calls s.approvals)
    (hrole : RoleInv s.messageQueue s.calls s.worker) (hok : approveUnraced s l)
    (hchange : Change env s l s') :
    ApproveInv s'.messageQueue s'.flag s'.cachedValue s'.calls s'.approvals := by
  cases hchange with
  | register | refused | paste => exact h
  | toggle value =>
    exact ⟨fun hcache => Option.some.inj hcache,
      fun t => (h.call t).toggle fun hdisabled => hok hdisabled t, h.approvals⟩
  | crash | boot => exact h.stopped _
  | call hmove hfill =>
    rcases hfill with rfl | rfl
    · exact h.goto (h.move hmove)
    · exact ApproveInv.goto (s := s.filled) h.filled (h.move hmove)
  | @storeFlag t value hcall =>
    have hvalue := h.call t
    rw [hcall] at hvalue
    have hstored : ApproveInv s.messageQueue s.flag (some value) s.calls s.approvals :=
      ⟨fun hcache => hvalue (Option.some.inj hcache), h.call, h.approvals⟩
    exact ApproveInv.goto (s := s.store value) hstored trivial
  | @commitCall t ts op record s₁ htransition hcommit =>
    have hbefore : ApproveInv s₁.messageQueue s.flag s.cachedValue
        ((s.calls t).record s s₁).calls ((s.calls t).record s s₁).approvals := by
      rw [Call.record_calls, hcommit.calls]
      exact h.commitCall htransition hcommit
    show ApproveInv ((s.calls t).record s s₁).messageQueue ((s.calls t).record s s₁).flag
      ((s.calls t).record s s₁).cachedValue _ _
    rw [Call.record_messageQueue, Call.record_flag, Call.record_cachedValue, hcommit.flag,
      hcommit.cachedValue]
    exact hbefore.goto trivial
  | worker _ hfill =>
    rcases hfill with rfl | rfl
    · exact h
    · exact h.filled
  | stamp _ happly =>
    exact ⟨h.cache, fun t => (h.call t).apply happly rfl fun _ _ => nofun, h.approvals⟩
  | @commitWorker ts op record s₁ htransition hcommit =>
    show ApproveInv s₁.messageQueue s₁.flag s₁.cachedValue s₁.calls s₁.approvals
    rw [hcommit.flag, hcommit.cachedValue, hcommit.calls, hcommit.approvals]
    have hfree := Worker.transition_roleFree htransition hrole.worker
    refine ⟨h.cache, fun t => (h.call t).apply hcommit.apply hfree fun row hrow hop => ?_,
      h.approvals⟩
    obtain ⟨blocked, hworker, hid⟩ := Worker.transition_killBlocks htransition hop
    exact hok blocked hworker t row hrow hid.symm

variable {agents : List AgentRecord} {flag : FlagValue}

/-- In every run a row blocked for a role stays as it is or is canceled.  And in every run in which
no `disable` commits while a call relies on the switch and no re-check blocks a row for the switch
while it is being approved, each approve commits on a row whose reason the rules allow at that
moment. -/
theorem approve_commits_on_allowed :
    (∀ s, Reachable env agents flag s → ∀ l s', step env s l = some s' →
      ∀ k r, s.messageQueue.get k = some r → r.roleBlocked = true →
        ∃ r', s'.messageQueue.get k = some r' ∧ (r' = r ∨ r'.state = .canceled)) ∧
    ∀ s, Reach (step env) approveUnraced (State.init agents flag) s →
      ∀ a ∈ s.approvals, a.Allowed := by
  refine ⟨fun s hs l s' hstep k r hget hblocked => ?_, fun s hs => ?_⟩
  · obtain ⟨r', hget', hsame | ⟨op, hrow, happroved⟩⟩ :=
      hs.roleInv.row_change (step_change hstep) hget
    · exact ⟨r', hget', .inl hsame⟩
    · rcases hrow.of_roleBlocked (hs.pasteInv.coherent k r hget) hblocked with hop | hcanceled
      · rw [happroved hop] at hblocked
        cases hblocked
      · exact ⟨r', hget', .inr hcanceled⟩
  · have hinv : ApproveInv s.messageQueue s.flag s.cachedValue s.calls s.approvals ∧
        RoleInv s.messageQueue s.calls s.worker := by
      refine Reach.invariant
        (fun s => ApproveInv s.messageQueue s.flag s.cachedValue s.calls s.approvals ∧
          RoleInv s.messageQueue s.calls s.worker)
        ⟨ApproveInv.init flag, RoleInv.init⟩ ?_ hs
      rintro s l s' ⟨happrove, hrole⟩ hok hstep
      have hchange := step_change hstep
      exact ⟨happrove.change hrole hok hchange, hrole.change hchange⟩
    exact hinv.1.approvals

/-- A message sent while the switch is off, and an approve up to its check with the switch on. -/
def checkedApprove : List Label :=
  .boot "t0" :: sendLabels .hostOperator "m1" "t1" ++
    [.toggle .enabled, .call 0 (.approve "m1" "host-operator"), .call 0 .approveCheck]

theorem approve_commits_after_disable :
    ∃ s, run (step sampleEnv) (State.init [sampleTarget] .disabled)
        (checkedApprove ++ [.toggle .disabled, .call 0 (.commit "t2")]) = some s ∧
      (s.messageQueue.get "m1").map QueueRow.state = some .queued ∧
      ∃ a ∈ s.approvals, a.messageId = "m1" ∧ ¬ a.Allowed := by decide +kernel

def harmless : State → Label → Bool
  | _, .toggle .disabled | _, .worker (.commit _) => false
  | _, _ => true

theorem approveUnraced_of_harmless (s : State) (l : Label) (h : harmless s l = true) :
    approveUnraced s l := by
  cases l with
  | toggle value =>
    cases value with
    | enabled => exact nofun
    | disabled => cases h
  | worker l =>
    cases l with
    | commit => cases h
    | _ => trivial
  | _ => trivial

theorem approve_commits_on_allowed_checkedApprove :
    ∃ s, run (step sampleEnv) (State.init [sampleTarget] .disabled)
        (checkedApprove ++ [.call 0 (.commit "t2")]) = some s ∧
      s.approvals = [⟨"m1", some .killSwitchOff, .enabled⟩] ∧ ∀ a ∈ s.approvals, a.Allowed :=
  exists_run_and harmless (by decide +kernel) fun s hs _ =>
    approve_commits_on_allowed.2 s (hs.weaken approveUnraced_of_harmless)

end Daemon

end AgentTower.Routing
