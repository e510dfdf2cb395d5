import AgentTower.Routing.Daemon

/-!
# What a step of the daemon can change

`Change` is the one inversion of `step`: every step moves one thread and leaves the tables alone,
commits one transaction, or is one of the few steps of the environment.
-/

namespace AgentTower.Routing.Daemon

open KillSwitch (FlagValue)
open Fallible (bind_eq_ok)
open MessageQueueDao (snapshotInFlightIdentities pickNextReadyRow)

variable {env : Env} {s s' : State}

inductive CallMove (env : Env) (s : State) (t : Nat) : CallLabel → Call → Prop where
  | idle (l : CallLabel) : CallMove env s t l .idle
  | sendInput {sender : Sender} {request : SendRequest} {record : AgentRecord} :
      sender.record s.agents = some record →
      CallMove env s t (.sendInput sender request) (.sendInput record request)
  | insert {messageId ts : String} {containerActive paneResolvable : Bool}
      {sender target : AgentRecord} {request : SendRequest} :
      s.calls t = .sendInput sender request →
      resolveTarget request.target s.agents = .ok target →
      CallMove env s t (.gate messageId ts containerActive paneResolvable)
        (.insert (newMessage env messageId ts sender target request
            (renderEnvelope messageId sender.identity target.identity request.body))
          (evaluateEnqueuePermissions sender target s.isEnabled containerActive paneResolvable)
          sender target)
  | approveCheck {row : QueueRow} {operator : String} :
      s.messageQueue.get row.messageId = some row →
      CallMove env s t (.approve row.messageId operator) (.approveCheck row operator)
  | approve {row : QueueRow} {operator : String} :
      s.calls t = .approveCheck row operator → approveCheck s row = .ok () →
      CallMove env s t .approveCheck (.approve row operator)
  | delay {row : QueueRow} {operator : String} :
      s.messageQueue.get row.messageId = some row →
      CallMove env s t (.delay row.messageId operator) (.delay row operator)
  | cancel (messageId operator : String) :
      CallMove env s t (.cancel messageId operator)
        (.cancel messageId (s.messageQueue.get messageId) operator)
  | readFull : CallMove env s t .readFull (.readFull s.flag)

inductive WorkerMove (s : State) : Worker → Prop where
  | idle : WorkerMove s .idle
  | dead : WorkerMove s .dead
  | polled : WorkerMove s .polled
  | picked (row : QueueRow) : WorkerMove s (.picked row)
  | rechecked (row : QueueRow) : WorkerMove s (.rechecked row)
  | blocking (row : QueueRow) {reason : BlockReason} :
      reason.isRole = false → WorkerMove s (.blocking row reason)
  | resolved (row : QueueRow) : WorkerMove s (.resolved row)
  | loading {row : QueueRow} (body : List UInt8) :
      s.worker = .stamped row → WorkerMove s (.loading row body)
  | loaded {row : QueueRow} {body : List UInt8} :
      s.worker = .loading row body → WorkerMove s (.loaded row body)
  | submitted {row : QueueRow} {body : List UInt8} :
      s.worker = .pasted row body → WorkerMove s (.submitted row body)
  | failing {row : QueueRow} {body : List UInt8} (reason : FailureReason) :
      s.worker = .loading row body ∨ s.worker = .pasted row body ∨
        s.worker = .submitted row body →
      WorkerMove s (.failing row reason)

/-- `is_enabled` may fill the cache on the way. -/
def Refilled (s s₁ : State) : Prop := s₁ = s ∨ s₁ = s.filled

/-- As long as the cache does not say `enabled` against the stored flag, neither does `is_enabled`. -/
theorem State.flag_of_isEnabled (hcache : s.cachedValue = some .enabled → s.flag = .enabled)
    (henabled : s.isEnabled = true) : s.flag = .enabled := by
  have hseen : s.cachedValue.getD s.flag = .enabled := of_decide_eq_true henabled
  cases hcached : s.cachedValue with
  | none =>
    rw [hcached] at hseen
    exact hseen
  | some v =>
    rw [hcached] at hseen
    exact hcache (by rw [hcached, show v = .enabled from hseen])

/-- What `is_enabled` puts into the cache is the stored flag or what was there. -/
theorem State.flag_of_filled (hcache : s.cachedValue = some .enabled → s.flag = .enabled)
    (hfilled : s.filled.cachedValue = some .enabled) : s.flag = .enabled :=
  State.flag_of_isEnabled hcache (decide_eq_true (Option.some.inj hfilled))

structure Committed (s : State) (op : DaoOp) (record : QueueTransition) (s' : State) : Prop where
  apply : op.apply s.messageQueue = .ok s'.messageQueue
  target : record.target.isSome = true
  eq : s' = { s with messageQueue := s'.messageQueue, audit := s.audit ++ [record] }

variable {op : DaoOp} {record : QueueTransition} {ts : String} {t : Nat} {l : WorkerLabel}

theorem State.transact_ok (h : s.transact op record = .ok s') : Committed s op record s' := by
  unfold State.transact at h
  split at h
  · cases h
  · rename_i happly
    split at h <;> cases h
    rename_i htarget
    exact ⟨happly, by rw [htarget]; rfl, rfl⟩

theorem Committed.transact (h : Committed s op record s') : s.transact op record = .ok s' := by
  obtain ⟨target, htarget⟩ := Option.isSome_iff_exists.mp h.target
  unfold State.transact
  rw [h.apply, htarget]
  exact congrArg Except.ok h.eq.symm

theorem State.transact_succeeds {q : MessageQueue}
    (happly : op.apply s.messageQueue = .ok q) (htarget : record.target.isSome = true) :
    ∃ s', s.transact op record = .ok s' := by
  have hcommit : Committed s op record
      { s with messageQueue := q, audit := s.audit ++ [record] } := ⟨happly, htarget, rfl⟩
  exact ⟨_, hcommit.transact⟩

namespace Committed

variable {op : DaoOp} {record : QueueTransition}

section

variable (h : Committed s op record s')
include h

theorem audit : s'.audit = s.audit ++ [record] :=
  (congrArg State.audit h.eq :)

theorem flag : s'.flag = s.flag := (congrArg State.flag h.eq :)

theorem cachedValue : s'.cachedValue = s.cachedValue :=
  (congrArg State.cachedValue h.eq :)

theorem calls : s'.calls = s.calls := (congrArg State.calls h.eq :)

theorem worker : s'.worker = s.worker :=
  (congrArg State.worker h.eq :)

theorem agents : s'.agents = s.agents :=
  (congrArg State.agents h.eq :)

theorem running : s'.running = s.running :=
  (congrArg State.running h.eq :)

theorem sends : s'.sends = s.sends := (congrArg State.sends h.eq :)

theorem pastes : s'.pastes = s.pastes :=
  (congrArg State.pastes h.eq :)

theorem approvals : s'.approvals = s.approvals :=
  (congrArg State.approvals h.eq :)

end

end Committed

/-! The history that a committed call adds to is apart from everything else. -/

section Record

variable (call : Call)

@[simp] theorem Call.record_messageQueue : (call.record s s').messageQueue = s'.messageQueue := by
  cases call <;> rfl

@[simp] theorem Call.record_audit : (call.record s s').audit = s'.audit := by cases call <;> rfl

@[simp] theorem Call.record_flag : (call.record s s').flag = s'.flag := by cases call <;> rfl

@[simp] theorem Call.record_cachedValue : (call.record s s').cachedValue = s'.cachedValue := by
  cases call <;> rfl

@[simp] theorem Call.record_calls : (call.record s s').calls = s'.calls := by cases call <;> rfl

@[simp] theorem Call.record_worker : (call.record s s').worker = s'.worker := by cases call <;> rfl

@[simp] theorem Call.record_agents : (call.record s s').agents = s'.agents := by cases call <;> rfl

@[simp] theorem Call.record_running : (call.record s s').running = s'.running := by
  cases call <;> rfl

@[simp] theorem Call.record_pastes : (call.record s s').pastes = s'.pastes := by cases call <;> rfl

end Record

inductive Change (env : Env) (s : State) : Label → State → Prop where
  | register (agents : List AgentRecord) :
      Change env s (.register agents) { s with agents }
  | toggle (value : FlagValue) :
      Change env s (.toggle value) { s with flag := value, cachedValue := some value }
  | crash : Change env s .crash s.crashed
  | boot (ts : String) {q : MessageQueue} :
      (DaoOp.recoverInFlightRows ts).apply s.messageQueue = .ok q →
      Change env s (.boot ts)
        { s.crashed with
          messageQueue := q
          audit := s.audit ++
            (snapshotInFlightIdentities s.messageQueue).map (Recovery.recoveredTransition ts)
          running := true }
  | refused (t : Nat) (l : CallLabel) : Change env s (.call t l) s
  | call {t : Nat} {l : CallLabel} {call : Call} {s₁ : State} :
      CallMove env s t l call → Refilled s s₁ → Change env s (.call t l) (s₁.goto t call)
  | storeFlag {t : Nat} {value : FlagValue} :
      s.calls t = .readFull value →
      Change env s (.call t .storeFlag) ((s.store value).goto t .idle)
  | commitCall {t : Nat} {ts : String} {op : DaoOp} {record : QueueTransition} {s' : State} :
      (s.calls t).transition env ts = some (op, record) → Committed s op record s' →
      Change env s (.call t (.commit ts)) (((s.calls t).record s s').goto t .idle)
  | worker {l : WorkerLabel} {w : Worker} {s₁ : State} :
      WorkerMove s w → Refilled s s₁ → Change env s (.worker l) (s₁.work w)
  | stamp {row : QueueRow} {ts : String} {q : MessageQueue} :
      s.worker = .resolved row →
      (DaoOp.stampDeliveryAttemptStarted row.messageId ts).apply s.messageQueue = .ok q →
      Change env s (.worker (.commit ts)) { s with messageQueue := q, worker := .stamped row }
  | paste {row : QueueRow} {body : List UInt8} :
      s.worker = .loaded row body →
      Change env s (.worker .paste) ((s.recordPaste
          ⟨row.messageId, (s.messageQueue.get row.messageId).map QueueRow.state⟩).work
          (.pasted row body))
  | commitWorker {ts : String} {op : DaoOp} {record : QueueTransition} {s' : State} :
      s.worker.transition env ts = some (op, record) → Committed s op record s' →
      Change env s (.worker (.commit ts)) (s'.work .idle)

/-! ## The calls -/

theorem gate_ok {sender : AgentRecord} {request : SendRequest} {messageId : String}
    {containerActive paneResolvable : Bool} {call : Call}
    (h : gate env s sender request messageId ts containerActive paneResolvable = .ok call) :
    ∃ target, resolveTarget request.target s.agents = .ok target ∧
      call = .insert (newMessage env messageId ts sender target request
          (renderEnvelope messageId sender.identity target.identity request.body))
        (evaluateEnqueuePermissions sender target s.isEnabled containerActive paneResolvable)
        sender target := by
  obtain ⟨⟨m, decision, target⟩, hprepare, h⟩ := bind_eq_ok.mp h
  obtain ⟨hresolve, rfl, rfl⟩ := prepareSend_ok hprepare
  exact ⟨target, hresolve, (Except.ok.inj h).symm⟩

theorem refilled_afterApproveCheck (s : State) (row : QueueRow) :
    Refilled s (afterApproveCheck s row) := by
  unfold afterApproveCheck
  split
  · exact .inr rfl
  · exact .inl rfl

theorem commitCall_change (h : commitCall env s t ts = some s') :
    Change env s (.call t (.commit ts)) s' := by
  unfold commitCall at h
  split at h
  · cases h
  · rename_i op record htransition
    split at h
    · cases h
      exact .call (.idle _) (.inl rfl)
    · rename_i hcommit
      cases h
      exact .commitCall htransition (State.transact_ok hcommit)

theorem stepCall_change {l : CallLabel} (h : stepCall env s t l = some s') :
    Change env s (.call t l) s' := by
  cases l with
  | sendInput sender request =>
    simp only [stepCall] at h
    split_ifs at h
    split at h
    · cases h
      exact .refused t _
    · rename_i hrecord
      cases h
      exact .call (.sendInput hrecord) (.inl rfl)
  | gate messageId ts containerActive paneResolvable =>
    simp only [stepCall] at h
    split at h
    · rename_i sender request hcall
      split at h
      · cases h
        exact .call (.idle _) (.inl rfl)
      · rename_i hgate
        cases h
        obtain ⟨target, hresolve, rfl⟩ := gate_ok hgate
        exact .call (.insert hcall hresolve) (.inr rfl)
    · cases h
  | approve messageId operator | delay messageId operator =>
    simp only [stepCall] at h
    split_ifs at h
    split at h
    · cases h
      exact .refused t _
    · rename_i row hget
      cases h
      have hkey : row.messageId = messageId := Sql.Table.key_of_get hget
      subst hkey
      exact .call (by constructor; exact hget) (.inl rfl)
  | approveCheck =>
    simp only [stepCall] at h
    split at h
    · rename_i row operator hcall
      split at h
      · cases h
        exact .call (.idle _) (refilled_afterApproveCheck s row)
      · rename_i hcheck
        cases h
        exact .call (.approve hcall hcheck) (refilled_afterApproveCheck s row)
    · cases h
  | cancel | readFull =>
    simp only [stepCall] at h
    split_ifs at h
    cases h
    exact .call (by constructor) (.inl rfl)
  | storeFlag =>
    simp only [stepCall] at h
    split at h <;> cases h
    rename_i hcall
    exact .storeFlag hcall
  | commit ts => exact commitCall_change h
  | raise =>
    cases h
    exact .call (.idle _) (.inl rfl)

theorem commitWorker_change (h : commitWorker env s ts = some s') :
    Change env s (.worker (.commit ts)) s' := by
  unfold commitWorker at h
  split at h
  · cases h
  · rename_i op record htransition
    split at h
    · cases h
      exact .worker .idle (.inl rfl)
    · rename_i hcommit
      cases h
      exact .commitWorker htransition (State.transact_ok hcommit)

/-! ## The worker alone -/

inductive WorkerStep (s : State) : WorkerLabel → Worker → Prop where
  | poll : s.worker = .idle → WorkerStep s .poll (if s.isEnabled then .polled else .idle)
  | nothing : s.worker = .polled → WorkerStep s .pick .idle
  | pick {row : QueueRow} : s.worker = .polled → pickNextReadyRow s.messageQueue = some row →
      WorkerStep s .pick (.picked row)
  | recheck {row : QueueRow} {containerActive paneResolvable : Bool} :
      s.worker = .picked row → s.isEnabled = true →
      WorkerStep s (.recheck containerActive paneResolvable) (.rechecked row)
  | block {row : QueueRow} {containerActive paneResolvable : Bool} (reason : BlockReason) :
      s.worker = .picked row →
      WorkerStep s (.recheck containerActive paneResolvable) (.blocking row reason)
  | resolve {row : QueueRow} : s.worker = .rechecked row →
      WorkerStep s (.resolve true) (.resolved row)
  | unresolved {row : QueueRow} : s.worker = .rechecked row →
      WorkerStep s (.resolve false) (.blocking row .targetPaneMissing)
  | stamp {row : QueueRow} (ts : String) : s.worker = .resolved row →
      WorkerStep s (.commit ts) (.stamped row)
  | commit (ts : String) : WorkerStep s (.commit ts) .idle
  | readBody {row : QueueRow} (body : List UInt8) : s.worker = .stamped row →
      WorkerStep s .readBody (.loading row body)
  | noBody {row : QueueRow} : s.worker = .stamped row → WorkerStep s .readBody .idle
  | load {row : QueueRow} {body : List UInt8} : s.worker = .loading row body →
      WorkerStep s .load (.loaded row body)
  | paste {row : QueueRow} {body : List UInt8} : s.worker = .loaded row body →
      WorkerStep s .paste (.pasted row body)
  | submit {row : QueueRow} {body : List UInt8} : s.worker = .pasted row body →
      WorkerStep s .submit (.submitted row body)
  | tmuxError {row : QueueRow} {body : List UInt8} (failureReason : Option FailureReason) :
      s.worker = .loading row body ∨ s.worker = .pasted row body →
      WorkerStep s (.tmuxError failureReason) (.failing row (failureReason.getD .tmuxPasteFailed))
  | notDelivered {row : QueueRow} {body : List UInt8} : s.worker = .submitted row body →
      WorkerStep s .lockConflict (.failing row .sqliteLockConflict)
  | lockConflict : WorkerStep s .lockConflict .idle
  | die : s.worker = .idle → WorkerStep s .raise .dead
  | raise : WorkerStep s .raise .idle

theorem commitWorker_worker (h : commitWorker env s ts = some s') : s'.worker = .idle := by
  unfold commitWorker at h
  split at h
  · cases h
  · split at h <;> cases h <;> rfl

/-- Both inversions of `stepWorker`, one case for each of its lines. -/
theorem stepWorker_spec (h : stepWorker env s l = some s') :
    Change env s (.worker l) s' ∧ WorkerStep s l s'.worker := by
  unfold stepWorker at h
  split at h
  case h_1 hworker =>
    cases h
    refine ⟨.worker ?_ (.inr rfl), .poll hworker⟩
    split
    · exact .polled
    · exact .idle
  case h_2 hworker =>
    split at h <;> cases h
    · exact ⟨.worker .idle (.inl rfl), .nothing hworker⟩
    · rename_i hpick
      exact ⟨.worker (.picked _) (.inl rfl), .pick hworker hpick⟩
  case h_3 hworker =>
    split at h
    · cases h
      exact ⟨.worker (.blocking _ rfl) (.inl rfl), .block _ hworker⟩
    · split at h <;> cases h
      · rename_i hallow
        exact ⟨.worker (.rechecked _) (.inr rfl),
          .recheck hworker (recheckTargetOnly_allow_iff.mp hallow).1⟩
      · rename_i hblock
        exact ⟨.worker (.blocking _ (not_isRole_of_recheck hblock)) (.inr rfl), .block _ hworker⟩
  case h_4 succeeds hworker =>
    cases h
    cases succeeds with
    | true => exact ⟨.worker (.resolved _) (.inl rfl), .resolve hworker⟩
    | false => exact ⟨.worker (.blocking _ rfl) (.inl rfl), .unresolved hworker⟩
  case h_5 hworker =>
    split at h <;> cases h
    · exact ⟨.worker .idle (.inl rfl), .commit _⟩
    · rename_i happly
      exact ⟨.stamp hworker happly, .stamp _ hworker⟩
  case h_6 hworker =>
    split at h <;> cases h
    · exact ⟨.worker .idle (.inl rfl), .noBody hworker⟩
    · exact ⟨.worker (.loading _ hworker) (.inl rfl), .readBody _ hworker⟩
  case h_7 hworker => cases h; exact ⟨.worker (.loaded hworker) (.inl rfl), .load hworker⟩
  case h_8 hworker => cases h; exact ⟨.paste hworker, .paste hworker⟩
  case h_9 hworker => cases h; exact ⟨.worker (.submitted hworker) (.inl rfl), .submit hworker⟩
  case h_10 hworker =>
    cases h
    exact ⟨.worker (.failing _ (.inl hworker)) (.inl rfl), .tmuxError _ (.inl hworker)⟩
  case h_11 hworker =>
    cases h
    exact ⟨.worker (.failing _ (.inr (.inl hworker))) (.inl rfl), .tmuxError _ (.inr hworker)⟩
  case h_12 hworker =>
    cases h
    exact ⟨.worker (.failing _ (.inr (.inr hworker))) (.inl rfl), .notDelivered hworker⟩
  case h_13 | h_14 | h_15 => cases h; exact ⟨.worker .idle (.inl rfl), .lockConflict⟩
  case h_16 =>
    refine ⟨commitWorker_change h, ?_⟩
    rw [commitWorker_worker h]
    exact .commit _
  case h_17 hworker => cases h; exact ⟨.worker .dead (.inl rfl), .die hworker⟩
  case h_19 => cases h; exact ⟨.worker .idle (.inl rfl), .raise⟩
  case h_18 | h_20 => cases h

theorem stepWorker_change (h : stepWorker env s l = some s') : Change env s (.worker l) s' :=
  (stepWorker_spec h).1

theorem stepWorker_moves (h : stepWorker env s l = some s') : WorkerStep s l s'.worker :=
  (stepWorker_spec h).2

/-! ## The system -/

theorem step_change {l : Label} (h : step env s l = some s') : Change env s l s' := by
  cases l with
  | call t l =>
    simp only [step] at h
    split_ifs at h
    exact stepCall_change h
  | worker l =>
    simp only [step] at h
    split_ifs at h
    exact stepWorker_change h
  | toggle value =>
    simp only [step] at h
    split_ifs at h
    cases h
    exact .toggle value
  | register agents =>
    cases h
    exact .register agents
  | crash =>
    cases h
    exact .crash
  | boot ts =>
    simp only [step, boot] at h
    split_ifs at h
    split at h <;> cases h
    rename_i happly
    exact .boot ts happly

end AgentTower.Routing.Daemon
