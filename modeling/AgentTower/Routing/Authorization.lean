import AgentTower.Routing.AtMostOnce

/-!
# Which sends can end in a delivery

A row that the gate blocked for a role stays blocked or is canceled: `approve` refuses the reason, and
no later transition gives a row such a reason.  The gate tests the kill switch and the target's
activity first, and nothing looks at roles again.
-/

namespace AgentTower.Routing

open Transition Sql List Option Table

def QueueRow.roleBlocked (r : QueueRow) : Bool :=
  decide (r.state = .blocked) && r.blockReason.any BlockReason.isRole

def DaoOp.roleFree : DaoOp → Bool
  | .transitionQueuedToBlockedReCheck _ reason _ => !reason.isRole
  | _ => true

def DaoOp.inserted : DaoOp → Option NewMessage
  | .insertQueued m | .insertBlocked m _ => some m
  | _ => none

def DaoOp.approved : DaoOp → Option String
  | .transitionBlockedToQueuedApprove messageId _ _ => some messageId
  | _ => none

theorem Decision.inserted_insert (m : NewMessage) (decision : Decision) :
    (decision.insert m).inserted = some m := by
  cases decision <;> rfl

variable {r : QueueRow}

theorem QueueRow.roleBlocked_of_ne (h : r.state ≠ .blocked) : r.roleBlocked = false := by
  rw [QueueRow.roleBlocked, decide_eq_false h, Bool.false_and]

theorem QueueRow.state_of_roleBlocked (h : r.roleBlocked = true) : r.state = .blocked := by
  rw [QueueRow.roleBlocked, Bool.and_eq_true, decide_eq_true_eq] at h
  exact h.1

theorem RowStep.not_roleBlocked {op : DaoOp} {r' : QueueRow} (hstep : RowStep op r r')
    (hop : op.roleFree = true) : r'.roleBlocked = false := by
  cases hstep with
  | stamp _ hready =>
    apply QueueRow.roleBlocked_of_ne
    show r.state ≠ .blocked
    rw [(QueueRow.ready_iff.mp hready).1]
    decide
  | deliver | fail | approve | cancel | recover => exact QueueRow.roleBlocked_of_ne (by nofun)
  | recheck reason =>
    have hrole : reason.isRole = false := by simpa [DaoOp.roleFree] using hop
    show (decide (QueueState.blocked = .blocked) && reason.isRole) = false
    rw [hrole, Bool.and_false]
  | delay => rfl

theorem RowStep.of_roleBlocked {op : DaoOp} {r' : QueueRow} (hstep : RowStep op r r')
    (hr : r.Coherent) (h : r.roleBlocked = true) :
    op.approved = some r.messageId ∨ r'.state = .canceled := by
  have hblocked := QueueRow.state_of_roleBlocked h
  cases hstep with
  | approve => exact .inl rfl
  | cancel => exact .inr rfl
  | stamp _ hready | recheck _ _ hready =>
    rw [(QueueRow.ready_iff.mp hready).1] at hblocked
    cases hblocked
  | deliver _ hstate | fail _ _ hstate | delay _ _ hstate =>
    rw [hstate] at hblocked
    cases hblocked
  | recover _ hflight =>
    rw [(hr.inFlight_iff.mp hflight).1] at hblocked
    cases hblocked

namespace Daemon

variable {env : Env} {s s' : State}

theorem checkApproveApplicable_ok {row : QueueRow} {enabled : Bool}
    (h : checkApproveApplicable row enabled = .ok ()) :
    ∃ reason, row.blockReason = some reason ∧
      (operatorResolvable reason = true ∨ reason = .killSwitchOff ∧ enabled = true) := by
  unfold checkApproveApplicable at h
  split at h
  · cases h
  · rename_i reason hreason
    split_ifs at h with hresolvable hkill henabled
    · exact ⟨reason, hreason, .inl hresolvable⟩
    · exact ⟨reason, hreason, .inr ⟨hkill, henabled⟩⟩

theorem not_isRole_of_operatorResolvable {reason : BlockReason}
    (h : operatorResolvable reason = true) : reason.isRole = false := by
  cases reason <;> first | rfl | cases h

theorem approveCheck_roleBlocked {row : QueueRow} (h : approveCheck s row = .ok ()) :
    row.roleBlocked = false := by
  unfold approveCheck at h
  split_ifs at h with hstate
  · obtain ⟨reason, hreason, hresolvable | ⟨hkill, -⟩⟩ := checkApproveApplicable_ok h
    · rw [QueueRow.roleBlocked, hreason, any_some,
        not_isRole_of_operatorResolvable hresolvable, Bool.and_false]
    · rw [QueueRow.roleBlocked, hreason, hkill, any_some]
      exact Bool.and_false _
  · exact QueueRow.roleBlocked_of_ne hstate

/-! ## Rows blocked for a role -/

variable {t : Nat} {call : Call} {op : DaoOp} {l : Label} {w : Worker} {ts : String}
  {record : QueueTransition} {r : QueueRow}

theorem State.forall_goto {P : Call → Prop} (h : ∀ u, P (s.calls u))
    (hcall : P call) (u : Nat) : P ((s.goto t call).calls u) := by
  by_cases hu : u = t
  · simpa [State.goto, hu] using hcall
  · simpa [State.goto, hu] using h u

/-- An approve under way is not about a row that is blocked for a role: the row was not so when it
was read, and cannot have become so. -/
def Call.RoleOk (q : MessageQueue) : Call → Prop
  | .approveCheck row _ =>
    ∃ r, q.get row.messageId = some r ∧ (r.roleBlocked = true → row.roleBlocked = true)
  | .approve row _ => ∃ r, q.get row.messageId = some r ∧ r.roleBlocked = false
  | _ => True

def Worker.RoleOk : Worker → Prop
  | .blocking _ reason => reason.isRole = false
  | _ => True

structure RoleInv (q : MessageQueue) (calls : Nat → Call) (worker : Worker) : Prop where
  call : ∀ t, (calls t).RoleOk q
  worker : worker.RoleOk

theorem Call.RoleOk.apply {q q' : MessageQueue} (happly : op.apply q = .ok q')
    (hop : op.roleFree = true) (h : call.RoleOk q) : call.RoleOk q' := by
  cases call with
  | approveCheck row operator | approve row operator =>
    obtain ⟨r, hget, hrole⟩ := h
    obtain ⟨r', hget', hsame | hstep⟩ := DaoOp.apply_get happly hget
    · exact ⟨r', hget', hsame ▸ hrole⟩
    · exact ⟨r', hget', by simp [hstep.not_roleBlocked hop]⟩
  | idle | sendInput | insert | delay | cancel | readFull => trivial

theorem CallMove.roleOk {l : CallLabel} (hmove : CallMove env s t l call)
    (h : (s.calls t).RoleOk s.messageQueue) : call.RoleOk s.messageQueue := by
  cases hmove with
  | approveCheck hget => exact ⟨_, hget, id⟩
  | approve hcall hcheck =>
    rw [hcall] at h
    obtain ⟨r, hget, hrole⟩ := h
    refine ⟨r, hget, Bool.eq_false_iff.mpr fun hblocked => ?_⟩
    have hread := hrole hblocked
    rw [approveCheck_roleBlocked hcheck] at hread
    cases hread
  | idle | sendInput | insert | delay | cancel | readFull => trivial

theorem WorkerMove.roleOk (hmove : WorkerMove s w) : w.RoleOk := by
  cases hmove with
  | blocking _ hrole => exact hrole
  | _ => trivial

theorem Call.transition_roleFree (h : call.transition env ts = some (op, record)) :
    op.roleFree = true := by
  cases call with
  | insert m decision => cases decision <;> cases h <;> rfl
  | _ => cases h <;> rfl

theorem Worker.transition_roleFree (h : w.transition env ts = some (op, record)) (hw : w.RoleOk) :
    op.roleFree = true := by
  cases w with
  | blocking row reason =>
    cases h
    show (!reason.isRole) = true
    rw [show reason.isRole = false from hw]
    rfl
  | submitted | failing => cases h; rfl
  | _ => cases h

theorem RoleInv.change (h : RoleInv s.messageQueue s.calls s.worker)
    (hchange : Change env s l s') : RoleInv s'.messageQueue s'.calls s'.worker := by
  cases hchange with
  | register | toggle | refused => exact h
  | crash | boot => exact ⟨fun _ => trivial, trivial⟩
  | call hmove hfill =>
    have hcall := hmove.roleOk (h.call _)
    rcases hfill with rfl | rfl
    · exact ⟨State.forall_goto h.call hcall, h.worker⟩
    · exact ⟨State.forall_goto (s := s.filled) h.call hcall, h.worker⟩
  | @storeFlag t value hcall =>
    exact ⟨State.forall_goto (s := s.store value) h.call trivial, h.worker⟩
  | @commitCall t ts op record s₁ htransition hcommit =>
    have hop := Call.transition_roleFree htransition
    refine ⟨State.forall_goto (fun u => ?_) trivial, ?_⟩
    · simp only [State.goto, Call.record_messageQueue, Call.record_calls, hcommit.calls]
      exact (h.call u).apply hcommit.apply hop
    · simp only [State.goto, Call.record_worker, hcommit.worker]
      exact h.worker
  | worker hmove hfill => rcases hfill with rfl | rfl <;> exact ⟨h.call, hmove.roleOk⟩
  | stamp _ happly => exact ⟨fun t => (h.call t).apply happly rfl, trivial⟩
  | paste => exact ⟨h.call, trivial⟩
  | @commitWorker ts op record s₁ htransition hcommit =>
    have hop := Worker.transition_roleFree htransition h.worker
    refine ⟨fun t => ?_, trivial⟩
    show (s₁.calls t).RoleOk s₁.messageQueue
    rw [hcommit.calls]
    exact (h.call t).apply hcommit.apply hop

theorem Call.RoleOk.approved {q : MessageQueue} (h : call.RoleOk q)
    (htransition : call.transition env ts = some (op, record))
    (hget : q.get r.messageId = some r) (hop : op.approved = some r.messageId) :
    r.roleBlocked = false := by
  cases call with
  | approve row operator =>
    cases htransition
    obtain ⟨r', hget', hnot⟩ := h
    rw [Option.some.inj hop, hget] at hget'
    cases hget'
    exact hnot
  | insert m decision => cases decision <;> cases htransition <;> cases hop
  | delay | cancel => cases htransition; cases hop
  | idle | sendInput | approveCheck | readFull => cases htransition

theorem Worker.transition_approved (h : w.transition env ts = some (op, record)) :
    op.approved = none := by
  cases w <;> cases h <;> rfl

theorem RoleInv.row_change (h : RoleInv s.messageQueue s.calls s.worker)
    (hchange : Change env s l s') {k : String} (hget : s.messageQueue.get k = some r) :
    ∃ r', s'.messageQueue.get k = some r' ∧ (r' = r ∨ ∃ op, RowStep op r r' ∧
      (op.approved = some r.messageId → r.roleBlocked = false)) := by
  have hkey : r.messageId = k := key_of_get hget
  -- every transaction is one call of the DAO
  have happly : ∀ (op : DaoOp) (q' : MessageQueue), op.apply s.messageQueue = .ok q' →
      (op.approved = some r.messageId → r.roleBlocked = false) →
      ∃ r', q'.get k = some r' ∧ (r' = r ∨ ∃ op, RowStep op r r' ∧
        (op.approved = some r.messageId → r.roleBlocked = false)) := by
    intro op q' hop happroved
    obtain ⟨r', hget', hsame | hstep⟩ := DaoOp.apply_get hop hget
    · exact ⟨r', hget', .inl hsame⟩
    · exact ⟨r', hget', .inr ⟨op, hstep, happroved⟩⟩
  cases hchange with
  | register | toggle | crash | refused | storeFlag | paste => exact ⟨r, hget, .inl rfl⟩
  | boot ts hop | stamp _ hop => exact happly _ _ hop nofun
  | call _ hfill | worker _ hfill => rcases hfill with rfl | rfl <;> exact ⟨r, hget, .inl rfl⟩
  | @commitCall t ts op record s₁ htransition hcommit =>
    show ∃ r', ((s.calls t).record s s₁).messageQueue.get k = some r' ∧ _
    rw [Call.record_messageQueue]
    exact happly _ _ hcommit.apply ((h.call t).approved htransition (hkey.symm ▸ hget))
  | commitWorker htransition hcommit =>
    refine happly _ _ hcommit.apply fun happroved => ?_
    rw [Worker.transition_approved htransition] at happroved
    cases happroved

variable {agents : List AgentRecord} {flag : KillSwitch.FlagValue}

theorem RoleInv.init :
    RoleInv (State.init agents flag).messageQueue (State.init agents flag).calls .idle :=
  ⟨fun _ => trivial, trivial⟩

theorem Reachable.roleInv (h : Reachable env agents flag s) :
    RoleInv s.messageQueue s.calls s.worker :=
  Reach.invariant (fun s => RoleInv s.messageQueue s.calls s.worker) RoleInv.init
    (fun _ _ _ hinv _ hstep => hinv.change (step_change hstep)) h

/-! ## Sends and their rows -/

/-- When the gate of a send runs, either the pair is permitted or the gate reaches the role step
that refuses it. -/
def rolesReached (s : State) : Label → Bool
  | .call t (.gate ..) =>
    match s.calls t with
    | .sendInput sender request =>
      match resolveTarget request.target s.agents with
      | .ok target =>
        decide (permittedPair sender target ∨ roleStepsReached sender target s.isEnabled)
      | .error _ => true
    | _ => true
  | _ => true

/-- A send that is about to be inserted is of a permitted pair, or its row will be blocked for a
role. -/
def Call.SendOk : Call → Prop
  | .insert _ decision sender target =>
    permittedPair sender target ∨ ∃ reason, decision = .block reason ∧ reason.isRole = true
  | _ => True

def Send.Accounts (x : Send) (r : QueueRow) : Prop :=
  permittedPair x.sender x.target ∨ r.roleBlocked = true ∨ r.state = .canceled

structure SendInv (q : MessageQueue) (calls : Nat → Call) (sends : List Send) : Prop where
  call : ∀ t, (calls t).SendOk
  row : ∀ k r, q.get k = some r → ∃ x ∈ sends, x.messageId = k ∧ x.Accounts r
  sent : ∀ x ∈ sends, (q.get x.messageId).isSome = true
  nodup : (sends.map Send.messageId).Nodup

theorem Send.Accounts.step {x : Send} {r' : QueueRow} (h : x.Accounts r)
    (hstep : RowStep op r r') (hr : r.Coherent)
    (hop : op.approved = some r.messageId → r.roleBlocked = false) : x.Accounts r' := by
  rcases h with hpair | hrole | hcanceled
  · exact .inl hpair
  · rcases hstep.of_roleBlocked hr hrole with happroved | hcanceled
    · rw [hop happroved] at hrole
      cases hrole
    · exact .inr (.inr hcanceled)
  · have hfinal := hstep.not_terminal hr
    rw [hcanceled] at hfinal
    cases hfinal

namespace SendInv

variable {q q' : MessageQueue} {calls : Nat → Call} {sends : List Send}

theorem init : SendInv Table.empty (fun _ => .idle) [] where
  call _ := trivial
  row k r hr := by cases (get_empty k).symm.trans hr
  sent x hx := by cases hx
  nodup := nodup_nil

variable {op : DaoOp}

theorem sent_apply (h : SendInv q calls sends) (happly : op.apply q = .ok q') :
    ∀ x ∈ sends, (q'.get x.messageId).isSome = true := by
  intro x hx
  obtain ⟨r, hget⟩ := isSome_iff_exists.mp (h.sent x hx)
  obtain ⟨r', hget', -⟩ := DaoOp.apply_get happly hget
  rw [hget']
  rfl

theorem apply (h : SendInv q calls sends) (hq : MessageQueue.Coherent q)
    (happly : op.apply q = .ok q') (hinsert : op.inserted = none)
    (hop : ∀ r, q.get r.messageId = some r → op.approved = some r.messageId →
      r.roleBlocked = false) :
    SendInv q' calls sends where
  call := h.call
  row k r' hget' := by
    rcases DaoOp.apply_source happly hget' with ⟨r, hget, hr⟩ | ⟨-, m, decision, heq, -⟩
    · obtain ⟨x, hx, hid, haccounts⟩ := h.row k r hget
      refine ⟨x, hx, hid, ?_⟩
      rcases hr with rfl | hstep
      · exact haccounts
      · have hkey : r.messageId = k := key_of_get hget
        exact haccounts.step hstep (hq k r hget) (hop r (hkey.symm ▸ hget))
    · rw [heq, Decision.inserted_insert] at hinsert
      cases hinsert
  sent := h.sent_apply happly
  nodup := h.nodup

theorem insert (h : SendInv q calls sends) {m : NewMessage} {decision : Decision}
    {sender target : AgentRecord} (happly : (decision.insert m).apply q = .ok q')
    (hok : (Call.insert m decision sender target).SendOk) :
    SendInv q' calls (sends ++ [⟨m.messageId, sender, target⟩]) := by
  obtain ⟨hfresh, hafter⟩ := Decision.insert_ok happly
  have hnew : (⟨m.messageId, sender, target⟩ : Send).Accounts
      (m.row decision.toState decision.reason) := by
    rcases hok with hpair | ⟨reason, rfl, hrole⟩
    · exact .inl hpair
    · exact .inr (.inl hrole)
  refine ⟨h.call, fun k r' hget' => ?_, fun x hx => ?_, ?_⟩
  · rw [hafter k] at hget'
    by_cases hk : k = m.messageId
    · rw [if_pos hk] at hget'
      cases hget'
      exact ⟨_, mem_append_right _ (mem_singleton.mpr rfl), hk.symm, hnew⟩
    · rw [if_neg hk] at hget'
      obtain ⟨x, hx, hid, haccounts⟩ := h.row k r' hget'
      exact ⟨x, mem_append_left _ hx, hid, haccounts⟩
  · rcases mem_append.mp hx with hx | hx
    · exact h.sent_apply happly x hx
    · cases mem_singleton.mp hx
      rw [hafter m.messageId, if_pos rfl]
      rfl
  · rw [map_append]
    refine nodup_append.mpr ⟨h.nodup, nodup_singleton _, ?_⟩
    intro a ha b hb hab
    cases mem_singleton.mp hb
    obtain ⟨x, hx, hid⟩ := mem_map.mp ha
    have hrow := h.sent x hx
    rw [hid, hab, hfresh] at hrow
    cases hrow

theorem goto (h : SendInv q s.calls sends) {t : Nat} {call : Call} (hcall : call.SendOk) :
    SendInv q (s.goto t call).calls sends :=
  ⟨State.forall_goto h.call hcall, h.row, h.sent, h.nodup⟩

theorem stopped (h : SendInv q calls sends) : SendInv q (fun _ => .idle) sends :=
  ⟨fun _ => trivial, h.row, h.sent, h.nodup⟩

theorem commitCall {t : Nat} {ts : String} {record : QueueTransition}
    (h : SendInv s.messageQueue s.calls s.sends) (hq : MessageQueue.Coherent s.messageQueue)
    (hrole : (s.calls t).RoleOk s.messageQueue)
    (htransition : (s.calls t).transition env ts = some (op, record))
    (hcommit : Committed s op record s') :
    SendInv s'.messageQueue s.calls ((s.calls t).record s s').sends := by
  have hsend := h.call t
  have hsends := hcommit.sends
  have happroved := fun r => hrole.approved htransition (r := r)
  generalize s.calls t = call at htransition hsend ⊢
  cases call with
  | insert m decision sender target =>
    cases htransition
    show SendInv _ _ (s'.sends ++ _)
    rw [hsends]
    exact h.insert hcommit.apply hsend
  | approve | delay | cancel =>
    cases htransition
    show SendInv _ _ s'.sends
    rw [hsends]
    exact h.apply hq hcommit.apply rfl happroved
  | idle | sendInput | approveCheck | readFull => cases htransition

theorem commitWorker {ts : String} {record : QueueTransition}
    (h : SendInv q calls sends) (hq : MessageQueue.Coherent q)
    (htransition : s.worker.transition env ts = some (op, record))
    (happly : op.apply q = .ok q') : SendInv q' calls sends := by
  generalize s.worker = w at htransition
  cases w with
  | blocking | submitted | failing =>
    cases htransition
    exact h.apply hq happly rfl fun _ _ happroved => by cases happroved
  | _ => cases htransition

end SendInv

theorem CallMove.sendOk {l : CallLabel} (hmove : CallMove env s t l call)
    (hok : rolesReached s (.call t l) = true) : call.SendOk := by
  cases hmove with
  | @insert _ _ containerActive paneResolvable sender target request hcall hresolve =>
    simp only [rolesReached, hcall, hresolve, decide_eq_true_eq] at hok
    rcases hok with hpair | hreached
    · exact .inl hpair
    · by_cases hpair : permittedPair sender target
      · exact .inl hpair
      · cases hdecision : evaluateEnqueuePermissions sender target s.isEnabled containerActive
          paneResolvable with
        | allow => exact .inl (permittedPair_of_allow hdecision)
        | block reason =>
          exact .inr ⟨reason, rfl, (isRole_iff_roleStepsReached hpair hdecision).mpr hreached⟩
  | idle | sendInput | approveCheck | approve | delay | cancel | readFull => trivial

theorem SendInv.change (h : SendInv s.messageQueue s.calls s.sends)
    (hq : MessageQueue.Coherent s.messageQueue) (hrole : RoleInv s.messageQueue s.calls s.worker)
    (hok : rolesReached s l = true) (hchange : Change env s l s') :
    SendInv s'.messageQueue s'.calls s'.sends := by
  cases hchange with
  | register | toggle | refused => exact h
  | crash => exact h.stopped
  | boot ts happly =>
    exact (h.apply hq happly rfl fun _ _ happroved => by cases happroved).stopped
  | call hmove hfill =>
    rcases hfill with rfl | rfl <;> exact h.goto (hmove.sendOk hok)
  | @storeFlag t value =>
    exact SendInv.goto (s := s.store value) h trivial
  | @commitCall t ts op record s₁ htransition hcommit =>
    have hafter := h.commitCall hq (hrole.call t) htransition hcommit
    have hbefore : SendInv s₁.messageQueue ((s.calls t).record s s₁).calls
        ((s.calls t).record s s₁).sends := by
      rw [Call.record_calls, hcommit.calls]
      exact hafter
    show SendInv ((s.calls t).record s s₁).messageQueue _ _
    rw [Call.record_messageQueue]
    exact hbefore.goto trivial
  | worker _ hfill => rcases hfill with rfl | rfl <;> exact h
  | stamp _ happly =>
    exact h.apply hq happly rfl fun _ _ happroved => by cases happroved
  | paste => exact h
  | @commitWorker ts op record s₁ htransition hcommit =>
    have hafter := h.commitWorker hq htransition hcommit.apply
    rw [← hcommit.calls, ← hcommit.sends] at hafter
    exact hafter

/-- In every run in which each send of a pair that is not permitted reaches the role steps of the
gate, a delivered row comes from a send of an active master to a slave or a swarm agent. -/
theorem delivered_of_permittedPair (h : Reach (step env) (fun s l => rolesReached s l = true)
      (State.init agents flag) s) :
    (s.sends.map Send.messageId).Nodup ∧
      ∀ r ∈ s.messageQueue.rows, r.state = .delivered →
        ∃ x ∈ s.sends, x.messageId = r.messageId ∧ permittedPair x.sender x.target := by
  have hinv : SendInv s.messageQueue s.calls s.sends ∧
      PasteInv s.messageQueue s.worker s.pastes ∧ RoleInv s.messageQueue s.calls s.worker := by
    refine Reach.invariant (fun s => SendInv s.messageQueue s.calls s.sends ∧
        PasteInv s.messageQueue s.worker s.pastes ∧ RoleInv s.messageQueue s.calls s.worker)
      ⟨SendInv.init, PasteInv.init, RoleInv.init⟩ ?_ h
    rintro s l s' ⟨hsend, hpaste, hrole⟩ hok hstep
    have hchange := step_change hstep
    exact ⟨hsend.change hpaste.coherent hrole hok hchange, hpaste.change hchange,
      hrole.change hchange⟩
  refine ⟨hinv.1.nodup, fun r hr hdelivered => ?_⟩
  obtain ⟨x, hx, hid, hpair | hrole | hcanceled⟩ :=
    hinv.1.row r.messageId r (get_of_mem hr)
  · exact ⟨x, hx, hid, hpair⟩
  · rw [QueueRow.state_of_roleBlocked hrole] at hdelivered
    cases hdelivered
  · rw [hcanceled] at hdelivered
    cases hdelivered

def slaveSender : AgentRecord :=
  ⟨"agt_00000000000a", "c1", "%1", .slave, "codex", "helper", true⟩

/-- A slave sends while the switch is off; the switch is turned on and the row approved. -/
def approvedLater : List Label :=
  .boot "t0" :: sendLabels (.agent "agt_00000000000a") "m1" "t1" ++
    [.toggle .enabled, .call 0 (.approve "m1" "host-operator"), .call 0 .approveCheck,
      .call 0 (.commit "t2")] ++ pasteLabels "t3" ++ [.worker .submit, .worker (.commit "t4")]

theorem delivered_of_slaveSender :
    ∃ s, run (step sampleEnv) (State.init [slaveSender, sampleTarget] .disabled)
        approvedLater = some s ∧
      ∃ r ∈ s.messageQueue.rows, r.state = .delivered ∧
        ∀ x ∈ s.sends, x.messageId = r.messageId → ¬ permittedPair x.sender x.target := by decide +kernel

def hostSend : List Label :=
  .boot "t0" :: sendLabels .hostOperator "m1" "t1" ++ pasteLabels "t2" ++
    [.worker .submit, .worker (.commit "t3")]

theorem delivered_of_permittedPair_hostSend :
    ∃ s, run (step sampleEnv) (State.init [sampleTarget] .enabled) hostSend = some s ∧
      ∃ r ∈ s.messageQueue.rows, r.state = .delivered ∧
        ∃ x ∈ s.sends, x.messageId = r.messageId ∧ permittedPair x.sender x.target := by
  obtain ⟨s, hs, r, hmem, hstate⟩ : ∃ s, runWhile (step sampleEnv) rolesReached
      (State.init [sampleTarget] .enabled) hostSend = some s ∧
      ∃ r ∈ s.messageQueue.rows, r.state = .delivered := by decide +kernel
  refine ⟨s, run_of_runWhile hs, r, hmem, hstate, ?_⟩
  exact (delivered_of_permittedPair (reach_of_runWhile .start hs)).2 r hmem hstate

end Daemon

end AgentTower.Routing
