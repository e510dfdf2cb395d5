import AgentTower.Lib.Pool
import AgentTower.Routing.Authorization

/-!
# Waiting for a message

`send_input` with `wait` registers an observer and sleeps on its condition until the row has settled.
The commits are the daemon's; what a call still does after its commit is one entry of `notifiers`.

The waiter registers before it reads the row and holds the condition from the read to the sleep, so
between the two no notification can pass it by.  What it does not see is a row that settled and was
approved again before its read.  A `message_id` is inserted once, so a message has at most one waiter.
-/

namespace AgentTower.Routing

open Transition Sql List Option
open Daemon (sampleEnv sampleTarget)

/-- `_END_OF_WAIT_STATES`. -/
def QueueState.endOfWait (state : QueueState) : Bool := state.terminal || decide (state = .blocked)

def MessageQueue.EndOfWait (q : MessageQueue) (messageId : String) : Prop :=
  ∃ r, q.get messageId = some r ∧ r.state.endOfWait = true

instance (q : MessageQueue) (messageId : String) : Decidable (q.EndOfWait messageId) :=
  decidable_of_iff ((q.get messageId).any (fun r => r.state.endOfWait) = true) (any_eq_true _ _)

/-- The message whose state a call writes; the stamp writes none and the recovery many. -/
def DaoOp.writesState : DaoOp → Option String
  | .insertQueued m | .insertBlocked m _ => some m.messageId
  | .transitionQueuedToDelivered messageId _ | .transitionQueuedToFailed messageId _ _
  | .transitionQueuedToBlockedReCheck messageId _ _ | .transitionBlockedToQueuedApprove messageId _ _
  | .transitionQueuedToBlockedDelay messageId _ _ | .transitionToCanceled messageId _ _ =>
    some messageId
  | .stampDeliveryAttemptStarted _ _ | .recoverInFlightRows _ => none

theorem RowStep.writesState {op : DaoOp} {r r' : QueueRow} (hstep : RowStep op r r')
    (h : r'.state ≠ r.state) :
    op.writesState = some r.messageId ∨ ∃ ts, op = .recoverInFlightRows ts := by
  cases hstep with
  | stamp => exact absurd rfl h
  | deliver | fail | recheck | approve | delay | cancel => exact .inl rfl
  | recover ts => exact .inr ⟨ts, rfl⟩

theorem DaoOp.endOfWait_before {q q' : MessageQueue} {op : DaoOp} (happly : op.apply q = .ok q')
    {k : String} (h : q'.EndOfWait k) :
    op.writesState = some k ∨ (∃ ts, op = .recoverInFlightRows ts) ∨ MessageQueue.EndOfWait q k := by
  obtain ⟨r', hget', hend⟩ := h
  rcases DaoOp.apply_source happly hget' with ⟨r, hget, rfl | hstep⟩ | ⟨-, m, decision, rfl, rfl, -⟩
  · exact .inr (.inr ⟨r', hget, hend⟩)
  · by_cases hstate : r'.state = r.state
    · rw [hstate] at hend
      exact .inr (.inr ⟨r, hget, hend⟩)
    · have hwrites := hstep.writesState hstate
      rw [Table.key_of_get hget] at hwrites
      exact hwrites.imp_right .inl
  · cases decision <;> exact .inl rfl

namespace Waiters

open Daemon (Call Worker)

/-! ## The waiter and the calls that notify -/

/-- `send_input` after its commit: the read of step 5, the registration, and `_wait_for_terminal`. -/
inductive Waiter where
  | absent
  | inserted
  | registering
  | locking
  | checking
  | deciding
  | asleep (notified : Bool)
  | leaving
  | done
  deriving DecidableEq, Repr

/-- The observer is in `_wait_observers`. -/
def Waiter.registered : Waiter → Bool
  | .locking | .checking | .deciding | .asleep _ | .leaving => true
  | .absent | .inserted | .registering | .done => false

/-- The waiter holds its condition; `wait` gives it up. -/
def Waiter.locked : Waiter → Bool
  | .checking | .deciding => true
  | _ => false

inductive NotifierPc where
  | append | read | lookup | notify
  deriving DecidableEq, Repr

/-- A call between its commit and its notification; `reads` says that it reads the row back before
it notifies, as `approve` and `cancel` do. -/
structure Notifier where
  byWorker : Bool
  messageId : String
  reads : Bool
  pc : NotifierPc
  deriving DecidableEq, Repr

def Notifier.hold (n : Notifier) : List String := [n.messageId]

def afterCommit : Call → List Notifier
  | .approve row _ => [⟨false, row.messageId, true, .append⟩]
  | .delay row _ => [⟨false, row.messageId, false, .append⟩]
  | .cancel messageId _ _ => [⟨false, messageId, true, .append⟩]
  | _ => []

structure State where
  daemon : Daemon.State
  waiters : String → Waiter
  notifiers : List Notifier

namespace State

def init (agents : List AgentRecord) (flag : KillSwitch.FlagValue) : State where
  daemon := .init agents flag
  waiters := fun _ => .absent
  notifiers := []

def wait (s : State) (messageId : String) (w : Waiter) : State :=
  { s with waiters := fun k => if k = messageId then w else s.waiters k }

def awaited (s : State) : List String := Pool.held Notifier.hold s.notifiers

def endOfWait (s : State) (messageId : String) : Bool :=
  (s.daemon.messageQueue.get messageId).any fun r => r.state.endOfWait

end State

/-! ## Steps -/

def committed (env : Env) (d : Daemon.State) :
    Daemon.Label → Option (DaoOp × QueueTransition)
  | .call t (.commit ts) =>
    ((d.calls t).transition env ts).filter fun x => (d.transact x.1 x.2).isOk
  | .worker (.commit ts) =>
    (d.worker.transition env ts).filter fun x => (d.transact x.1 x.2).isOk
  | _ => none

def due (env : Env) (d : Daemon.State) (l : Daemon.Label) : List Notifier :=
  match committed env d l, l with
  | some _, .call t _ => afterCommit (d.calls t)
  | some (_, record), .worker _ => [⟨true, record.messageId, false, .append⟩]
  | _, _ => []

def startsWaiting (env : Env) (d : Daemon.State) (wait : Bool) (l : Daemon.Label) :
    Option String :=
  match committed env d l with
  | some (op, _) => if wait then op.inserted.map NewMessage.messageId else none
  | none => none

def admits (s : State) : Daemon.Label → Bool
  | .worker _ => s.notifiers.all fun n => !n.byWorker
  | _ => true

/-- The waiters and notifications after a step of the daemon; a new process has none. -/
def afterDaemon (env : Env) (s : State) (l : Daemon.Label) (wait : Bool) (d : Daemon.State) : State :=
  match l with
  | .crash | .boot _ => ⟨d, fun _ => .absent, []⟩
  | _ =>
    let s' : State := { s with daemon := d, notifiers := s.notifiers ++ due env s.daemon l }
    match startsWaiting env s.daemon wait l with
    | some messageId => s'.wait messageId .inserted
    | none => s'

/-- `wait` is the argument of a `send_input` that commits; `expired` says that the deadline has
passed.  A waiter may be woken by the notification, by its timeout, or for no reason. -/
inductive Label where
  | daemon (l : Daemon.Label) (wait : Bool)
  | readBack (messageId : String)
  | register (messageId : String)
  | lock (messageId : String)
  | check (messageId : String)
  | sleep (messageId : String) (expired : Bool)
  | wake (messageId : String)
  | leave (messageId : String)
  | append (i : Nat)
  | read (i : Nat)
  | lookup (i : Nat)
  | notify (i : Nat)
  | raise (i : Nat)
  deriving DecidableEq, Repr

def State.goto (s : State) (i : Nat) (n : Notifier) (pc : NotifierPc) : State :=
  { s with notifiers := s.notifiers.set i { n with pc } }

def State.finish (s : State) (i : Nat) : State := { s with notifiers := s.notifiers.eraseIdx i }

/-- `notify_all`: it reaches a waiter that is in `wait`. -/
def Waiter.notify : Waiter → Waiter
  | .asleep _ => .asleep true
  | w => w

def stepWaiter (s : State) (messageId : String) : Waiter → Label → Option State
  | .inserted, .readBack _ =>
    some (s.wait messageId (if s.endOfWait messageId then .done else .registering))
  | .registering, .register _ => some (s.wait messageId .locking)
  | .locking, .lock _ => some (s.wait messageId .checking)
  | .checking, .check _ =>
    some (s.wait messageId (if s.endOfWait messageId then .leaving else .deciding))
  | .deciding, .sleep _ expired =>
    some (s.wait messageId (if expired then .leaving else .asleep false))
  -- `wait` takes the condition again before it returns
  | .asleep _, .wake _ => some (s.wait messageId .locking)
  | .leaving, .leave _ => some (s.wait messageId .done)
  | _, _ => none

def stepNotifier (s : State) (i : Nat) (n : Notifier) : Label → Option State
  | .append _ =>
    if n.pc = .append then some (s.goto i n (if n.reads then .read else .lookup)) else none
  | .read _ => if n.pc = .read then some (s.goto i n .lookup) else none
  | .lookup _ =>
    if n.pc = .lookup then
      if (s.waiters n.messageId).registered then some (s.goto i n .notify) else some (s.finish i)
    else none
  | .notify _ =>
    if n.pc = .notify ∧ (s.waiters n.messageId).locked = false then
      some ((s.wait n.messageId (s.waiters n.messageId).notify).finish i)
    else none
  | .raise _ => some (s.finish i)
  | _ => none

def step (env : Env) (s : State) (l : Label) : Option State :=
  match l with
  | .daemon l wait =>
    if admits s l then (Daemon.step env s.daemon l).map (afterDaemon env s l wait) else none
  | .readBack messageId | .register messageId | .lock messageId | .check messageId
  | .sleep messageId _ | .wake messageId | .leave messageId =>
    stepWaiter s messageId (s.waiters messageId) l
  | .append i | .read i | .lookup i | .notify i | .raise i =>
    s.notifiers[i]?.bind fun n => stepNotifier s i n l

def notifies (_ : State) : Label → Bool
  | .raise _ => false
  | _ => true

variable {env : Env} {s s' : State}

/-! ## A commit brings its notification -/

variable {d d' : Daemon.State} {l : Daemon.Label} {ts k : String} {op : DaoOp}
  {record : QueueTransition}

/-- What a step of the daemon does to the queue: nothing, or the transaction it commits, or the
stamp, or the recovery of a new process. -/
theorem daemon_queue (h : Daemon.step env d l = some d') :
    d'.messageQueue = d.messageQueue ∨ (∃ op record, committed env d l = some (op, record) ∧
      op.apply d.messageQueue = .ok d'.messageQueue) ∨
    (∃ op : DaoOp, op.writesState = none ∧ (∀ ts, op ≠ .recoverInFlightRows ts) ∧
      op.apply d.messageQueue = .ok d'.messageQueue) ∨
    ∃ ts, l = .boot ts := by
  -- only the two commits, the stamp and the boot write the queue
  cases Daemon.step_change h with
  | register | toggle | crash | refused | storeFlag | paste => exact .inl rfl
  | call _ hfill | worker _ hfill => rcases hfill with rfl | rfl <;> exact .inl rfl
  | boot ts => exact .inr (.inr (.inr ⟨ts, rfl⟩))
  | stamp _ happly => exact .inr (.inr (.inl ⟨_, rfl, fun _ hop => (by cases hop), happly⟩))
  | @commitCall t ts op record d₁ htransition hcommit =>
    refine .inr (.inl ⟨op, record, ?_, ?_⟩)
    · rw [committed, htransition, filter_some, hcommit.transact]
      rfl
    · simp only [Daemon.State.goto, Daemon.Call.record_messageQueue]
      exact hcommit.apply
  | @commitWorker ts op record d₁ htransition hcommit =>
    refine .inr (.inl ⟨op, record, ?_, hcommit.apply⟩)
    rw [committed, htransition, filter_some, hcommit.transact]
    rfl

theorem afterCommit_of_transition {call : Call} (h : call.transition env ts = some (op, record))
    (hk : op.writesState = some k) :
    k ∈ Pool.held Notifier.hold (afterCommit call) ∨ op.inserted.map NewMessage.messageId = some k := by
  cases call with
  | insert m decision =>
    cases decision <;> cases h <;> exact .inr hk
  | approve | delay | cancel =>
    cases h
    cases hk
    exact .inl (mem_singleton.mpr rfl)
  | idle | sendInput | approveCheck | readFull => cases h

theorem record_of_transition {w : Worker}
    (h : w.transition env ts = some (op, record)) (hk : op.writesState = some k) :
    record.messageId = k := by
  cases w with
  | blocking | submitted | failing =>
    cases h
    exact Option.some.inj hk
  | _ => cases h

theorem due_of_committed (h : committed env d l = some (op, record))
    (hk : op.writesState = some k) :
    k ∈ Pool.held Notifier.hold (due env d l) ∨ op.inserted.map NewMessage.messageId = some k := by
  unfold due
  rw [h]
  unfold committed at h
  split at h
  · exact afterCommit_of_transition (filter_eq_some_iff.mp h).1 hk
  · have hrecord := record_of_transition (filter_eq_some_iff.mp h).1 hk
    exact .inl (mem_singleton.mpr hrecord.symm)
  · cases h

/-! ## The invariant -/

def State.Dozing (s : State) (messageId : String) : Prop :=
  s.waiters messageId = .deciding ∨ s.waiters messageId = .asleep false

/-- A waiter has its row; and if the row of a waiter that is about to sleep or asleep has settled,
a notification is on its way. -/
structure WaitInv (s : State) : Prop where
  row : ∀ k, s.waiters k ≠ .absent → (s.daemon.messageQueue.get k).isSome = true
  notified : ∀ k, s.Dozing k → s.daemon.messageQueue.EndOfWait k → k ∈ s.awaited

theorem endOfWait_iff : s.endOfWait k = true ↔ s.daemon.messageQueue.EndOfWait k :=
  any_eq_true _ _

namespace WaitInv

theorem init (agents : List AgentRecord) (flag : KillSwitch.FlagValue) :
    WaitInv (State.init agents flag) where
  row k hk := absurd rfl hk
  notified k hk := by rcases hk with hk | hk <;> cases hk

theorem wait (h : WaitInv s) {k : String} {w : Waiter}
    (hrow : (s.daemon.messageQueue.get k).isSome = true)
    (hw : w = .deciding ∨ w = .asleep false → s.daemon.messageQueue.EndOfWait k →
      k ∈ s.awaited) : WaitInv (s.wait k w) := by
  constructor
  · intro j hj
    by_cases hjk : j = k
    · rw [hjk]
      exact hrow
    · exact h.row j (by simpa [State.wait, hjk] using hj)
  · intro j hj
    by_cases hjk : j = k
    · subst hjk
      exact hw (by simpa [State.Dozing, State.wait] using hj)
    · exact h.notified j (by simpa [State.Dozing, State.wait, hjk] using hj)

theorem waiter_step (h : WaitInv s) {k : String} {l : Label}
    (hstep : stepWaiter s k (s.waiters k) l = some s') : WaitInv s' := by
  unfold stepWaiter at hstep
  split at hstep <;> rename_i hw <;> cases hstep
  all_goals refine h.wait (h.row _ (by rw [hw]; nofun)) fun hplace hend => ?_
  · split at hplace <;> rcases hplace with hplace | hplace <;> cases hplace
  · rcases hplace with hplace | hplace <;> cases hplace
  · rcases hplace with hplace | hplace <;> cases hplace
  · -- the check: a waiter that is to sleep has read a row that is not settled
    rw [endOfWait_iff.mpr hend, if_pos rfl] at hplace
    rcases hplace with hplace | hplace <;> cases hplace
  · exact h.notified k (.inl hw) hend
  · rcases hplace with hplace | hplace <;> cases hplace
  · rcases hplace with hplace | hplace <;> cases hplace

end WaitInv

/-! ## No notification is lost -/

section Notifier

variable {i : Nat} {n : Notifier}

theorem awaited_goto (hn : s.notifiers[i]? = some n) (pc : NotifierPc) {k : String}
    (h : k ∈ s.awaited) : k ∈ (s.goto i n pc).awaited := by
  have hset := Pool.held_set_perm Notifier.hold hn { n with pc }
  have hheld := Pool.held_perm Notifier.hold hn
  exact (hset.trans hheld.symm).symm.subset h

theorem awaited_finish (hn : s.notifiers[i]? = some n) {k : String} (hk : k ≠ n.messageId)
    (h : k ∈ s.awaited) : k ∈ (s.finish i).awaited := by
  have hmem := (Pool.held_perm Notifier.hold hn).subset h
  rcases mem_append.mp hmem with hself | hother
  · exact absurd (mem_singleton.mp hself) hk
  · exact hother

theorem Waiter.notify_absent {w : Waiter} (h : w.notify ≠ .absent) : w ≠ .absent := by
  cases w <;> first | exact h | nofun

/-- A waiter that dozes after `notify_all` was not in `wait` before it. -/
theorem Waiter.not_dozing_notify {w : Waiter} (hfree : w.locked = false) :
    ¬(w.notify = .deciding ∨ w.notify = .asleep false) := by
  cases w with
  | checking | deciding => cases hfree
  | _ => rintro (h | h) <;> cases h

theorem notifier_step (hn : s.notifiers[i]? = some n) {l : Label} (hok : notifies s l = true)
    (hstep : stepNotifier s i n l = some s') (k : String) :
    s'.daemon = s.daemon ∧ (s'.waiters k ≠ .absent → s.waiters k ≠ .absent) ∧
    (s'.Dozing k → s.Dozing k ∧ (k ∈ s.awaited → k ∈ s'.awaited)) := by
  unfold stepNotifier at hstep
  split at hstep
  · split_ifs at hstep <;> cases hstep <;>
      exact ⟨rfl, id, fun hdozing => ⟨hdozing, awaited_goto hn _⟩⟩
  · split_ifs at hstep
    cases hstep
    exact ⟨rfl, id, fun hdozing => ⟨hdozing, awaited_goto hn _⟩⟩
  · split_ifs at hstep with hpc hregistered
    · cases hstep
      exact ⟨rfl, id, fun hdozing => ⟨hdozing, awaited_goto hn _⟩⟩
    · -- no observer: the waiter has not registered yet, or is gone
      cases hstep
      refine ⟨rfl, id, fun hdozing => ⟨hdozing, awaited_finish hn fun hk => ?_⟩⟩
      subst hk
      rcases hdozing with hw | hw <;> exact hregistered (by rw [show s.waiters _ = _ from hw]; rfl)
  · split_ifs at hstep with hpc
    cases hstep
    by_cases hk : k = n.messageId
    · -- the waiter of the message is awake after it
      subst hk
      refine ⟨rfl, fun hw => ?_, fun hdozing => ?_⟩
      · exact Waiter.notify_absent (by simpa [State.finish, State.wait] using hw)
      · exact absurd (by simpa [State.Dozing, State.finish, State.wait] using hdozing)
          (Waiter.not_dozing_notify hpc.2)
    · refine ⟨rfl, fun hw => by simpa [State.finish, State.wait, hk] using hw, fun hdozing => ?_⟩
      exact ⟨by simpa [State.Dozing, State.finish, State.wait, hk] using hdozing,
        fun h => awaited_finish (s := s.wait _ _) hn hk h⟩
  · cases hok
  · cases hstep

theorem WaitInv.notifier_step (h : WaitInv s) (hn : s.notifiers[i]? = some n) {l : Label}
    (hok : notifies s l = true) (hstep : stepNotifier s i n l = some s') : WaitInv s' := by
  constructor
  · intro k hk
    obtain ⟨hdaemon, hwaiter, -⟩ := Waiters.notifier_step hn hok hstep k
    rw [hdaemon]
    exact h.row k (hwaiter hk)
  · intro k hk hend
    obtain ⟨hdaemon, -, hdozing⟩ := Waiters.notifier_step hn hok hstep k
    rw [hdaemon] at hend
    exact (hdozing hk).2 (h.notified k (hdozing hk).1 hend)

end Notifier

/-! ## The daemon's steps -/

theorem isSome_of_apply {q q' : MessageQueue} (happly : op.apply q = .ok q')
    (h : (q.get k).isSome = true) : (q'.get k).isSome = true := by
  obtain ⟨r, hget⟩ := isSome_iff_exists.mp h
  obtain ⟨r', hget', -⟩ := DaoOp.apply_get happly hget
  rw [hget']
  rfl

theorem writesState_of_committed (h : committed env d l = some (op, record)) :
    op.writesState.isSome = true := by
  unfold committed at h
  split at h
  · have htransition := (filter_eq_some_iff.mp h).1
    generalize d.calls _ = call at htransition
    cases call with
    | insert m decision => cases decision <;> cases htransition <;> rfl
    | _ => cases htransition <;> rfl
  · have htransition := (filter_eq_some_iff.mp h).1
    generalize d.worker = w at htransition
    cases w <;> cases htransition <;> rfl
  · cases h

theorem stepWorker_of_transition {x : DaoOp × QueueTransition}
    (h : d.worker.transition env ts = some x) :
    Daemon.stepWorker env d (.commit ts) = Daemon.commitWorker env d ts := by
  cases hworker : d.worker with
  | resolved row =>
    rw [hworker] at h
    cases h
  | _ => simp only [Daemon.stepWorker, hworker]

theorem apply_of_committed (hstep : Daemon.step env d l = some d')
    (h : committed env d l = some (op, record)) : op.apply d.messageQueue = .ok d'.messageQueue := by
  unfold committed at h
  split at h
  · obtain ⟨htransition, hok⟩ := filter_eq_some_iff.mp h
    simp only [Daemon.step, Daemon.stepCall, Daemon.commitCall, htransition] at hstep
    split_ifs at hstep
    split at hstep
    · rename_i herror
      rw [herror] at hok
      cases hok
    · rename_i hcommit
      cases hstep
      simp only [Daemon.State.goto, Daemon.Call.record_messageQueue]
      exact (Daemon.State.transact_ok hcommit).apply
  · obtain ⟨htransition, hok⟩ := filter_eq_some_iff.mp h
    simp only [Daemon.step, stepWorker_of_transition htransition, Daemon.commitWorker, htransition]
      at hstep
    split_ifs at hstep
    split at hstep
    · rename_i herror
      rw [herror] at hok
      cases hok
    · rename_i hcommit
      cases hstep
      exact (Daemon.State.transact_ok hcommit).apply
  · cases h

theorem get_of_inserted {q q' : MessageQueue} (happly : op.apply q = .ok q')
    (h : op.inserted.map NewMessage.messageId = some k) :
    q.get k = none ∧ (q'.get k).isSome = true := by
  obtain ⟨m, hm, rfl⟩ := map_eq_some_iff.mp h
  have hinsert : ∃ decision, op = Decision.insert m decision := by
    cases op with
    | insertQueued m' =>
      cases hm
      exact ⟨.allow, rfl⟩
    | insertBlocked m' reason =>
      cases hm
      exact ⟨.block reason, rfl⟩
    | _ => cases hm
  obtain ⟨decision, rfl⟩ := hinsert
  obtain ⟨hfresh, hafter⟩ := Decision.insert_ok happly
  rw [hafter, if_pos rfl]
  exact ⟨hfresh, rfl⟩

/-- What a step of the daemon that is no restart does to a message: its row stays, and if it has
settled just now there is a notification for it or it has just been inserted. -/
theorem daemon_message (h : Daemon.step env d l = some d') (hl : ∀ ts, l ≠ .boot ts) (k : String) :
    ((d.messageQueue.get k).isSome = true → (d'.messageQueue.get k).isSome = true) ∧
    (d'.messageQueue.EndOfWait k → d.messageQueue.EndOfWait k ∨
      k ∈ Pool.held Notifier.hold (due env d l) ∨ d.messageQueue.get k = none) := by
  rcases daemon_queue h with hsame | ⟨op, record, hcommitted, happly⟩ |
      ⟨op, hwrites, hop, happly⟩ | ⟨ts, hboot⟩
  · rw [hsame]
    exact ⟨id, .inl⟩
  · refine ⟨isSome_of_apply happly, fun hend => ?_⟩
    rcases DaoOp.endOfWait_before happly hend with hk | ⟨ts, rfl⟩ | hbefore
    · -- a commit that settles a row has a notifier for it, unless the row is new
      rcases due_of_committed hcommitted hk with hdue | hinserted
      · exact .inr (.inl hdue)
      · exact .inr (.inr (get_of_inserted happly hinserted).1)
    · cases writesState_of_committed hcommitted
    · exact .inl hbefore
  · -- the stamp settles nothing
    refine ⟨isSome_of_apply happly, fun hend => ?_⟩
    rcases DaoOp.endOfWait_before happly hend with hk | ⟨ts, hrecover⟩ | hbefore
    · rw [hwrites] at hk
      cases hk
    · exact absurd hrecover (hop ts)
    · exact .inl hbefore
  · exact absurd hboot (hl ts)

namespace WaitInv

theorem started (h : WaitInv s) {l : Daemon.Label} {d : Daemon.State}
    (hstep : Daemon.step env s.daemon l = some d) (hl : ∀ ts, l ≠ .boot ts) :
    WaitInv { s with daemon := d, notifiers := s.notifiers ++ due env s.daemon l } := by
  constructor
  · intro k hk
    exact (daemon_message hstep hl k).1 (h.row k hk)
  · intro k hk hend
    show k ∈ Pool.held Notifier.hold (s.notifiers ++ due env s.daemon l)
    rw [Pool.held_append, mem_append]
    rcases (daemon_message hstep hl k).2 hend with hbefore | hdue | hnone
    · exact .inl (h.notified k hk hbefore)
    · exact .inr hdue
    · -- a message with a waiter has its row
      have hrow := h.row k (by rcases hk with hk | hk <;> rw [hk] <;> nofun)
      rw [hnone] at hrow
      cases hrow

theorem daemon_step (h : WaitInv s) {l : Daemon.Label} {wait : Bool} {d : Daemon.State}
    (hstep : Daemon.step env s.daemon l = some d) : WaitInv (afterDaemon env s l wait d) := by
  unfold afterDaemon
  split
  · exact ⟨fun k hk => absurd rfl hk, fun k hk => by rcases hk with hk | hk <;> cases hk⟩
  · exact ⟨fun k hk => absurd rfl hk, fun k hk => by rcases hk with hk | hk <;> cases hk⟩
  · rename_i hboot
    have hstarted := h.started hstep hboot
    split
    · rename_i messageId hwaiting
      refine hstarted.wait ?_ (by rintro (hplace | hplace) <;> cases hplace)
      unfold startsWaiting at hwaiting
      split at hwaiting
      · rename_i hcommitted
        split_ifs at hwaiting
        exact (get_of_inserted (apply_of_committed hstep hcommitted) hwaiting).2
      · cases hwaiting
    · exact hstarted

theorem step (h : WaitInv s) {l : Label} (hok : notifies s l = true)
    (hstep : step env s l = some s') : WaitInv s' := by
  cases l with
  | daemon l wait =>
    simp only [Waiters.step] at hstep
    split_ifs at hstep
    obtain ⟨d, hd, rfl⟩ := map_eq_some_iff.mp hstep
    exact h.daemon_step hd
  | readBack k | register k | lock k | check k | sleep k | wake k | leave k =>
    exact h.waiter_step hstep
  | append i | read i | lookup i | notify i | raise i =>
    obtain ⟨n, hn, hstep'⟩ := bind_eq_some_iff.mp hstep
    exact h.notifier_step hn hok hstep'

end WaitInv

/-! ## The notification arrives -/

/-- The steps of the call at place `i`. -/
def Label.ofNotifier (i : Nat) : Label → Bool
  | .append j | .read j | .lookup j | .notify j => decide (i = j)
  | _ => false

def Wakes (env : Env) (s : State) (i : Nat) (messageId : String) : Prop :=
  ∃ ls s', (∀ l ∈ ls, Label.ofNotifier i l = true) ∧
    run (step env) s ls = some s' ∧ s'.waiters messageId = .asleep true

theorem Wakes.cons {i : Nat} {messageId : String} {l : Label} (hl : Label.ofNotifier i l = true)
    (hstep : step env s l = some s') (h : Wakes env s' i messageId) : Wakes env s i messageId := by
  obtain ⟨ls, s'', hls, hrun, hwoken⟩ := h
  refine ⟨l :: ls, s'', ?_, ?_, hwoken⟩
  · intro l' hl'
    rcases mem_cons.mp hl' with rfl | hl'
    · exact hl
    · exact hls l' hl'
  · rw [run, hstep]
    exact hrun

section Wakes

variable {i : Nat} {n : Notifier} (hn : s.notifiers[i]? = some n)
include hn

theorem getElem_goto (pc : NotifierPc) : (s.goto i n pc).notifiers[i]? = some { n with pc } := by
  obtain ⟨hi, -⟩ := List.getElem?_eq_some_iff.mp hn
  simp [State.goto, hi]

variable (hw : s.waiters n.messageId = .asleep false)
include hw

theorem wakes_notify (hpc : n.pc = .notify) : Wakes env s i n.messageId := by
  refine ⟨[.notify i], (s.wait n.messageId (.asleep true)).finish i, ?_, ?_, ?_⟩
  · intro l hl
    rw [mem_singleton.mp hl]
    simp [Label.ofNotifier]
  · simp only [run, step, hn, bind_some, stepNotifier, hpc, hw, Waiter.locked,
      and_self, if_true, Waiter.notify]
  · simp [State.finish, State.wait]

theorem wakes_lookup (hpc : n.pc = .lookup) : Wakes env s i n.messageId := by
  have hstep : step env s (.lookup i) = some (s.goto i n .notify) := by
    simp only [step, hn, bind_some, stepNotifier, hpc, hw, Waiter.registered, if_true]
  refine Wakes.cons (by simp [Label.ofNotifier]) hstep ?_
  exact wakes_notify (n := { n with pc := .notify }) (getElem_goto hn .notify) hw rfl

theorem wakes_read (hpc : n.pc = .read) : Wakes env s i n.messageId := by
  have hstep : step env s (.read i) = some (s.goto i n .lookup) := by
    simp only [step, hn, bind_some, stepNotifier, hpc, if_true]
  refine Wakes.cons (by simp [Label.ofNotifier]) hstep ?_
  exact wakes_lookup (n := { n with pc := .lookup }) (getElem_goto hn .lookup) hw rfl

theorem wakes_append (hpc : n.pc = .append) : Wakes env s i n.messageId := by
  have hstep : step env s (.append i) = some (s.goto i n (if n.reads then .read else .lookup)) := by
    simp only [step, hn, bind_some, stepNotifier, hpc, if_true]
  refine Wakes.cons (by simp [Label.ofNotifier]) hstep ?_
  cases n.reads with
  | true => exact wakes_read (n := { n with pc := .read }) (getElem_goto hn .read) hw rfl
  | false => exact wakes_lookup (n := { n with pc := .lookup }) (getElem_goto hn .lookup) hw rfl

theorem wakes : Wakes env s i n.messageId := by
  cases hpc : n.pc with
  | append => exact wakes_append hn hw hpc
  | read => exact wakes_read hn hw hpc
  | lookup => exact wakes_lookup hn hw hpc
  | notify => exact wakes_notify hn hw hpc

end Wakes

theorem awaited_step {l : Label} (hok : notifies s l = true) (hstep : step env s l = some s')
    (hafter : s'.Dozing k) (h : k ∈ s.awaited) : k ∈ s'.awaited := by
  cases l with
  | daemon l wait =>
    simp only [step] at hstep
    split_ifs at hstep
    obtain ⟨d, -, rfl⟩ := map_eq_some_iff.mp hstep
    have hadded : k ∈ Pool.held Notifier.hold (s.notifiers ++ due env s.daemon l) := by
      rw [Pool.held_append]
      exact mem_append_left _ h
    -- after a crash or a boot there is no waiter left to doze
    unfold afterDaemon at hafter ⊢
    split at hafter
    · rcases hafter with hw | hw <;> cases hw
    · rcases hafter with hw | hw <;> cases hw
    · cases hstarts : startsWaiting env s.daemon wait l <;> exact hadded
  | readBack j | register j | lock j | check j | sleep j | wake j | leave j =>
    simp only [step] at hstep
    unfold stepWaiter at hstep
    split at hstep <;> cases hstep <;> exact h
  | append i | read i | lookup i | notify i | raise i =>
    obtain ⟨n, hn, hstep'⟩ := bind_eq_some_iff.mp hstep
    exact ((notifier_step hn hok hstep' k).2.2 hafter).2 h

theorem check_settled (hend : s.daemon.messageQueue.EndOfWait k)
    (hstep : step env s (.check k) = some s') : s'.waiters k = .leaving := by
  have hread : s.endOfWait k = true := endOfWait_iff.mpr hend
  cases hw : s.waiters k with
  | checking =>
    simp only [step, hw, stepWaiter, hread, if_true] at hstep
    cases hstep
    simp [State.wait]
  | _ =>
    simp only [step, hw, stepWaiter] at hstep
    cases hstep

variable {agents : List AgentRecord} {flag : KillSwitch.FlagValue}

/-- In every run in which no call raises between its commit and its notification, a waiter that
checks a settled row does not sleep.  If the row settles after the check, a call that has committed
has its notification to make; that stays so, whatever becomes of the row, until the waiter is woken
or gives up; and once the waiter sleeps the call's own steps wake it. -/
theorem settled_row_wakes_waiter
    (h : Reach (step env) (fun s l => notifies s l = true) (State.init agents flag) s)
    (k : String) :
    (s.daemon.messageQueue.EndOfWait k →
      ∀ s', step env s (.check k) = some s' → s'.waiters k = .leaving) ∧
    (s.daemon.messageQueue.EndOfWait k → s.Dozing k → k ∈ s.awaited) ∧
    (k ∈ s.awaited → ∀ l s', notifies s l = true → step env s l = some s' → s'.Dozing k →
      k ∈ s'.awaited) ∧
    (k ∈ s.awaited → s.waiters k = .asleep false → ∃ i, Wakes env s i k) := by
  refine ⟨fun hend _ hstep => check_settled hend hstep, fun hend hdozing => ?_,
    fun hawaited _ _ hok hstep hafter => awaited_step hok hstep hafter hawaited,
    fun hawaited hw => ?_⟩
  · have hinv := h.invariant WaitInv (WaitInv.init agents flag)
      fun _ _ _ hinv hok hstep => hinv.step hok hstep
    exact hinv.notified k hdozing hend
  · obtain ⟨n, hn, hself⟩ := mem_flatMap.mp hawaited
    obtain ⟨i, hi⟩ := mem_iff_getElem?.mp hn
    rw [mem_singleton.mp hself] at hw ⊢
    exact ⟨i, wakes hi hw⟩

/-- A message is sent with `wait`, and its row is queued when it is read back. -/
def sentAndQueued : List Label :=
  .daemon (.boot "t0") false ::
    (Daemon.sendLabels .hostOperator "m1" "t1").map (fun l => .daemon l true) ++ [.readBack "m1"]

def goesToSleep : List Label := [.register "m1", .lock "m1", .check "m1", .sleep "m1" false]

/-- The message is canceled while its sender sleeps. -/
theorem settled_row_wakes_waiter_canceled :
    ∃ s, run (step sampleEnv) (State.init [sampleTarget] .enabled)
        (sentAndQueued ++ goesToSleep ++ [.daemon (.call 1 (.cancel "m1" "host-operator")) false,
          .daemon (.call 1 (.commit "t2")) false]) = some s ∧
      s.daemon.messageQueue.EndOfWait "m1" ∧ s.waiters "m1" = .asleep false ∧
      ∃ i, Wakes sampleEnv s i "m1" := by
  obtain ⟨s, hs, hsettled, hasleep⟩ : ∃ s, runWhile (step sampleEnv) notifies
      (State.init [sampleTarget] .enabled)
      (sentAndQueued ++ goesToSleep ++ [.daemon (.call 1 (.cancel "m1" "host-operator")) false,
        .daemon (.call 1 (.commit "t2")) false]) = some s ∧
      s.daemon.messageQueue.EndOfWait "m1" ∧ s.waiters "m1" = .asleep false := by decide +kernel
  obtain ⟨-, hawaited, -, hwakes⟩ := settled_row_wakes_waiter
    (reach_of_runWhile Reach.start hs) "m1"
  exact ⟨s, run_of_runWhile hs, hsettled, hasleep,
    hwakes (hawaited hsettled (.inr hasleep)) hasleep⟩

def delaysFirst : List Label :=
  [.daemon (.call 1 (.delay "m1" "host-operator")) false, .daemon (.call 1 (.commit "t2")) false]

def approvesAndNotifies : List Label :=
  [.append 0, .lookup 0, .daemon (.call 1 (.approve "m1" "host-operator")) false,
    .daemon (.call 1 .approveCheck) false, .daemon (.call 1 (.commit "t3")) false,
    .append 0, .read 0, .lookup 0]

/-- The row is blocked and approved again between the sender's read of it and the registration: the
sender sleeps, and nobody is left to wake it. -/
theorem blocked_row_unseen :
    ∃ s₁ s₂, run (step sampleEnv) (State.init [sampleTarget] .enabled)
        (sentAndQueued ++ delaysFirst) = some s₁ ∧
      s₁.daemon.messageQueue.EndOfWait "m1" ∧ s₁.waiters "m1" = .registering ∧
      run (step sampleEnv) s₁ (approvesAndNotifies ++ goesToSleep) = some s₂ ∧
      s₂.waiters "m1" = .asleep false ∧ s₂.notifiers = [] := by
  decide +kernel

end Waiters

end AgentTower.Routing
