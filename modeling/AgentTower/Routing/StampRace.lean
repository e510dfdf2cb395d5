import AgentTower.Routing.InFlight

/-!
# Stamps and the kill switch

The worker asks the kill switch at the top of its loop and once more in the re-check; the stamp itself
does not ask.  A `disable` that commits between the re-check and the stamp is overtaken, and so is one
that a `read_full` hides by putting an older value into the cache.
-/

namespace AgentTower.Routing

open Transition Sql

/-- An attempt on the row of `messageId` has been started, whatever became of it. -/
def MessageQueue.Stamped (q : MessageQueue) (messageId : String) : Prop :=
  ∃ r, q.get messageId = some r ∧ r.deliveryAttemptStartedAt.isSome = true

instance (q : MessageQueue) (messageId : String) : Decidable (q.Stamped messageId) :=
  decidable_of_iff ((q.get messageId).any (fun r => r.deliveryAttemptStartedAt.isSome) = true)
    (Option.any_eq_true _ _)

variable {op : DaoOp} {r r' : QueueRow} {q q' : MessageQueue}

theorem RowStep.stamped_before (hstep : RowStep op r r')
    (h : r'.deliveryAttemptStartedAt.isSome = true) :
    op.stamps = some r.messageId ∨ r.deliveryAttemptStartedAt.isSome = true := by
  cases hstep with
  | stamp => exact .inl rfl
  | deliver | fail | recheck | approve | delay | cancel | recover => exact .inr h

theorem DaoOp.stamped_before (happly : op.apply q = .ok q')
    {k : String} (h : MessageQueue.Stamped q' k) :
    op.stamps = some k ∨ MessageQueue.Stamped q k := by
  obtain ⟨r', hget', hstamped⟩ := h
  rcases DaoOp.apply_source happly hget' with ⟨r, hget, rfl | hstep⟩ | ⟨-, m, decision, -, -, rfl⟩
  · exact .inr ⟨r', hget, hstamped⟩
  · rcases hstep.stamped_before hstamped with hstamp | hbefore
    · rw [Table.key_of_get hget] at hstamp
      exact .inl hstamp
    · exact .inr ⟨r, hget, hbefore⟩
  · cases hstamped

def MessageQueue.DeliveredStamped (q : MessageQueue) : Prop :=
  ∀ k r, q.get k = some r → r.state = .delivered → r.deliveryAttemptStartedAt.isSome = true

open MessageQueue (DeliveredStamped InFlight Stamped)

theorem RowStep.stamped_of_delivered (hstep : RowStep op r r')
    (hdelivered : r'.state = .delivered) : r'.deliveryAttemptStartedAt.isSome = true := by
  cases hstep with
  | stamp => rfl
  | deliver ts _ hflight => exact (QueueRow.stamped_of_inFlight hflight :)
  | fail | recheck | approve | delay | cancel | recover => cases hdelivered

theorem DaoOp.apply_deliveredStamped
    (happly : op.apply q = .ok q') (h : q.DeliveredStamped) : DeliveredStamped q' := by
  intro k r' hget' hdelivered
  rcases DaoOp.apply_source happly hget' with ⟨r, hget, rfl | hstep⟩ | ⟨-, m, decision, -, -, rfl⟩
  · exact h k r' hget hdelivered
  · exact hstep.stamped_of_delivered hdelivered
  · cases decision <;> cases hdelivered

namespace Daemon

open KillSwitch (FlagValue)

variable {env : Env} {s s' : State}

def Worker.cleared : Worker → Bool
  | .rechecked _ | .resolved _ => true
  | _ => false

/-- No `disable` commits while the worker is past its re-check and before its stamp, and no
`read_full` caches a value that is not the stored one any more. -/
def switchUnraced (s : State) : Label → Bool
  | .toggle .disabled => !s.worker.cleared
  | .call t .storeFlag =>
    match s.calls t with
    | .readFull value => decide (value = s.flag)
    | _ => true
  | _ => true

/-- The worker passes the re-check with the switch on, by what `is_enabled` answers. -/
theorem stepWorker_cleared {l : WorkerLabel} (h : stepWorker env s l = some s')
    (hcleared : s'.worker.cleared = true) : s.worker.cleared = true ∨ s.isEnabled = true := by
  have hmove := stepWorker_moves h
  generalize s'.worker = w at hmove hcleared
  cases hmove with
  | poll =>
    split at hcleared <;> cases hcleared
  | recheck _ henabled => exact .inr henabled
  | resolve hworker =>
    rw [hworker]
    exact .inl rfl
  | _ => cases hcleared

structure SwitchInv (s : State) : Prop where
  cache : s.cachedValue = some .enabled → s.flag = .enabled
  cleared : s.worker.cleared = true → s.flag = .enabled

namespace SwitchInv

theorem init (agents : List AgentRecord) (flag : FlagValue) :
    SwitchInv (State.init agents flag) := ⟨nofun, nofun⟩

theorem worker (h : SwitchInv s) {l : WorkerLabel} (hstep : stepWorker env s l = some s') :
    SwitchInv s' := by
  have hflag : s'.flag = s.flag ∧ (s'.cachedValue = some .enabled → s.flag = .enabled) := by
    cases stepWorker_change hstep with
    | worker _ hfill =>
      rcases hfill with rfl | rfl
      · exact ⟨rfl, h.cache⟩
      · exact ⟨rfl, State.flag_of_filled h.cache⟩
    | stamp | paste => exact ⟨rfl, h.cache⟩
    | commitWorker _ hcommit =>
      refine ⟨hcommit.flag, fun hcache => h.cache ?_⟩
      rw [← hcommit.cachedValue]
      exact hcache
  refine ⟨fun hcache => hflag.1.trans (hflag.2 hcache), fun hcleared => hflag.1.trans ?_⟩
  exact (stepWorker_cleared hstep hcleared).elim h.cleared (State.flag_of_isEnabled h.cache)

theorem step (h : SwitchInv s) {l : Label} (hok : switchUnraced s l = true)
    (hstep : step env s l = some s') : SwitchInv s' := by
  have hchange := step_change hstep
  cases l with
  | worker l =>
    simp only [Daemon.step] at hstep
    split_ifs at hstep
    exact h.worker hstep
  | toggle value =>
    cases hchange
    refine ⟨fun hcache => Option.some.inj hcache, fun hcleared => ?_⟩
    cases value with
    | enabled => rfl
    | disabled =>
      -- the switch is not turned off under a worker that has read it on
      simp only [switchUnraced, Bool.not_eq_true'] at hok
      rw [hok] at hcleared
      cases hcleared
  | call t l =>
    cases hchange with
    | refused => exact h
    | call _ hfill =>
      rcases hfill with rfl | rfl
      · exact ⟨h.cache, h.cleared⟩
      · exact ⟨State.flag_of_filled h.cache, h.cleared⟩
    | storeFlag hcall =>
      -- what a call stores in the cache is what the table has
      simp only [switchUnraced, hcall, decide_eq_true_eq] at hok
      exact ⟨fun hcache => hok ▸ Option.some.inj hcache, h.cleared⟩
    | commitCall _ hcommit =>
      constructor
      · simp only [State.goto, Call.record_cachedValue, Call.record_flag, hcommit.flag,
          hcommit.cachedValue]
        exact h.cache
      · simp only [State.goto, Call.record_worker, Call.record_flag, hcommit.flag, hcommit.worker]
        exact h.cleared
  | register =>
    cases hchange
    exact ⟨h.cache, h.cleared⟩
  | crash | boot =>
    cases hchange
    constructor <;> intro h <;> cases h

theorem of_reach {agents : List AgentRecord} {flag : FlagValue}
    (h : Reach (Daemon.step env) (fun s l => switchUnraced s l = true)
      (State.init agents flag) s) : SwitchInv s :=
  h.invariant SwitchInv (init agents flag) fun _ _ _ hinv hok hstep => hinv.step hok hstep

end SwitchInv

/-! ## After a `disable` -/

variable {l : Label}

theorem flag_step (hstep : step env s l = some s') (hflag : s.flag = .disabled)
    (hl : l ≠ .toggle .enabled) : s'.flag = .disabled := by
  cases step_change hstep with
  | toggle value =>
    cases value with
    | enabled => exact absurd rfl hl
    | disabled => rfl
  | call _ hfill | worker _ hfill => rcases hfill with rfl | rfl <;> exact hflag
  | commitCall _ hcommit =>
    simp only [State.goto, Call.record_flag, hcommit.flag]
    exact hflag
  | commitWorker _ hcommit => exact hcommit.flag.trans hflag
  | register | crash | boot | refused | storeFlag | stamp | paste => exact hflag

theorem SwitchInv.stamped_step (h : SwitchInv s) (hflag : s.flag = .disabled)
    (hstep : Daemon.step env s l = some s') {k : String}
    (hk : Stamped s'.messageQueue k) : Stamped s.messageQueue k := by
  rcases step_messageQueue hstep with hsame | ⟨op, happly, hstamp⟩
  · rw [hsame] at hk
    exact hk
  · rcases DaoOp.stamped_before happly hk with hnew | hbefore
    · obtain ⟨-, row, hworker, -⟩ := hstamp k hnew
      have henabled := h.cleared (by rw [hworker]; rfl)
      rw [hflag] at henabled
      cases henabled
    · exact hbefore

variable {agents : List AgentRecord} {flag : FlagValue}

theorem Reachable.deliveredStamped (h : Reachable env agents flag s) :
    DeliveredStamped s.messageQueue := by
  refine h.invariant (fun s => DeliveredStamped s.messageQueue) ?_ ?_
  · intro k r hget
    cases (Table.get_empty k).symm.trans hget
  · intro s l s' hinv _ hstep
    rcases step_messageQueue hstep with hsame | ⟨op, happly, -⟩
    · rw [hsame]
      exact hinv
    · exact DaoOp.apply_deliveredStamped happly hinv

/-- In every run without the two races each stamp commits while the stored flag is `enabled`; and
from a state with the flag at `disabled`, as long as nothing enables it, every row that comes out
delivered had been stamped in that state. -/
theorem stamp_commits_while_enabled
    (h : Reach (step env) (fun s l => switchUnraced s l = true) (State.init agents flag) s) :
    (∀ l s', step env s l = some s' → ∀ k, InFlight s'.messageQueue k →
      ¬ InFlight s.messageQueue k → s.flag = .enabled) ∧
    (s.flag = .disabled → ∀ s',
      Reach (step env) (fun s l => switchUnraced s l = true ∧ l ≠ .toggle .enabled) s s' →
      ∀ k r, s'.messageQueue.get k = some r → r.state = .delivered →
        Stamped s.messageQueue k) := by
  have hinv := SwitchInv.of_reach h
  refine ⟨fun l s' hstep k hk hnot => ?_, fun hflag s' hs' k r hget hdelivered => ?_⟩
  · obtain ⟨-, row, hworker, -⟩ := step_stamps hstep hk hnot
    exact hinv.cleared (by rw [hworker]; rfl)
  · -- while the switch is off no row is stamped, and only a stamped row is delivered
    have hrun : (SwitchInv s' ∧ s'.flag = .disabled) ∧
        ∀ k, Stamped s'.messageQueue k → Stamped s.messageQueue k := by
      refine Reach.invariant (fun s' => (SwitchInv s' ∧ s'.flag = .disabled) ∧
          ∀ k, Stamped s'.messageQueue k → Stamped s.messageQueue k)
        ⟨⟨hinv, hflag⟩, fun _ hk => hk⟩ ?_ hs'
      rintro u l u' ⟨⟨hu, hoff⟩, hback⟩ ⟨hok, hl⟩ hstep
      exact ⟨⟨hu.step hok hstep, flag_step hstep hoff hl⟩,
        fun k hk => hback k (hu.stamped_step hoff hstep hk)⟩
    have hreach : Reachable env agents flag s' :=
      (h.weaken fun _ _ _ => trivial).trans (hs'.weaken fun _ _ _ => trivial)
    exact hrun.2 k ⟨r, hget, hreach.deliveredStamped k r hget hdelivered⟩

def aboutToStamp : List Label :=
  .boot "t0" :: sendLabels .hostOperator "m1" "t1" ++
    [.worker .poll, .worker .pick, .worker (.recheck true true), .worker (.resolve true)]

def restOfAttempt : List Label :=
  [.worker .readBody, .worker .load, .worker .paste, .worker .submit, .worker (.commit "t4")]

theorem stamp_commits_after_disable :
    ∃ s s', run (step sampleEnv) (State.init [sampleTarget] .enabled)
        (aboutToStamp ++ [.toggle .disabled]) = some s ∧
      s.flag = .disabled ∧ ¬ Stamped s.messageQueue "m1" ∧
      run (step sampleEnv) s (.worker (.commit "t3") :: restOfAttempt) = some s' ∧
      s'.flag = .disabled ∧ (s'.messageQueue.get "m1").map QueueRow.state = some .delivered := by
  obtain ⟨s, hs, hflag, hnot, s', hs', hend⟩ :
      ∃ s, run (step sampleEnv) (State.init [sampleTarget] .enabled)
        (aboutToStamp ++ [.toggle .disabled]) = some s ∧
      s.flag = .disabled ∧ ¬ Stamped s.messageQueue "m1" ∧
      ∃ s', run (step sampleEnv) s (.worker (.commit "t3") :: restOfAttempt) = some s' ∧
        s'.flag = .disabled ∧ (s'.messageQueue.get "m1").map QueueRow.state = some .delivered := by
    decide +kernel
  exact ⟨s, s', hs, hflag, hnot, hs', hend⟩

/-- The executable form of the condition on what follows a `disable`. -/
def staysOff (s : State) (l : Label) : Bool :=
  switchUnraced s l && decide (l ≠ .toggle .enabled)

/-- The `disable` comes after the stamp: the attempt is carried to its end. -/
theorem stamp_commits_while_enabled_delivered :
    ∃ s s', run (step sampleEnv) (State.init [sampleTarget] .enabled)
        (aboutToStamp ++ [.worker (.commit "t3"), .toggle .disabled]) = some s ∧
      run (step sampleEnv) s restOfAttempt = some s' ∧
      (s'.messageQueue.get "m1").map QueueRow.state = some .delivered ∧
      Stamped s.messageQueue "m1" := by
  obtain ⟨s, hs, hflag, s', hs', hdelivered⟩ :
      ∃ s, runWhile (step sampleEnv) switchUnraced (State.init [sampleTarget] .enabled)
        (aboutToStamp ++ [.worker (.commit "t3"), .toggle .disabled]) = some s ∧
      s.flag = .disabled ∧
      ∃ s', runWhile (step sampleEnv) staysOff s restOfAttempt = some s' ∧
        (s'.messageQueue.get "m1").map QueueRow.state = some .delivered := by decide +kernel
  obtain ⟨r, hget, hstate⟩ := Option.map_eq_some_iff.mp hdelivered
  have hreach := reach_of_runWhile Reach.start hs
  have hrest' := (reach_of_runWhile Reach.start hs').weaken fun s l hok => by
    simpa only [staysOff, Bool.and_eq_true, decide_eq_true_eq] using hok
  exact ⟨s, s', run_of_runWhile hs, run_of_runWhile hs', hdelivered,
    (stamp_commits_while_enabled hreach).2 hflag s' hrest' "m1" r hget hstate⟩

end Daemon

end AgentTower.Routing
