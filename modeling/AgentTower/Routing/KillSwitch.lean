import AgentTower.Lib.Run
import AgentTower.Routing.Errors

/-!
# The routing kill switch and its cache

`RoutingFlagService` keeps a write-through cache of the flag in `daemon_state`.  A step is one
acquisition or release of `_lock`, one access to `daemon_state`, or one to the cache.  `read_full` reads
the flag before it takes the lock: there a value can grow old on its way to the cache.
-/

namespace AgentTower.Routing.KillSwitch

open Transition

/-- `daemon_state.value` of the routing key. -/
inductive FlagValue where
  | enabled | disabled
  deriving DecidableEq, Repr

structure RoutingFlag where
  value : FlagValue
  lastUpdatedAt : String
  lastUpdatedBy : String
  deriving DecidableEq, Repr

structure ToggleResult where
  previousValue : FlagValue
  currentValue : FlagValue
  changed : Bool
  lastUpdatedAt : String
  lastUpdatedBy : String
  deriving DecidableEq, Repr

/-- `enable` and `disable` are `_set` with their value. -/
inductive Call where
  | isEnabled
  | readFull
  | set (value : FlagValue) (operator ts : String)
  deriving DecidableEq, Repr

inductive Result where
  | isEnabled (enabled : Bool)
  | full (flag : RoutingFlag)
  | toggle (result : ToggleResult)
  | raised (e : PyExc)
  deriving DecidableEq, Repr

/-- Where a thread stands in its call. -/
inductive Pc where
  | returned (last : Option Result)
  | isEnabledWait
  | isEnabledLocked
  | isEnabledMiss
  | isEnabledFill (value : FlagValue)
  | readFullStart
  | readFullWait (flag : RoutingFlag)
  | readFullLocked (flag : RoutingFlag)
  | setWait (value : FlagValue) (operator ts : String)
  | setLocked (value : FlagValue) (operator ts : String)
  | setRead (value : FlagValue) (operator ts : String) (current : RoutingFlag)
  | setWrote (value : FlagValue) (operator ts : String) (previous : FlagValue)
  | leaving (result : Result)
  deriving DecidableEq, Repr

namespace Pc

def inProgress : Pc → Bool
  | .returned _ => false
  | _ => true

def locked : Pc → Bool
  | .isEnabledLocked | .isEnabledMiss | .isEnabledFill _ | .readFullLocked _
  | .setLocked .. | .setRead .. | .setWrote .. | .leaving _ => true
  | _ => false

/-- The flag that a `read_full` has read and not yet stored. -/
def heldFlag : Pc → Option RoutingFlag
  | .readFullWait flag | .readFullLocked flag => some flag
  | _ => none

end Pc

structure State where
  flag : RoutingFlag
  cachedValue : Option FlagValue
  holder : Option Nat
  pcs : Nat → Pc

inductive Label where
  | call (thread : Nat) (c : Call)
  | advance (thread : Nat)
  | raise (thread : Nat) (e : PyExc)
  deriving DecidableEq, Repr

namespace State

def init (flag : RoutingFlag) : State := ⟨flag, none, none, fun _ => .returned none⟩

def goto (s : State) (t : Nat) (pc : Pc) : State :=
  { s with pcs := fun u => if u = t then pc else s.pcs u }

def acquire (s : State) (t : Nat) (pc : Pc) : Option State :=
  if s.holder = none then some { s.goto t pc with holder := some t } else none

end State

def Call.start : Call → Pc
  | .isEnabled => .isEnabledWait
  | .readFull => .readFullStart
  | .set value operator ts => .setWait value operator ts

def toggled (previous value : FlagValue) (operator ts : String) : ToggleResult :=
  ⟨previous, value, true, ts, operator⟩

def unchanged (current : RoutingFlag) : ToggleResult :=
  ⟨current.value, current.value, false, current.lastUpdatedAt, current.lastUpdatedBy⟩

/-- The next action of a thread; `none` while it waits for the lock. -/
def advance (s : State) (t : Nat) : Option State :=
  match s.pcs t with
  | .returned _ => none
  | .isEnabledWait => s.acquire t .isEnabledLocked
  | .isEnabledLocked =>
    match s.cachedValue with
    | none => some (s.goto t .isEnabledMiss)
    | some v => some (s.goto t (.leaving (.isEnabled (decide (v = .enabled)))))
  | .isEnabledMiss => some (s.goto t (.isEnabledFill s.flag.value))
  | .isEnabledFill v =>
    some { s.goto t (.leaving (.isEnabled (decide (v = .enabled)))) with cachedValue := some v }
  -- the one read of the flag that is not under the lock
  | .readFullStart => some (s.goto t (.readFullWait s.flag))
  | .readFullWait flag => s.acquire t (.readFullLocked flag)
  | .readFullLocked flag =>
    some { s.goto t (.leaving (.full flag)) with cachedValue := some flag.value }
  | .setWait value operator ts => s.acquire t (.setLocked value operator ts)
  -- the current value is read inside the lock, so two toggles cannot interleave
  | .setLocked value operator ts => some (s.goto t (.setRead value operator ts s.flag))
  | .setRead value operator ts current =>
    if current.value ≠ value then
      -- the UPDATE and, in the same transaction, the `routing_toggled` audit row
      some { s.goto t (.setWrote value operator ts current.value) with
        flag := ⟨value, ts, operator⟩ }
    else
      some { s.goto t (.leaving (.toggle (unchanged current))) with
        cachedValue := some current.value }
  | .setWrote value operator ts previous =>
    some { s.goto t (.leaving (.toggle (toggled previous value operator ts))) with
      cachedValue := some value }
  -- the end of the `with` block
  | .leaving r => some { s.goto t (.returned (some r)) with holder := none }

/-- The thread's SQLite access raises: a read error, an exhausted lock retry, a failed audit
callback.  The write is rolled back and `with` releases the lock. -/
def raise (s : State) (t : Nat) (e : PyExc) : Option State :=
  match s.pcs t with
  | .readFullStart => some (s.goto t (.returned (some (.raised e))))
  | .isEnabledMiss | .setLocked .. =>
    some { s.goto t (.returned (some (.raised e))) with holder := none }
  | .setRead value _ _ current =>
    if current.value ≠ value then
      some { s.goto t (.returned (some (.raised e))) with holder := none }
    else none
  | _ => none

def step (s : State) : Label → Option State
  | .call t c => if (s.pcs t).inProgress then none else some (s.goto t c.start)
  | .advance t => advance s t
  | .raise t e => raise s t e

/-- The step is a toggle's write to `daemon_state`. -/
def writesFlag (s : State) : Label → Bool
  | .advance t =>
    match s.pcs t with
    | .setRead value _ _ current => decide (current.value ≠ value)
    | _ => false
  | _ => false

/-- No toggle writes while some `read_full` is between its read and its store. -/
def noWriteDuringReadFull (s : State) (l : Label) : Prop :=
  writesFlag s l = true → ∀ t, (s.pcs t).heldFlag = none

/-! ## The cache agrees with the stored flag -/

/-- The flag value that a thread has read or written in its call and may still put into the
cache. -/
def Pc.seen : Pc → Option FlagValue
  | .isEnabledFill v => some v
  | .readFullWait flag | .readFullLocked flag => some flag.value
  | .setRead _ _ _ current => some current.value
  | .setWrote value _ _ _ => some value
  | _ => none

def Pc.wrote : Pc → Bool
  | .setWrote .. => true
  | _ => false

variable {pc old : Pc} {t : Nat} {s s' : State}

theorem Pc.locked_of_seen {v : FlagValue} (hseen : pc.seen = some v)
    (hheld : pc.heldFlag = none) : pc.locked = true := by
  cases pc <;> simp_all [Pc.seen, Pc.heldFlag, Pc.locked]

structure Inv (s : State) : Prop where
  locked_iff : ∀ t, (s.pcs t).locked = true ↔ s.holder = some t
  seen : ∀ t v, (s.pcs t).seen = some v → v = s.flag.value
  cache : s.cachedValue = none ∨ s.cachedValue = some s.flag.value ∨
    ∃ t, (s.pcs t).wrote = true

theorem inv_init (flag : RoutingFlag) : Inv (State.init flag) :=
  ⟨fun _ => by simp [State.init, Pc.locked], fun _ _ h => by simp [State.init, Pc.seen] at h,
    .inl rfl⟩

@[simp] theorem State.goto_self (s : State) (t : Nat) (pc : Pc) : (s.goto t pc).pcs t = pc := by
  simp [State.goto]

theorem State.goto_other (s : State) {u : Nat} (pc : Pc) (h : u ≠ t) :
    (s.goto t pc).pcs u = s.pcs u := by
  simp [State.goto, h]

/-- A thread moves without writing the flag: what it holds is current, the lock is handled as its
new place says, and the cache is refilled with the current value or left alone by a thread that
owes it nothing. -/
theorem Inv.goto (h : Inv s) (t : Nat) (pc : Pc) (holder : Option Nat) (cached : Option FlagValue)
    (hlock : pc.locked = true ↔ holder = some t)
    (hother : ∀ u, u ≠ t → (holder = some u ↔ s.holder = some u))
    (hseen : ∀ v, pc.seen = some v → v = s.flag.value)
    (hcache : cached = some s.flag.value ∨ cached = s.cachedValue ∧ (s.pcs t).wrote = false) :
    Inv { s.goto t pc with holder, cachedValue := cached } := by
  refine ⟨fun u => ?_, fun u v hu => ?_, ?_⟩
  · by_cases hu : u = t
    · subst hu
      simpa using hlock
    · simp only [State.goto_other s pc hu, h.locked_iff u, hother u hu]
  · by_cases hut : u = t
    · subst hut
      exact hseen v (by simpa using hu)
    · exact h.seen u v (by simpa only [State.goto_other s pc hut] using hu)
  · rcases hcache with hfresh | ⟨hkept, hwrote⟩
    · exact .inr (.inl hfresh)
    · rcases h.cache with hnone | hsame | ⟨u, hu⟩
      · exact .inl (hkept.trans hnone)
      · exact .inr (.inl (hkept.trans hsame))
      · -- the writer that owes the cache its value is another thread
        have hut : u ≠ t := fun hut => by rw [hut, hwrote] at hu; cases hu
        exact .inr (.inr ⟨u, by simpa only [State.goto_other s pc hut] using hu⟩)

theorem Inv.holder_of_locked (h : Inv s) (hpc : s.pcs t = pc)
    (hlocked : pc.locked = true) : s.holder = some t :=
  (h.locked_iff t).mp (by rw [hpc]; exact hlocked)

theorem Inv.move (h : Inv s) (hpc : s.pcs t = old) (pc : Pc)
    (cached : Option FlagValue) (hlock : pc.locked = old.locked)
    (hseen : ∀ v, pc.seen = some v → v = s.flag.value)
    (hcache : cached = some s.flag.value ∨ cached = s.cachedValue ∧ old.wrote = false) :
    Inv { s.goto t pc with cachedValue := cached } :=
  h.goto t pc s.holder cached (by rw [hlock, ← hpc]; exact h.locked_iff t) (fun _ _ => Iff.rfl)
    hseen (by rw [hpc]; exact hcache)

theorem Inv.acquire (h : Inv s) (hpc : s.pcs t = old)
    (hs : s.acquire t pc = some s') (hlocked : pc.locked = true) (hwrote : old.wrote = false)
    (hseen : ∀ v, pc.seen = some v → v = s.flag.value) : Inv s' := by
  unfold State.acquire at hs
  split_ifs at hs with hfree
  cases hs
  refine h.goto t pc (some t) s.cachedValue (by simp [hlocked]) (fun u hu => ?_) hseen
    (.inr ⟨rfl, by rw [hpc]; exact hwrote⟩)
  simp [hfree, Ne.symm hu]

theorem Inv.release (h : Inv s) (hpc : s.pcs t = old)
    (hlocked : old.locked = true) (hwrote : old.wrote = false) (r : Option Result) :
    Inv { s.goto t (.returned r) with holder := none } := by
  refine h.goto t (.returned r) none s.cachedValue (by simp [Pc.locked]) (fun u hu => ?_)
    (fun v hv => by cases hv) (.inr ⟨rfl, by rw [hpc]; exact hwrote⟩)
  have hholder := h.holder_of_locked hpc hlocked
  simp [hholder, Ne.symm hu]

/-- The write itself: no other thread holds a value of the flag, since the writer has the lock and
no `read_full` is under way. -/
theorem Inv.write (h : Inv s) {value : FlagValue} {operator ts : String}
    {current : RoutingFlag} (hpc : s.pcs t = .setRead value operator ts current)
    (hquiet : ∀ u, (s.pcs u).heldFlag = none) :
    Inv { s.goto t (.setWrote value operator ts current.value) with
      flag := ⟨value, ts, operator⟩ } := by
  have hholder := h.holder_of_locked hpc rfl
  refine ⟨fun u => ?_, fun u v hu => ?_, .inr (.inr ⟨t, by simp [Pc.wrote]⟩)⟩
  · by_cases hut : u = t
    · subst hut
      simp [Pc.locked, State.goto, hholder]
    · simp only [State.goto_other s _ hut]
      exact h.locked_iff u
  · by_cases hut : u = t
    · subst hut
      simpa [Pc.seen, eq_comm] using hu
    · simp only [State.goto_other s _ hut] at hu
      have hlocked := Pc.locked_of_seen hu (hquiet u)
      have hsame := ((h.locked_iff u).mp hlocked).symm.trans hholder
      exact absurd (Option.some.inj hsame) hut

theorem Inv.advance (h : Inv s)
    (hquiet : noWriteDuringReadFull s (.advance t)) (hs : advance s t = some s') : Inv s' := by
  have hnone : ∀ v : FlagValue, none = some v → v = s.flag.value := fun v hv => by cases hv
  unfold KillSwitch.advance at hs
  cases hpc : s.pcs t with
  | returned last => rw [hpc] at hs; cases hs
  | isEnabledWait | setWait value operator ts =>
    rw [hpc] at hs; exact h.acquire hpc hs rfl rfl hnone
  | isEnabledLocked =>
    rw [hpc] at hs
    cases hcached : s.cachedValue with
    | none | some v =>
      rw [hcached] at hs; cases hs; exact h.move hpc _ _ rfl hnone (.inr ⟨rfl, rfl⟩)
  | isEnabledMiss | readFullStart | setLocked value operator ts =>
    rw [hpc] at hs
    cases hs
    exact h.move hpc _ _ rfl (fun v hv => (Option.some.inj hv).symm) (.inr ⟨rfl, rfl⟩)
  | isEnabledFill v =>
    rw [hpc] at hs
    cases hs
    have hv := h.seen t v (by rw [hpc]; rfl)
    exact h.move hpc _ _ rfl hnone (.inl (by rw [hv]))
  | readFullWait flag =>
    rw [hpc] at hs
    exact h.acquire hpc hs rfl rfl fun v hv => h.seen t v (by rw [hpc]; exact hv)
  | readFullLocked flag =>
    rw [hpc] at hs
    cases hs
    have hflag := h.seen t flag.value (by rw [hpc]; rfl)
    exact h.move hpc _ _ rfl hnone (.inl (by rw [hflag]))
  | setRead value operator ts current =>
    rw [hpc] at hs
    simp only at hs
    split_ifs at hs with hchanged
    · cases hs
      exact h.write hpc (hquiet (by simp [writesFlag, hpc, hchanged]))
    · cases hs
      have hcurrent := h.seen t current.value (by rw [hpc]; rfl)
      exact h.move hpc _ _ rfl hnone (.inl (by rw [hcurrent]))
  | setWrote value operator ts previous =>
    rw [hpc] at hs
    cases hs
    have hvalue := h.seen t value (by rw [hpc]; rfl)
    exact h.move hpc _ _ rfl hnone (.inl (by rw [hvalue]))
  | leaving r => rw [hpc] at hs; cases hs; exact h.release hpc rfl rfl (some r)

theorem Inv.raise (h : Inv s) {e : PyExc} (hs : raise s t e = some s') : Inv s' := by
  have hnone : ∀ v : FlagValue, none = some v → v = s.flag.value := fun v hv => by cases hv
  unfold KillSwitch.raise at hs
  split at hs
  · rename_i hpc
    cases hs
    exact h.move hpc _ _ rfl hnone (.inr ⟨rfl, rfl⟩)
  · rename_i hpc
    cases hs
    exact h.release hpc rfl rfl _
  · rename_i hpc
    cases hs
    exact h.release hpc rfl rfl _
  · rename_i hpc
    split_ifs at hs
    cases hs
    exact h.release hpc rfl rfl _
  · cases hs

theorem Inv.step (h : Inv s) (l : Label) (hquiet : noWriteDuringReadFull s l)
    (hs : step s l = some s') : Inv s' := by
  cases l with
  | call t c =>
    simp only [KillSwitch.step] at hs
    split_ifs at hs with hbusy
    cases hs
    cases hpc : s.pcs t with
    | returned last =>
      refine h.move hpc _ _ ?_ (fun v hv => ?_) (.inr ⟨rfl, rfl⟩)
      · cases c <;> rfl
      · cases c <;> cases hv
    | _ => simp [hpc, Pc.inProgress] at hbusy
  | advance t => exact h.advance hquiet hs
  | raise t e => exact h.raise hs

/-- In every run in which no toggle writes while a `read_full` is between its read and its store,
whenever no call is in progress the cache is empty or holds the stored value. -/
theorem cachedValue_eq_flag {flag : RoutingFlag} {s : State}
    (h : Reach step noWriteDuringReadFull (State.init flag) s)
    (hidle : ∀ t, (s.pcs t).inProgress = false) :
    s.cachedValue = none ∨ s.cachedValue = some s.flag.value := by
  have hinv : Inv s :=
    Reach.invariant Inv (inv_init flag) (fun _ l _ hs hok hstep => hs.step l hok hstep) h
  rcases hinv.cache with hnone | hsame | ⟨t, ht⟩
  · exact .inl hnone
  · exact .inr hsame
  · have hbusy := hidle t
    cases hpc : s.pcs t <;> simp_all [Pc.wrote, Pc.inProgress]

/-- `read_full` reads the enabled flag, a `disable` runs to its end, and the old value is then put
into the cache. -/
def staleRead : List Label :=
  [.call 0 .readFull, .advance 0,
    .call 1 (.set .disabled "host-operator" "2026-01-01T00:00:01.000Z"),
    .advance 1, .advance 1, .advance 1, .advance 1, .advance 1,
    .advance 0, .advance 0, .advance 0]

def seedFlag : RoutingFlag := ⟨.enabled, "2026-01-01T00:00:00.000Z", "migration"⟩

theorem staleRead_leaves_stale_cache :
    ∃ s, run step (State.init seedFlag) staleRead = some s ∧
      (∀ t, (s.pcs t).inProgress = false) ∧
      s.cachedValue = some .enabled ∧ s.flag.value = .disabled := by
  refine ⟨_, rfl, fun t => ?_, rfl, rfl⟩
  rcases t with _ | _ | t
  · rfl
  · rfl
  · rfl

def loneDisable : List Label :=
  [.call 1 (.set .disabled "host-operator" "2026-01-01T00:00:01.000Z"),
    .advance 1, .advance 1, .advance 1, .advance 1, .advance 1]

theorem loneDisable_allOk : AllOk step noWriteDuringReadFull (State.init seedFlag) loneDisable := by
  refine AllOk.cons rfl (fun h => by cases h) ?_
  refine AllOk.cons rfl (fun h => by cases h) ?_
  refine AllOk.cons rfl (fun h => by cases h) ?_
  refine AllOk.cons rfl (fun _ t => ?_) ?_
  · rcases t with _ | _ | t <;> rfl
  refine AllOk.cons rfl (fun h => by cases h) ?_
  exact AllOk.cons rfl (fun h => by cases h) trivial

theorem cachedValue_eq_flag_loneDisable :
    ∃ s, run step (State.init seedFlag) loneDisable = some s ∧
      s.flag.value = .disabled ∧ (s.cachedValue = none ∨ s.cachedValue = some s.flag.value) := by
  refine ⟨_, rfl, rfl, ?_⟩
  refine cachedValue_eq_flag (reach_of_allOk Reach.start loneDisable_allOk rfl) fun t => ?_
  rcases t with _ | _ | t <;> rfl

end AgentTower.Routing.KillSwitch
