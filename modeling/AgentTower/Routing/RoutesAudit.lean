import Mathlib.Data.List.Nodup
import AgentTower.Events.Writer
import AgentTower.Lib.Deque
import AgentTower.Lib.Pool
import AgentTower.Lib.Run

/-!
# The audit writer of the routes

An entry whose append raises `OSError` goes to a bounded buffer, which `drain_pending` takes over as a
whole, retries outside the lock, and gives back what failed again.  A step is one append or one section
under the lock.

Every entry is in the file, in the buffer, or counted as dropped, but for three kinds of failure: an
exception that is no `OSError`, an `OSError` of `fsync`, after the line is written, and a write of a
part of the line.  A drain goes on after a failed retry and buffers its survivors last, which changes
the order.
-/

namespace AgentTower.Routing.RoutesAudit

open Transition List
open Events (AppendOutcome)
open Pool (held held_nil held_perm held_set_perm held_singleton)

/-- An audit entry, `_PendingAudit` when it is buffered.  `seq` and `started` are history: the
number of its emit, and how many emits had returned when this one was made. -/
structure Entry (π : Type) where
  seq : Nat
  started : Nat
  eventsFile : String
  payload : π
  deriving DecidableEq, Repr

/-- A call of `_emit`: before its append, or on the way to the lock after an `OSError`. -/
inductive Emit (π : Type) where
  | appending (entry : Entry π)
  | buffering (entry : Entry π)
  deriving DecidableEq, Repr

def Emit.hold {π : Type} : Emit π → List (Entry π)
  | .appending entry | .buffering entry => [entry]

/-- A call of `drain_pending` in its loop. -/
structure Drain (π : Type) where
  survivors : List (Entry π)
  rest : List (Entry π)
  deriving DecidableEq, Repr

def Drain.hold {π : Type} (d : Drain π) : List (Entry π) := d.survivors ++ d.rest

open Drain (hold)

/-- `DEFAULT_AUDIT_BUFFER_MAX_ROWS`, the bound that the daemon runs with. -/
def defaultAuditBufferMaxRows : Nat := 10000

/-- `file` has the entries of the lines, and `atStart` says that the file ends with a whole one.  The
fields from `emitted` on are history: the entries in the order of their emits, those whose
emit has returned, those that were buffered by their emit, those that the bound has pushed out, and
those that a drain has written, each in the order in which it happened. -/
structure State (π : Type) (maxlen : Nat) where
  file : List (Entry π)
  atStart : Bool
  pending : Deque (Entry π) maxlen
  auditBufferDropped : Nat
  emits : List (Emit π)
  drains : List (Drain π)
  emitted : List (Entry π)
  returned : List (Entry π)
  buffered : List (Entry π)
  evicted : List (Entry π)
  retried : List (Entry π)

variable {π : Type} {maxlen : Nat}

def State.init : State π maxlen := ⟨[], true, .empty, 0, [], [], [], [], [], [], []⟩

/-- `_enqueue_pending_locked`, with the daemon's callback. -/
def enqueuePendingLocked (s : State π maxlen) (entry : Entry π) : State π maxlen :=
  { s with
    pending := s.pending.append entry
    auditBufferDropped :=
      if maxlen ≤ s.pending.items.length then s.auditBufferDropped + 1 else s.auditBufferDropped
    evicted := s.evicted ++ s.pending.evicted entry }

def State.write (s : State π maxlen) (entry : Entry π) (outcome : AppendOutcome) :
    State π maxlen :=
  { s with
    file := s.file ++ outcome.lines s.atStart entry
    atStart := outcome.endsLine s.atStart }

/-- `i` is the place of a call among those in progress. -/
inductive Label (π : Type) where
  | emit (eventsFile : String) (payload : π)
  | append (i : Nat) (outcome : AppendOutcome)
  | buffer (i : Nat)
  | drain
  | retry (i : Nat) (outcome : AppendOutcome)
  | rebuffer (i : Nat)
  deriving DecidableEq, Repr

def step (s : State π maxlen) : Label π → Option (State π maxlen)
  | .emit eventsFile payload =>
    let entry := ⟨s.emitted.length, s.returned.length, eventsFile, payload⟩
    some { s with emits := s.emits ++ [.appending entry], emitted := s.emitted ++ [entry] }
  | .append i outcome =>
    match s.emits[i]? with
    | some (.appending entry) =>
      let s := s.write entry outcome
      match outcome with
      | .oserror _ _ => some { s with emits := s.emits.set i (.buffering entry) }
      -- any other exception goes to the caller, and the entry with it
      | .returned _ | .exception _ _ =>
        some { s with emits := s.emits.eraseIdx i, returned := s.returned ++ [entry] }
    | _ => none
  | .buffer i =>
    match s.emits[i]? with
    | some (.buffering entry) =>
      some { enqueuePendingLocked s entry with
        emits := s.emits.eraseIdx i
        returned := s.returned ++ [entry]
        buffered := s.buffered ++ [entry] }
    | _ => none
  | .drain =>
    some { s with pending := .empty, drains := s.drains ++ [⟨[], s.pending.items⟩] }
  | .retry i outcome =>
    match s.drains[i]? with
    | some ⟨survivors, entry :: rest⟩ =>
      let s := s.write entry outcome
      match outcome with
      | .returned _ =>
        some { s with drains := s.drains.set i ⟨survivors, rest⟩, retried := s.retried ++ [entry] }
      | .oserror _ _ => some { s with drains := s.drains.set i ⟨survivors ++ [entry], rest⟩ }
      -- the loop is left, and with it the snapshot and the survivors
      | .exception _ _ => some { s with drains := s.drains.eraseIdx i }
    | _ => none
  | .rebuffer i =>
    match s.drains[i]? with
    | some ⟨survivors, []⟩ =>
      some { survivors.foldl enqueuePendingLocked s with drains := s.drains.eraseIdx i }
    | _ => none

/-- The append writes its line and returns, or raises `OSError` without having written. -/
def cleanAppend : AppendOutcome → Bool
  | .returned true | .oserror _ none => true
  | _ => false

def clean (_ : State π maxlen) : Label π → Bool
  | .append _ outcome | .retry _ outcome => cleanAppend outcome
  | _ => true

/-- No drain starts while another one runs, none writes an entry after one of its retries has
failed, and none gives back survivors over entries that were buffered in the meantime. -/
def orderly (s : State π maxlen) : Label π → Bool
  | .drain => s.drains.isEmpty
  | .retry i (.returned _) => (s.drains[i]?).all fun d => d.survivors.isEmpty
  | .rebuffer i => (s.drains[i]?).all fun d => d.survivors.isEmpty || s.pending.items.isEmpty
  | _ => true

def State.Quiescent (s : State π maxlen) : Prop := s.emits = [] ∧ s.drains = []

/-- The emit of `a` had returned when the one of `b` was made. -/
def State.EmittedBefore (s : State π maxlen) (a b : Entry π) : Prop :=
  a ∈ s.returned.take b.started

/-! ## What a step can change -/

inductive Change (s : State π maxlen) : Label π → State π maxlen → Prop where
  | emitted (eventsFile : String) (payload : π) {entry : Entry π} :
      entry = ⟨s.emitted.length, s.returned.length, eventsFile, payload⟩ →
      Change s (.emit eventsFile payload)
        { s with emits := s.emits ++ [.appending entry], emitted := s.emitted ++ [entry] }
  | returned {i : Nat} {entry : Entry π} {outcome : AppendOutcome} :
      s.emits[i]? = some (.appending entry) → (∀ excClass w, outcome ≠ .oserror excClass w) →
      Change s (.append i outcome)
        { s.write entry outcome with
          emits := s.emits.eraseIdx i
          returned := s.returned ++ [entry] }
  | failed {i : Nat} {entry : Entry π} (excClass : String) (w : Option Bool) :
      s.emits[i]? = some (.appending entry) →
      Change s (.append i (.oserror excClass w))
        { s.write entry (.oserror excClass w) with emits := s.emits.set i (.buffering entry) }
  | buffered {i : Nat} {entry : Entry π} :
      s.emits[i]? = some (.buffering entry) →
      Change s (.buffer i)
        { enqueuePendingLocked s entry with
          emits := s.emits.eraseIdx i
          returned := s.returned ++ [entry]
          buffered := s.buffered ++ [entry] }
  | drained :
      Change s .drain { s with pending := .empty, drains := s.drains ++ [⟨[], s.pending.items⟩] }
  | retried {i : Nat} {survivors rest : List (Entry π)} {entry : Entry π} (whole : Bool) :
      s.drains[i]? = some ⟨survivors, entry :: rest⟩ →
      Change s (.retry i (.returned whole))
        { s.write entry (.returned whole) with
          drains := s.drains.set i ⟨survivors, rest⟩
          retried := s.retried ++ [entry] }
  | survived {i : Nat} {survivors rest : List (Entry π)} {entry : Entry π} (excClass : String)
      (w : Option Bool) :
      s.drains[i]? = some ⟨survivors, entry :: rest⟩ →
      Change s (.retry i (.oserror excClass w))
        { s.write entry (.oserror excClass w) with
          drains := s.drains.set i ⟨survivors ++ [entry], rest⟩ }
  | abandoned {i : Nat} {survivors rest : List (Entry π)} {entry : Entry π} (excClass : String)
      (w : Option Bool) :
      s.drains[i]? = some ⟨survivors, entry :: rest⟩ →
      Change s (.retry i (.exception excClass w))
        { s.write entry (.exception excClass w) with drains := s.drains.eraseIdx i }
  | rebuffered {i : Nat} {survivors : List (Entry π)} :
      s.drains[i]? = some ⟨survivors, []⟩ →
      Change s (.rebuffer i)
        { survivors.foldl enqueuePendingLocked s with drains := s.drains.eraseIdx i }

variable {s s' : State π maxlen}

theorem step_change {l : Label π} (h : step s l = some s') : Change s l s' := by
  cases l with
  | emit eventsFile payload =>
    cases h
    exact .emitted eventsFile payload rfl
  | append i outcome =>
    simp only [step] at h
    split at h
    · rename_i entry hcall
      cases outcome with
      | oserror excClass w =>
        cases h
        exact .failed excClass w hcall
      | returned | exception =>
        cases h
        exact .returned hcall fun _ _ h => by cases h
    · cases h
  | buffer i =>
    simp only [step] at h
    split at h <;> cases h
    rename_i hcall
    exact .buffered hcall
  | drain =>
    cases h
    exact .drained
  | retry i outcome =>
    simp only [step] at h
    split at h
    · rename_i survivors entry rest hcall
      cases outcome with
      | returned whole =>
        cases h
        exact .retried whole hcall
      | oserror excClass w =>
        cases h
        exact .survived excClass w hcall
      | exception excClass w =>
        cases h
        exact .abandoned excClass w hcall
    · cases h
  | rebuffer i =>
    simp only [step] at h
    split at h <;> cases h
    rename_i hcall
    exact .rebuffered hcall

theorem enqueuePendingLocked_dropped (h : s.auditBufferDropped = s.evicted.length)
    (entry : Entry π) :
    (enqueuePendingLocked s entry).auditBufferDropped =
      (enqueuePendingLocked s entry).evicted.length := by
  -- `was_full` says whether the append evicts
  simp only [enqueuePendingLocked, length_append, Deque.length_evicted]
  split <;> omega

theorem foldl_enqueuePendingLocked (entries : List (Entry π)) (s : State π maxlen) :
    ∃ (pending : Deque (Entry π) maxlen) (dropped : Nat) (pushed : List (Entry π)),
      entries.foldl enqueuePendingLocked s =
        { s with
          pending, auditBufferDropped := dropped, evicted := s.evicted ++ pushed } ∧
      pushed ++ pending.items = s.pending.items ++ entries ∧
      (s.auditBufferDropped = s.evicted.length → dropped = (s.evicted ++ pushed).length) := by
  induction entries generalizing s with
  | nil =>
    refine ⟨s.pending, s.auditBufferDropped, [], ?_, ?_, fun h => ?_⟩
    · rw [append_nil]
      rfl
    · rw [nil_append, append_nil]
    · rw [append_nil]
      exact h
  | cons entry entries ih =>
    obtain ⟨pending, dropped, pushed, hfold, hitems, hcount⟩ := ih (enqueuePendingLocked s entry)
    refine ⟨pending, dropped, s.pending.evicted entry ++ pushed, ?_, ?_, fun h => ?_⟩
    · rw [← append_assoc]
      exact hfold
    · rw [append_assoc, hitems, ← append_assoc,
        show (enqueuePendingLocked s entry).pending = s.pending.append entry from rfl,
        Deque.evicted_append_items, append_assoc, singleton_append]
    · rw [← append_assoc]
      exact hcount (enqueuePendingLocked_dropped h entry)

/-! ## The account -/

/-- Every entry is in exactly one place: the file, the buffer, among the dropped ones, or in the
hands of a call. -/
def State.Accounted (s : State π maxlen) : Prop :=
  (s.file ++ (s.evicted ++ s.pending.items) ++ held Emit.hold s.emits ++
    held hold s.drains).Perm s.emitted

theorem atStart_change {l : Label π} (h : s.atStart = true) (hclean : clean s l = true)
    (hchange : Change s l s') : s'.atStart = true := by
  have hwrite : ∀ {outcome : AppendOutcome}, cleanAppend outcome = true →
      outcome.endsLine s.atStart = true := by
    intro outcome houtcome
    match outcome with
    | .returned true => rfl
    | .oserror _ none => exact h
  cases hchange with
  | emitted | buffered | drained => exact h
  | returned | failed | retried | survived | abandoned => exact hwrite hclean
  | @rebuffered i survivors hcall =>
    obtain ⟨pending, dropped, pushed, hfold, -, -⟩ := foldl_enqueuePendingLocked survivors s
    rw [hfold]
    exact h

theorem State.Accounted.change [DecidableEq π] (h : s.Accounted) (hstart : s.atStart = true)
    {l : Label π} (hclean : clean s l = true) (hchange : Change s l s') : s'.Accounted := by
  have hreturned : ∀ entry : Entry π, (s.write entry (.returned true)).file = s.file ++ [entry] := by
    intro entry
    simp [State.write, AppendOutcome.lines, AppendOutcome.isLine, AppendOutcome.written, hstart]
  have hfailed : ∀ (entry : Entry π) (excClass : String),
      (s.write entry (.oserror excClass none)).file = s.file := by
    intro entry excClass
    simp [State.write, AppendOutcome.lines, AppendOutcome.isLine, AppendOutcome.written]
  unfold State.Accounted at h ⊢
  rw [perm_iff_count] at h ⊢
  intro e
  have he := h e
  simp only [count_append] at he
  cases hchange with
  | emitted eventsFile payload hentry =>
    simp only [Pool.held_append, held_singleton, Emit.hold, count_append]
    omega
  | @returned i entry outcome hcall houtcome =>
    have hheld := (held_perm Emit.hold hcall).count_eq e
    match outcome, hclean with
    | .returned true, _ =>
      simp only [hreturned, Emit.hold, count_append] at hheld ⊢
      simp only [State.write]
      omega
    | .oserror excClass w, _ => exact absurd rfl (houtcome excClass w)
  | @failed i entry excClass w hcall =>
    have hheld := (held_perm Emit.hold hcall).count_eq e
    have hset := (held_set_perm Emit.hold hcall (.buffering entry)).count_eq e
    cases w with
    | none =>
      simp only [hfailed, Emit.hold, count_append] at hheld hset ⊢
      simp only [State.write]
      omega
    | some whole => cases hclean
  | @buffered i entry hcall =>
    have hheld := (held_perm Emit.hold hcall).count_eq e
    have hitems := congrArg (List.count e) (s.pending.evicted_append_items entry)
    simp only [enqueuePendingLocked, Emit.hold, count_append] at hheld hitems ⊢
    omega
  | drained =>
    simp only [Pool.held_append, held_singleton, hold, Deque.empty, count_append, count_nil]
    omega
  | @retried i survivors rest entry whole hcall =>
    have hheld := (held_perm hold hcall).count_eq e
    have hset := (held_set_perm hold hcall ⟨survivors, rest⟩).count_eq e
    cases whole with
    | false => cases hclean
    | true =>
      simp only [hreturned, hold, count_append, count_cons, count_nil] at hheld hset ⊢
      simp only [State.write]
      omega
  | @survived i survivors rest entry excClass w hcall =>
    have hheld := (held_perm hold hcall).count_eq e
    have hset := (held_set_perm hold hcall ⟨survivors ++ [entry], rest⟩).count_eq e
    cases w with
    | none =>
      simp only [hfailed, hold, count_append, count_cons, count_nil] at hheld hset ⊢
      simp only [State.write]
      omega
    | some whole => cases hclean
  | abandoned => cases hclean
  | @rebuffered i survivors hcall =>
    have hheld := (held_perm hold hcall).count_eq e
    obtain ⟨pending, dropped, pushed, hfold, hitems, -⟩ := foldl_enqueuePendingLocked survivors s
    have hitems' := congrArg (List.count e) hitems
    rw [hfold]
    simp only [hold, count_append, count_nil] at hheld hitems' ⊢
    omega

/-! ## The order of the emits -/

/-- The bookkeeping that no failure disturbs. -/
structure Books (s : State π maxlen) : Prop where
  calls : (s.returned ++ held Emit.hold s.emits).Perm s.emitted
  seqs : s.emitted.map Entry.seq = List.range s.emitted.length
  started : ∀ a ∈ s.emitted, a.started ≤ s.returned.length
  mem_buffered : ∀ a ∈ s.buffered, a ∈ s.emitted
  order : s.buffered.Pairwise fun a b => ¬ s.EmittedBefore b a
  dropped : s.auditBufferDropped = s.evicted.length

namespace Books

theorem init : Books (State.init : State π maxlen) where
  calls := .nil
  seqs := rfl
  started a ha := by cases ha
  mem_buffered a ha := by cases ha
  order := .nil
  dropped := rfl

theorem nodup (h : Books s) : s.emitted.Nodup := by
  refine List.Nodup.of_map Entry.seq ?_
  rw [h.seqs]
  exact nodup_range

theorem not_returned (h : Books s) {i : Nat} {call : Emit π} {entry : Entry π}
    (hcall : s.emits[i]? = some call) (hentry : entry ∈ call.hold) : entry ∉ s.returned := by
  have hnodup : (s.returned ++ held Emit.hold s.emits).Nodup := h.calls.nodup_iff.mpr h.nodup
  have hheld := Pool.mem_held (mem_of_getElem? hcall) hentry
  intro hreturned
  exact (nodup_append.mp hnodup).2.2 entry hreturned entry hheld rfl

/-- The call of `entry` returns: it moves from the calls in progress to those that are over. -/
theorem calls_return (h : Books s) {i : Nat} {call : Emit π} {entry : Entry π}
    (hcall : s.emits[i]? = some call) (hentry : call.hold = [entry]) :
    ((s.returned ++ [entry]) ++ held Emit.hold (s.emits.eraseIdx i)).Perm s.emitted := by
  have hheld := held_perm Emit.hold hcall
  rw [hentry] at hheld
  rw [append_assoc]
  exact (hheld.symm.append_left s.returned).trans h.calls

theorem emittedBefore_return (h : Books s) {a b entry : Entry π} (ha : a ∈ s.emitted) :
    b ∈ (s.returned ++ [entry]).take a.started ↔ s.EmittedBefore b a := by
  unfold State.EmittedBefore
  rw [take_append_of_le_length (h.started a ha)]

theorem change (h : Books s) {l : Label π} (hchange : Change s l s') : Books s' := by
  cases hchange with
  | @emitted eventsFile payload entry hentry =>
    refine ⟨?_, ?_, ?_, ?_, h.order, h.dropped⟩
    · rw [Pool.held_append, held_singleton, ← append_assoc]
      exact h.calls.append_right [entry]
    · rw [map_append, h.seqs, length_append, length_singleton, range_succ, hentry]
      rfl
    · intro a ha
      rcases mem_append.mp ha with ha | ha
      · exact h.started a ha
      · have hstarted : a.started = s.returned.length := by rw [mem_singleton.mp ha, hentry]
        exact Nat.le_of_eq hstarted
    · intro a ha
      exact mem_append_left _ (h.mem_buffered a ha)
  | @returned i entry outcome hcall =>
    refine ⟨h.calls_return hcall rfl, h.seqs, ?_, h.mem_buffered, ?_, h.dropped⟩
    · intro a ha
      rw [length_append]
      exact Nat.le_trans (h.started a ha) (Nat.le_add_right _ _)
    · refine h.order.imp_of_mem fun ha _ hnot hbefore => hnot ?_
      exact (h.emittedBefore_return (h.mem_buffered _ ha)).mp hbefore
  | @failed i entry excClass w hcall =>
    refine ⟨?_, h.seqs, h.started, h.mem_buffered, h.order, h.dropped⟩
    have hset := held_set_perm Emit.hold hcall (.buffering entry)
    have hheld := held_perm Emit.hold hcall
    exact ((hset.trans hheld.symm).append_left s.returned).trans h.calls
  | @buffered i entry hcall =>
    have hmem : entry ∈ s.emitted :=
      h.calls.subset (mem_append_right _
        (Pool.mem_held (mem_of_getElem? hcall) (mem_singleton.mpr rfl)))
    refine ⟨h.calls_return hcall rfl, h.seqs, ?_, ?_, ?_, ?_⟩
    · intro a ha
      show a.started ≤ (s.returned ++ [entry]).length
      rw [length_append]
      exact Nat.le_trans (h.started a ha) (Nat.le_add_right _ _)
    · intro a ha
      rcases mem_append.mp ha with ha | ha
      · exact h.mem_buffered a ha
      · rw [mem_singleton.mp ha]
        exact hmem
    · refine pairwise_append.mpr ⟨?_, pairwise_singleton _ _, fun a ha b hb => ?_⟩
      · refine h.order.imp_of_mem fun ha _ hnot hbefore => hnot ?_
        exact (h.emittedBefore_return (h.mem_buffered _ ha)).mp hbefore
      · -- the emit of the newly buffered entry has not returned before this step
        rw [mem_singleton.mp hb]
        intro hbefore
        have hreturned := (h.emittedBefore_return (h.mem_buffered a ha)).mp hbefore
        exact h.not_returned hcall (mem_singleton.mpr rfl) (mem_of_mem_take hreturned)
    · exact enqueuePendingLocked_dropped h.dropped entry
  | drained | retried | survived | abandoned =>
    exact ⟨h.calls, h.seqs, h.started, h.mem_buffered, h.order, h.dropped⟩
  | @rebuffered i survivors hcall =>
    obtain ⟨pending, dropped, pushed, hfold, -, hcount⟩ := foldl_enqueuePendingLocked survivors s
    rw [hfold]
    exact ⟨h.calls, h.seqs, h.started, h.mem_buffered, h.order, hcount h.dropped⟩

end Books

/-- With one drain at a time that stops writing at its first failure, what was retried, what is
being retried and what is buffered stand in the order in which they were buffered. -/
structure InOrder (s : State π maxlen) : Prop where
  one : s.drains.length ≤ 1
  kept : (s.retried ++ held hold s.drains ++ s.pending.items).Sublist s.buffered

namespace InOrder

theorem init : InOrder (State.init : State π maxlen) := ⟨Nat.zero_le _, List.Sublist.refl []⟩

theorem drains_eq (h : InOrder s) {i : Nat} {d : Drain π} (hcall : s.drains[i]? = some d) :
    s.drains = [d] ∧ i = 0 := by
  have hone := h.one
  cases hdrains : s.drains with
  | nil => simp [hdrains] at hcall
  | cons x xs =>
    rw [hdrains] at hcall hone
    have hxs : xs = [] := length_eq_zero_iff.mp (by simpa using hone)
    subst hxs
    have hi : i = 0 := by
      have hlt := (List.getElem?_eq_some_iff.mp hcall).1
      simpa using hlt
    subst hi
    simpa using hcall

theorem change (h : InOrder s) {l : Label π} (hok : orderly s l = true)
    (hchange : Change s l s') : InOrder s' := by
  have hkept := h.kept
  cases hchange with
  | emitted | returned | failed => exact ⟨h.one, hkept⟩
  | @buffered i entry hcall =>
    refine ⟨h.one, ?_⟩
    have hitems : (s.pending.append entry).items.Sublist (s.pending.items ++ [entry]) :=
      drop_sublist _ _
    have hlast := hkept.append_right [entry]
    rw [append_assoc] at hlast
    exact (hitems.append_left _).trans hlast
  | drained =>
    have hnone : s.drains = [] := List.isEmpty_iff.mp hok
    rw [hnone, held_nil, append_nil] at hkept
    refine ⟨by simp [hnone], ?_⟩
    simpa [hnone, hold, Deque.empty] using hkept
  | @retried i survivors rest entry whole hcall =>
    obtain ⟨hdrains, rfl⟩ := h.drains_eq hcall
    simp only [orderly, hdrains, List.getElem?_cons_zero, Option.all_some, List.isEmpty_iff] at hok
    refine ⟨by simp [hdrains], ?_⟩
    simpa [hdrains, hok, hold, State.write] using hkept
  | @survived i survivors rest entry excClass w hcall =>
    obtain ⟨hdrains, rfl⟩ := h.drains_eq hcall
    refine ⟨by simp [hdrains], ?_⟩
    simpa [hdrains, hold, State.write] using hkept
  | @abandoned i survivors rest entry excClass w hcall =>
    obtain ⟨hdrains, rfl⟩ := h.drains_eq hcall
    refine ⟨by simp [hdrains], ?_⟩
    have hless : (s.retried ++ s.pending.items).Sublist
        (s.retried ++ held hold s.drains ++ s.pending.items) :=
      (sublist_append_left _ _).append_right _
    simpa [hdrains, State.write] using hless.trans hkept
  | @rebuffered i survivors hcall =>
    obtain ⟨hdrains, rfl⟩ := h.drains_eq hcall
    obtain ⟨pending, dropped, pushed, hfold, hitems, -⟩ := foldl_enqueuePendingLocked survivors s
    simp only [orderly, hdrains, List.getElem?_cons_zero, Option.all_some, Bool.or_eq_true,
      List.isEmpty_iff] at hok
    rw [hfold]
    refine ⟨by simp [hdrains], ?_⟩
    -- one of the two lists that come together is empty, so their order does not matter
    have hsame : s.pending.items ++ survivors = survivors ++ s.pending.items := by
      rcases hok with hnone | hnone <;> simp [hnone]
    have hpending : pending.items.Sublist (survivors ++ s.pending.items) := by
      rw [← hsame, ← hitems]
      exact sublist_append_right _ _
    simp only [hdrains, held_singleton, hold, append_nil, append_assoc] at hkept
    simpa [hdrains] using (hpending.append_left s.retried).trans hkept

end InOrder

/-! ## The two halves of the promise -/

/-- In every run whose appends write their line and return or raise `OSError` without it, the
entries in the file, in the buffer and dropped are at every quiescent moment the emitted ones, each
once, and the counter is the number of the dropped ones.  In every run of orderly drains no entry is
written by a drain before one whose emit had returned when its own was made. -/
theorem entries_accounted_and_in_order [DecidableEq π] :
    (∀ s : State π maxlen, Reach step (fun s l => clean s l = true) State.init s →
      s.Quiescent → (s.file ++ s.pending.items ++ s.evicted).Perm s.emitted ∧ s.emitted.Nodup ∧
        s.auditBufferDropped = s.evicted.length) ∧
    ∀ s : State π maxlen, Reach step (fun s l => orderly s l = true) State.init s →
      s.retried.Pairwise fun a b => ¬ s.EmittedBefore b a := by
  refine ⟨fun s hs hquiet => ?_, fun s hs => ?_⟩
  · have hinv : Books s ∧ s.Accounted ∧ s.atStart = true := by
      refine hs.invariant (fun s => Books s ∧ s.Accounted ∧ s.atStart = true)
        ⟨Books.init, .nil, rfl⟩ ?_
      rintro s l s' ⟨hbooks, haccounted, hstart⟩ hclean hstep
      have hchange := step_change hstep
      exact ⟨hbooks.change hchange, haccounted.change hstart hclean hchange,
        atStart_change hstart hclean hchange⟩
    obtain ⟨hbooks, haccounted, -⟩ := hinv
    refine ⟨?_, hbooks.nodup, hbooks.dropped⟩
    unfold State.Accounted at haccounted
    rw [hquiet.1, hquiet.2, held_nil, held_nil, append_nil, append_nil] at haccounted
    rw [append_assoc]
    exact (perm_append_comm.append_left s.file).trans haccounted
  · have hinv : Books s ∧ InOrder s := by
      refine hs.invariant (fun s => Books s ∧ InOrder s) ⟨Books.init, InOrder.init⟩ ?_
      rintro s l s' ⟨hbooks, horder⟩ hok hstep
      exact ⟨hbooks.change (step_change hstep), horder.change hok (step_change hstep)⟩
    obtain ⟨hbooks, horder⟩ := hinv
    have hretried : s.retried.Sublist s.buffered := by
      refine List.Sublist.trans ?_ horder.kept
      rw [append_assoc]
      exact sublist_append_left _ _
    exact hbooks.order.sublist hretried

instance (s : State π maxlen) : Decidable s.Quiescent :=
  decidable_of_iff (s.emits.isEmpty = true ∧ s.drains.isEmpty = true)
    (by simp only [List.isEmpty_iff, State.Quiescent])

def twoBuffered : List (Label String) :=
  [.emit "events.jsonl" "a", .append 0 (.oserror "OSError" none), .buffer 0,
    .emit "events.jsonl" "b", .append 0 (.oserror "OSError" none), .buffer 0]

/-- An append that raises something else loses its entry; and a retry that fails puts its entry
behind the next one. -/
theorem entry_lost_and_order_reversed :
    (∃ s : State String defaultAuditBufferMaxRows,
      run step State.init [.emit "events.jsonl" "a", .append 0 (.exception "ValueError" none)] = some s ∧
      s.Quiescent ∧ s.file = [] ∧ s.pending.items = [] ∧ s.auditBufferDropped = 0 ∧
      s.emitted.map Entry.payload = ["a"]) ∧
    ∃ s : State String defaultAuditBufferMaxRows,
      run step State.init (twoBuffered ++
        [.drain, .retry 0 (.oserror "OSError" none), .retry 0 (.returned true), .rebuffer 0,
          .drain, .retry 0 (.returned true), .rebuffer 0]) = some s ∧
      s.Quiescent ∧ s.file.map Entry.payload = ["b", "a"] ∧
      s.emitted.map Entry.payload = ["a", "b"] := by decide +kernel

/-- Both entries are retried, one in each of two drains. -/
theorem entries_accounted_and_in_order_twoBuffered :
    ∃ s : State String defaultAuditBufferMaxRows,
      run step State.init (twoBuffered ++
        [.drain, .retry 0 (.returned true), .retry 0 (.oserror "OSError" none), .rebuffer 0,
          .drain, .retry 0 (.returned true), .rebuffer 0]) = some s ∧
      s.Quiescent ∧ s.file.map Entry.payload = ["a", "b"] ∧
      (s.file ++ s.pending.items ++ s.evicted).Perm s.emitted ∧
      s.retried.Pairwise fun a b => ¬ s.EmittedBefore b a := by
  obtain ⟨s, hs, hquiet, hfile⟩ : ∃ s, runWhile step (fun s l => clean s l && orderly s l)
      (State.init : State String defaultAuditBufferMaxRows) (twoBuffered ++
        [.drain, .retry 0 (.returned true), .retry 0 (.oserror "OSError" none), .rebuffer 0,
          .drain, .retry 0 (.returned true), .rebuffer 0]) = some s ∧
      s.Quiescent ∧ s.file.map Entry.payload = ["a", "b"] := by decide +kernel
  have hreach := reach_of_runWhile Reach.start hs
  have hclean := hreach.weaken fun s l hok => (Bool.and_eq_true_iff.mp hok).1
  have horderly := hreach.weaken fun s l hok => (Bool.and_eq_true_iff.mp hok).2
  exact ⟨s, run_of_runWhile hs, hquiet, hfile, (entries_accounted_and_in_order.1 s hclean hquiet).1,
    entries_accounted_and_in_order.2 s horderly⟩

end AgentTower.Routing.RoutesAudit
