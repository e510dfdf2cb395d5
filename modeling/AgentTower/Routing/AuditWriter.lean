import AgentTower.Events.Writer
import AgentTower.Lib.Deque
import AgentTower.Lib.Run
import AgentTower.Routing.Envelope

/-!
# The queue audit writer

A queue transition is recorded as a row of `events`, in the transaction of the transition, and as a
line of `events.jsonl`, after it.  A failed append is buffered in a bounded deque and retried by
`drain_pending`; so is a record whose watermark fails, marked so that its line is not written again.
If only the `os.fsync` of an append raises, the line is in the file although the call failed; if
`os.write` takes a part of the line, the call returns although the line is not whole.
-/

namespace AgentTower.Routing

open Transition List
open Events (AppendOutcome)

inductive TransitionEvent where
  | enqueued | delivered | blocked | failed | canceled | approved | delayed
  deriving DecidableEq, Repr

inductive TransitionReason where
  | block (reason : BlockReason)
  | failure (reason : FailureReason)
  deriving DecidableEq, Repr

/-- The JSONL payload of a queue transition (schema version 1).  An identity is `none` where the
source passes the empty dict. -/
structure QueueTransition where
  eventType : TransitionEvent
  messageId : String
  fromState : Option QueueState
  toState : QueueState
  reason : Option TransitionReason
  operator : Option String
  observedAt : String
  sender : Option EnvelopeIdentity
  target : Option EnvelopeIdentity
  excerpt : String
  deriving DecidableEq, Repr

structure EventRow where
  eventId : Nat
  eventType : TransitionEvent
  agentId : String
  observedAt : String
  excerpt : String
  jsonlAppendedAt : Option String
  deriving DecidableEq, Repr

/-- `insert_queue_transition_in_tx`: the row is filed under the target's `agent_id`. -/
def insertQueueTransitionInTx (events : List EventRow) (eventId : Nat) (t : QueueTransition) :
    Except PyExc (List EventRow) :=
  match t.target with
  | none => .error ⟨.keyError, none, "'agent_id'"⟩
  | some target =>
    .ok (events ++ [⟨eventId, t.eventType, target.agentId, t.observedAt, t.excerpt, none⟩])

def markJsonlAppended (events : List EventRow) (eventId : Nat) (ts : String) : List EventRow :=
  events.map fun row =>
    if row.eventId = eventId ∧ row.jsonlAppendedAt = none then
      { row with jsonlAppendedAt := some ts }
    else row

structure PendingJsonl where
  eventId : Nat
  payload : QueueTransition
  failureExcClass : String
  jsonlAppended : Bool
  deriving DecidableEq, Repr

open PendingJsonl (eventId)

/-- What the transaction around `mark_jsonl_appended` does. -/
inductive MarkOutcome where
  | committed
  | raised (excClass : String)
  deriving DecidableEq, Repr

/-- What an `append_event` has left in `events.jsonl`: a line or a part of one, with the row it is
about and whether the call returned. -/
structure Line where
  eventId : Nat
  payload : QueueTransition
  returned : Bool
  whole : Bool
  deriving DecidableEq, Repr

namespace QueueAuditWriter

/-- `_DEFAULT_DEGRADED_AUDIT_BUFFER_MAX_ROWS`, the bound that the daemon runs with. -/
def defaultMaxPending : Nat := 1024

/-- The tables and the buffer; `dropped`, `enqueued` and `drained` are history: the records that
the bound pushed out (each with a logged warning), the event ids in the order in which they were
buffered, and those whose line a drain wrote, in the order of the writes. -/
structure State (maxPending : Nat) where
  events : List EventRow
  file : List Line
  pending : Deque PendingJsonl maxPending
  degradedExcClass : Option String
  dropped : List PendingJsonl
  enqueued : List Nat
  drained : List Nat

variable {maxPending : Nat}

def State.init : State maxPending := ⟨[], [], .empty, none, [], [], []⟩

def linesOf (eventId : Nat) (payload : QueueTransition) : AppendOutcome → List Line
  | .returned whole => [⟨eventId, payload, true, whole⟩]
  | .oserror _ written | .exception _ written =>
    written.toList.map fun whole => ⟨eventId, payload, false, whole⟩

section

variable (s : State maxPending)

def buffer (p : PendingJsonl) : State maxPending :=
  { s with
    degradedExcClass := some p.failureExcClass
    dropped := s.dropped ++
      (if s.pending.items.length = maxPending then s.pending.items.take 1 else [])
    pending := s.pending.append p
    enqueued := s.enqueued ++ [p.eventId] }

def appendJsonlThenWatermark (eventId : Nat) (payload : QueueTransition)
    (watermarkTs : String) (w : AppendOutcome) (m : MarkOutcome) : State maxPending :=
  let s := { s with file := s.file ++ linesOf eventId payload w }
  match w with
  | .oserror excClass _ | .exception excClass _ => buffer s ⟨eventId, payload, excClass, false⟩
  | .returned _ =>
    match m with
    | .committed => { s with events := markJsonlAppended s.events eventId watermarkTs }
    -- the line is written; what is buffered is the watermark
    | .raised excClass => buffer s ⟨eventId, payload, excClass, true⟩

/-- The transition's transaction and the JSONL step after it; `none` if the transaction rolls
back.  SQLite assigns an `event_id` above all earlier ones. -/
def appendQueueTransition (eventId : Nat) (t : QueueTransition)
    (w : AppendOutcome) (m : MarkOutcome) : Option (State maxPending) :=
  if s.events.all fun row => decide (row.eventId < eventId) then
    match insertQueueTransitionInTx s.events eventId t with
    | .ok events =>
      some (appendJsonlThenWatermark { s with events } eventId t t.observedAt w m)
    | .error _ => none
  else none

def drainMark (head : PendingJsonl) :
    MarkOutcome → State maxPending × Bool
  | .committed =>
    ({ s with
        events := markJsonlAppended s.events head.eventId head.payload.observedAt
        pending := s.pending.popleft }, true)
  | .raised _ => (s, false)

/-- One iteration of the `while` of `drain_pending` on a non-empty buffer. -/
def drainOne (head : PendingJsonl) (w : AppendOutcome) (m : MarkOutcome) :
    State maxPending × Bool :=
  -- a record whose line is written waits for its watermark only
  if head.jsonlAppended then drainMark s head m
  else
    let s := { s with file := s.file ++ linesOf head.eventId head.payload w }
    match w with
    -- the first failure ends the drain, so that the order is kept
    | .oserror excClass _ | .exception excClass _ =>
      ({ s with degradedExcClass := some excClass }, false)
    | .returned _ =>
      drainMark
        { s with
          pending := s.pending.modifyHead fun p => { p with jsonlAppended := true }
          drained := s.drained ++ [head.eventId] }
        head m

def drainEnd : State maxPending :=
  if s.pending.items = [] then { s with degradedExcClass := none } else s

end

/-- The loop.  Every iteration that goes on takes the head off, so the length of the buffer is
fuel enough; `n` is the number of records drained so far. -/
def drainLoop (outcome : Nat → AppendOutcome × MarkOutcome) :
    Nat → Nat → State maxPending → State maxPending × Nat
  | 0, n, s => (s, n)
  | fuel + 1, n, s =>
    match s.pending.items with
    | [] => (s, n)
    | head :: _ =>
      match drainOne s head (outcome n).1 (outcome n).2 with
      | (s', true) => drainLoop outcome fuel (n + 1) s'
      | (s', false) => (s', n)

def drainPending (outcome : Nat → AppendOutcome × MarkOutcome) (s : State maxPending) :
    State maxPending × Nat :=
  let (s', n) := drainLoop outcome s.pending.items.length 0 s
  (drainEnd s', n)

inductive Label where
  | append (eventId : Nat) (t : QueueTransition) (w : AppendOutcome) (m : MarkOutcome)
  | drainOne (w : AppendOutcome) (m : MarkOutcome)
  | drainEnd
  deriving DecidableEq, Repr

def step (s : State maxPending) : Label → Option (State maxPending)
  | .append eventId t w m => appendQueueTransition s eventId t w m
  | .drainOne w m =>
    match s.pending.items with
    | [] => none
    | head :: _ => some (QueueAuditWriter.drainOne s head w m).1
  | .drainEnd => some (QueueAuditWriter.drainEnd s)

/-! ## Where a record is

`written`, `waiting` and `lost` count, for one event id, the appends that returned, the buffered
records without one, and the dropped records without one. -/

def isReturned : AppendOutcome → Bool
  | .returned _ => true
  | _ => false

def written (s : State maxPending) (e : Nat) : Nat :=
  s.file.countP fun l => l.returned && decide (l.eventId = e)

def lacksLine (e : Nat) (p : PendingJsonl) : Bool :=
  !p.jsonlAppended && decide (p.eventId = e)

def waiting (s : State maxPending) (e : Nat) : Nat := s.pending.items.countP (lacksLine e)

def lost (s : State maxPending) (e : Nat) : Nat := s.dropped.countP (lacksLine e)

def eventIds (events : List EventRow) : List Nat := events.map EventRow.eventId

/-- The drains write in the order of the buffer; they may have written its first record, which waits for
its watermark. -/
def DrainedInOrder (s : State maxPending) : Prop :=
  ∃ past, s.enqueued = past ++ s.pending.items.map eventId ∧
    (s.drained.Sublist past ∨
      ∃ head rest, s.pending.items = head :: rest ∧ head.jsonlAppended = true ∧
        s.drained.Sublist (past ++ [head.eventId]))

/-- Every record is in one place, and a record marked as appended and a row with a watermark have
their line. -/
structure Inv (s : State maxPending) : Prop where
  nodup : (eventIds s.events).Nodup
  place : ∀ e, written s e + waiting s e + lost s e = (eventIds s.events).count e
  appended : ∀ p ∈ s.pending.items, p.jsonlAppended = true → 0 < written s p.eventId
  watermark : ∀ row ∈ s.events, row.jsonlAppendedAt ≠ none → 0 < written s row.eventId
  order : DrainedInOrder s

theorem inv_init : Inv (State.init : State maxPending) where
  nodup := nodup_nil
  place _ := rfl
  appended _ hp := by cases hp
  watermark _ hrow := by cases hrow
  order := ⟨[], rfl, .inl (List.Sublist.refl [])⟩

theorem eventIds_markJsonlAppended (events : List EventRow) (e : Nat) (ts : String) :
    eventIds (markJsonlAppended events e ts) = eventIds events := by
  unfold eventIds markJsonlAppended
  rw [map_map]
  apply map_congr_left
  intro row _
  simp only [Function.comp]
  split <;> rfl

variable {e : Nat} {s s' : State maxPending} {p : PendingJsonl}

theorem mem_markJsonlAppended {events : List EventRow} {ts : String} {row : EventRow}
    (hrow : row ∈ markJsonlAppended events e ts) (hmark : row.jsonlAppendedAt ≠ none) :
    row.eventId = e ∨ row ∈ events := by
  unfold markJsonlAppended at hrow
  obtain ⟨row₀, hrow₀, heq⟩ := mem_map.mp hrow
  split at heq
  · rename_i hsel
    subst heq
    exact .inl hsel.1
  · subst heq
    exact .inr hrow₀

theorem written_append (s : State maxPending) (lines : List Line) (e : Nat) :
    written { s with file := s.file ++ lines } e
      = written s e + lines.countP fun l => l.returned && decide (l.eventId = e) := by
  unfold written
  rw [countP_append]

theorem countP_linesOf (eventId : Nat) (payload : QueueTransition) (w : AppendOutcome) (e : Nat) :
    (linesOf eventId payload w).countP (fun l => l.returned && decide (l.eventId = e))
      = if isReturned w ∧ eventId = e then 1 else 0 := by
  cases w with
  | returned whole => by_cases he : eventId = e <;> simp [linesOf, isReturned, he]
  | oserror excClass written | exception excClass written =>
    cases written <;> simp [linesOf, isReturned]

theorem buffer_count (hpos : 0 < maxPending) (s : State maxPending) (p : PendingJsonl) (e : Nat) :
    waiting (buffer s p) e + lost (buffer s p) e
      = waiting s e + lost s e + if lacksLine e p then 1 else 0 := by
  have hconserved := congrArg (List.countP (lacksLine e)) (s.pending.evicted_append_items p)
  rw [countP_append, countP_append, countP_singleton, Deque.evicted_eq hpos] at hconserved
  show (s.pending.append p).items.countP (lacksLine e) + (s.dropped ++ _).countP (lacksLine e) = _
  unfold waiting lost
  rw [countP_append]
  omega

theorem buffer_mem {p' : PendingJsonl}
    (hp' : p' ∈ (buffer s p).pending.items) : p' ∈ s.pending.items ∨ p' = p := by
  have hmem : p' ∈ s.pending.items ++ [p] := by
    rw [← s.pending.evicted_append_items p]
    exact mem_append_right _ hp'
  simpa using hmem

theorem buffer_order (hpos : 0 < maxPending) (h : DrainedInOrder s) : DrainedInOrder (buffer s p) := by
  obtain ⟨past, henqueued, horder⟩ := h
  have hconserved := congrArg (List.map eventId) (s.pending.evicted_append_items p)
  rw [map_append, map_append, map_singleton] at hconserved
  refine ⟨past ++ (s.pending.evicted p).map eventId, ?_, ?_⟩
  · show s.enqueued ++ [p.eventId] = _
    rw [henqueued, append_assoc, ← hconserved, append_assoc]
    rfl
  · rcases horder with hpast | ⟨head, rest, hitems, happended, hpast⟩
    · exact .inl (hpast.trans (sublist_append_left _ _))
    · have hevicted := Deque.evicted_eq hpos s.pending p
      split at hevicted
      · left
        show s.drained.Sublist _
        rw [hevicted, hitems]
        simpa using hpast
      · right
        have hkept : (buffer s p).pending.items = s.pending.items ++ [p] := by
          rw [← s.pending.evicted_append_items p, hevicted]
          rfl
        refine ⟨head, rest ++ [p], by rw [hkept, hitems]; rfl, happended, ?_⟩
        show s.drained.Sublist _
        rw [hevicted]
        simpa using hpast

section

variable (s : State maxPending) (row : EventRow) (payload : QueueTransition) (w : AppendOutcome)

def recorded : State maxPending :=
  { s with events := s.events ++ [row], file := s.file ++ linesOf row.eventId payload w }

theorem written_recorded (e : Nat) :
    written (recorded s row payload w) e
      = written s e + if isReturned w ∧ row.eventId = e then 1 else 0 := by
  rw [← countP_linesOf row.eventId payload w e, ← written_append]
  rfl

end

section Append

variable {s : State maxPending} {row : EventRow} {payload : QueueTransition} {w : AppendOutcome}

theorem eventIds_recorded :
    eventIds (recorded s row payload w).events = eventIds s.events ++ [row.eventId] := by
  show (s.events ++ [row]).map EventRow.eventId = _
  rw [map_append, map_singleton]
  rfl

theorem Inv.nodup_recorded (h : Inv s) (hnew : row.eventId ∉ eventIds s.events) :
    (eventIds (recorded s row payload w).events).Nodup := by
  rw [eventIds_recorded]
  exact List.Nodup.append h.nodup (nodup_singleton _) (by simpa using hnew)

theorem Inv.watermark_recorded (h : Inv s) (hrow : row.jsonlAppendedAt = none) :
    ∀ row' ∈ (recorded s row payload w).events, row'.jsonlAppendedAt ≠ none →
      0 < written (recorded s row payload w) row'.eventId := by
  intro row' hmem hmark
  rw [written_recorded]
  rcases mem_append.mp hmem with hold | hnew
  · have hpos := h.watermark row' hold hmark
    omega
  · rw [mem_singleton.mp hnew] at hmark
    exact absurd hrow hmark

theorem Inv.append_marked (h : Inv s) (hnew : row.eventId ∉ eventIds s.events)
    (hrow : row.jsonlAppendedAt = none) (hw : isReturned w = true) (ts : String) :
    Inv { recorded s row payload w with
      events := markJsonlAppended (recorded s row payload w).events row.eventId ts } where
  nodup := by
    rw [eventIds_markJsonlAppended]
    exact h.nodup_recorded hnew
  place e := by
    rw [eventIds_markJsonlAppended, eventIds_recorded, count_append, ← h.place e, count_singleton]
    show written (recorded s row payload w) e + waiting s e + lost s e = _
    rw [written_recorded]
    simp only [hw, true_and, beq_iff_eq]
    omega
  appended p hp happended := by
    have hpos := h.appended p hp happended
    show 0 < written (recorded s row payload w) p.eventId
    rw [written_recorded]
    omega
  watermark row' hmem hmark := by
    show 0 < written (recorded s row payload w) row'.eventId
    rcases mem_markJsonlAppended hmem hmark with heq | hold
    · rw [written_recorded, heq]
      simp [hw]
    · exact h.watermark_recorded hrow row' hold hmark
  order := h.order

theorem Inv.append_buffered (hpos : 0 < maxPending) (h : Inv s)
    (hnew : row.eventId ∉ eventIds s.events) (hrow : row.jsonlAppendedAt = none)
    (p : PendingJsonl) (hid : p.eventId = row.eventId)
    (happended : p.jsonlAppended = isReturned w) :
    Inv (buffer (recorded s row payload w) p) where
  nodup := by
    show (eventIds (recorded s row payload w).events).Nodup
    exact h.nodup_recorded hnew
  place e := by
    show written (recorded s row payload w) e + _ + _
      = (eventIds (recorded s row payload w).events).count e
    have hbuffer := buffer_count hpos (recorded s row payload w) p e
    have hplace := h.place e
    have hwaiting : waiting (recorded s row payload w) e = waiting s e := rfl
    have hlost : lost (recorded s row payload w) e = lost s e := rfl
    rw [Nat.add_assoc, hbuffer, written_recorded, eventIds_recorded, count_append, ← hplace,
      count_singleton, hwaiting, hlost]
    -- the record counts as written or as waiting, by the outcome of its append
    unfold lacksLine
    rw [happended, hid]
    by_cases hw : isReturned w <;> by_cases he : row.eventId = e <;> simp [hw, he] <;> omega
  appended p' hp' happended' := by
    show 0 < written (recorded s row payload w) p'.eventId
    rw [written_recorded]
    rcases buffer_mem hp' with hold | hsame
    · have hpos' := h.appended p' hold happended'
      omega
    · subst hsame
      rw [happended] at happended'
      simp [happended', hid]
  watermark := h.watermark_recorded hrow
  order := buffer_order hpos h.order

end Append

theorem Inv.append (hpos : 0 < maxPending) (h : Inv s) {eventId : Nat}
    {t : QueueTransition} {w : AppendOutcome} {m : MarkOutcome}
    (hs : appendQueueTransition s eventId t w m = some s') : Inv s' := by
  unfold appendQueueTransition insertQueueTransitionInTx at hs
  split_ifs at hs with hall
  have hnew : eventId ∉ eventIds s.events := by
    intro hmem
    obtain ⟨row, hrow, heq⟩ := mem_map.mp hmem
    have hlt := all_eq_true.mp hall row hrow
    simp only [decide_eq_true_eq] at hlt
    omega
  cases htarget : t.target with
  | none => rw [htarget] at hs; cases hs
  | some target =>
    rw [htarget] at hs
    simp only [Option.some.injEq] at hs
    subst hs
    unfold appendJsonlThenWatermark
    cases w with
    | returned whole =>
      cases m with
      | committed => exact h.append_marked hnew rfl rfl t.observedAt
      | raised excClass =>
        exact h.append_buffered hpos hnew rfl ⟨eventId, t, excClass, true⟩ rfl rfl
    | oserror excClass written | exception excClass written =>
      exact h.append_buffered hpos hnew rfl ⟨eventId, t, excClass, false⟩ rfl rfl

/-! ## Drains -/

section Drain

variable {s : State maxPending} {head : PendingJsonl} {rest : List PendingJsonl} {whole : Bool}

/-- The watermark of a head whose line is in the file: a success takes the head off, which then
counts neither as waiting nor as lost. -/
theorem Inv.drainMark (h : Inv s) (hitems : s.pending.items = head :: rest)
    (happended : head.jsonlAppended = true) (m : MarkOutcome) : Inv (drainMark s head m).1 := by
  cases m with
  | raised excClass => exact h
  | committed =>
    have hpopped : s.pending.popleft.items = rest := by
      show s.pending.items.tail = rest
      rw [hitems]
      rfl
    refine ⟨?_, fun e => ?_, fun p hp => ?_, fun row hrow hmark => ?_, ?_⟩
    · show (eventIds (markJsonlAppended s.events _ _)).Nodup
      rw [eventIds_markJsonlAppended]
      exact h.nodup
    · have hplace := h.place e
      show written s e + s.pending.popleft.items.countP (lacksLine e) + lost s e
        = (eventIds (markJsonlAppended s.events _ _)).count e
      unfold waiting at hplace
      rw [eventIds_markJsonlAppended, ← hplace, hpopped, hitems,
        countP_cons_of_neg (by simp [lacksLine, happended])]
    · have hmem : p ∈ s.pending.popleft.items := hp
      rw [hpopped] at hmem
      exact h.appended p (by rw [hitems]; exact mem_cons_of_mem _ hmem)
    · rcases mem_markJsonlAppended hrow hmark with heq | hold
      · rw [heq]
        exact h.appended head (by rw [hitems]; exact mem_cons_self) happended
      · exact h.watermark row hold hmark
    · obtain ⟨past, henqueued, horder⟩ := h.order
      refine ⟨past ++ [head.eventId], ?_, .inl ?_⟩
      · show s.enqueued = _ ++ s.pending.popleft.items.map eventId
        rw [henqueued, hpopped, hitems, append_assoc]
        rfl
      · rcases horder with hpast | ⟨head', rest', hitems', -, hpast⟩
        · exact hpast.trans (sublist_append_left _ _)
        · rw [hitems] at hitems'
          cases hitems'
          exact hpast

def headWritten (s : State maxPending) (head : PendingJsonl) (whole : Bool) : State maxPending :=
  { s with
    file := s.file ++ linesOf head.eventId head.payload (.returned whole)
    pending := s.pending.modifyHead fun p => { p with jsonlAppended := true }
    drained := s.drained ++ [head.eventId] }

theorem headWritten_items (hitems : s.pending.items = head :: rest) :
    (headWritten s head whole).pending.items = { head with jsonlAppended := true } :: rest := by
  show s.pending.items.modifyHead _ = _
  rw [hitems]
  rfl

theorem written_headWritten (e : Nat) :
    written (headWritten s head whole) e = written s e + if head.eventId = e then 1 else 0 := by
  have hlines := countP_linesOf head.eventId head.payload (.returned whole) e
  simp only [isReturned, true_and] at hlines
  rw [← hlines, ← written_append]
  rfl

theorem Inv.headWritten (h : Inv s) (hitems : s.pending.items = head :: rest)
    (hwaits : head.jsonlAppended = false) : Inv (headWritten s head whole) where
  nodup := h.nodup
  place e := by
    have hplace := h.place e
    have hlost : lost (QueueAuditWriter.headWritten s head whole) e = lost s e := rfl
    unfold waiting at hplace ⊢
    rw [hitems, countP_cons] at hplace
    rw [headWritten_items hitems, written_headWritten, countP_cons, hlost]
    show _ = (eventIds s.events).count e
    rw [← hplace]
    simp only [lacksLine, hwaits, Bool.not_true, Bool.not_false, Bool.true_and, Bool.false_and,
      decide_eq_true_eq]
    by_cases he : head.eventId = e
    · simp only [he, if_true, Bool.false_eq_true, if_false]
      omega
    · simp [he]
  appended p hp happended := by
    rw [headWritten_items hitems] at hp
    rw [written_headWritten]
    rcases mem_cons.mp hp with rfl | hrest
    · simp
    · have hpos := h.appended p (by rw [hitems]; exact mem_cons_of_mem _ hrest) happended
      omega
  watermark row hrow hmark := by
    have hpos := h.watermark row hrow hmark
    rw [written_headWritten]
    omega
  order := by
    obtain ⟨past, henqueued, horder⟩ := h.order
    refine ⟨past, ?_, .inr ⟨_, rest, headWritten_items hitems, rfl, ?_⟩⟩
    · rw [headWritten_items hitems]
      show s.enqueued = _
      rw [henqueued, hitems]
      rfl
    · show (s.drained ++ [head.eventId]).Sublist (past ++ [head.eventId])
      rcases horder with hpast | ⟨head', rest', hitems', happended, -⟩
      · exact hpast.append_right _
      · -- a head that a drain has already written is not written again
        rw [hitems] at hitems'
        cases hitems'
        rw [hwaits] at happended
        cases happended

theorem Inv.append_raised (h : Inv s) (excClass : String) {w : AppendOutcome}
    (hw : isReturned w = false) :
    Inv { s with
      file := s.file ++ linesOf head.eventId head.payload w
      degradedExcClass := some excClass } := by
  have hwritten : ∀ e,
      written { s with
        file := s.file ++ linesOf head.eventId head.payload w
        degradedExcClass := some excClass } e = written s e := by
    intro e
    show (s.file ++ linesOf _ _ _).countP _ = _
    rw [countP_append, countP_linesOf, hw]
    simp only [Bool.false_eq_true, false_and, if_false, Nat.add_zero]
    rfl
  refine ⟨h.nodup, fun e => ?_, fun p hp happended => ?_, fun row hrow hmark => ?_, h.order⟩
  · rw [hwritten]
    exact h.place e
  · rw [hwritten]
    exact h.appended p hp happended
  · rw [hwritten]
    exact h.watermark row hrow hmark

theorem Inv.drainOne (h : Inv s) (hitems : s.pending.items = head :: rest) (w : AppendOutcome)
    (m : MarkOutcome) : Inv (drainOne s head w m).1 := by
  unfold QueueAuditWriter.drainOne
  split
  · rename_i happended
    exact h.drainMark hitems happended m
  · rename_i hwaits
    cases w with
    | oserror excClass written | exception excClass written => exact h.append_raised excClass rfl
    | returned whole =>
      have hwritten : Inv (QueueAuditWriter.headWritten s head whole) :=
        h.headWritten hitems (by simpa using hwaits)
      -- the mark goes by the head as it was taken from the buffer; only its id and time count
      exact hwritten.drainMark (headWritten_items hitems) rfl m

end Drain

theorem Inv.drainEnd (h : Inv s) : Inv (drainEnd s) := by
  unfold QueueAuditWriter.drainEnd
  split
  · exact ⟨h.nodup, h.place, h.appended, h.watermark, h.order⟩
  · exact h

theorem Inv.step (hpos : 0 < maxPending) (h : Inv s) (l : Label)
    (hs : step s l = some s') : Inv s' := by
  cases l with
  | append eventId t w m => exact h.append hpos hs
  | drainOne w m =>
    simp only [QueueAuditWriter.step] at hs
    split at hs <;> cases hs
    rename_i hitems
    exact h.drainOne hitems w m
  | drainEnd =>
    cases hs
    exact h.drainEnd

theorem drainOne_pops {head : PendingJsonl} {rest : List PendingJsonl} {w : AppendOutcome}
    {m : MarkOutcome} (hok : isReturned w = true ∧ m = .committed)
    (hitems : s.pending.items = head :: rest) :
    ∃ s', drainOne s head w m = (s', true) ∧ s'.pending.items.length = rest.length := by
  obtain ⟨hw, rfl⟩ := hok
  cases w with
  | oserror | exception => cases hw
  | returned whole =>
    unfold drainOne
    split <;> exact ⟨_, rfl, by simp [Deque.popleft, Deque.modifyHead, hitems]⟩

theorem drainPending_empties {outcome : Nat → AppendOutcome × MarkOutcome}
    (hok : ∀ n, isReturned (outcome n).1 = true ∧ (outcome n).2 = .committed)
    (s : State maxPending) :
    (drainPending outcome s).1.pending.items = [] ∧
      (drainPending outcome s).2 = s.pending.items.length := by
  have hloop : ∀ fuel n (s : State maxPending), s.pending.items.length = fuel →
      (drainLoop outcome fuel n s).1.pending.items = [] ∧
        (drainLoop outcome fuel n s).2 = n + fuel := by
    intro fuel
    induction fuel with
    | zero => exact fun n s hlen => ⟨length_eq_zero_iff.mp hlen, rfl⟩
    | succ fuel ih =>
      intro n s hlen
      cases hitems : s.pending.items with
      | nil => rw [hitems] at hlen; cases hlen
      | cons head rest =>
        have hrest : rest.length = fuel := by
          rw [hitems, length_cons] at hlen
          omega
        obtain ⟨s', hs', hlen'⟩ := drainOne_pops (hok n) hitems
        unfold drainLoop
        rw [hitems]
        simp only [hs']
        rw [hrest] at hlen'
        obtain ⟨hempty, hcount⟩ := ih (n + 1) s' hlen'
        exact ⟨hempty, by rw [hcount]; omega⟩
  obtain ⟨hempty, hcount⟩ := hloop _ 0 s rfl
  refine ⟨?_, hcount.trans (Nat.zero_add _)⟩
  show (drainEnd _).pending.items = []
  unfold drainEnd
  split <;> exact hempty

/-! ## Every record is accounted for -/

/-- No `os.write` takes only a part of a line. -/
def wholeWrites : Label → Bool
  | .append _ _ w _ | .drainOne w _ => w.wholeLine
  | .drainEnd => true

theorem whole_of_mem_linesOf {eventId : Nat} {payload : QueueTransition} {w : AppendOutcome}
    (hw : w.wholeLine = true) {l : Line} (hl : l ∈ linesOf eventId payload w) : l.whole = true := by
  cases w with
  | returned whole =>
    rw [mem_singleton.mp hl]
    exact hw
  | oserror excClass written | exception excClass written =>
    cases written with
    | none => cases hl
    | some whole =>
      rw [mem_singleton.mp hl]
      exact hw

theorem whole_append_linesOf {file : List Line} {eventId : Nat} {payload : QueueTransition}
    {w : AppendOutcome} (hfile : ∀ l ∈ file, l.whole = true) (hw : w.wholeLine = true) :
    ∀ l ∈ file ++ linesOf eventId payload w, l.whole = true := fun l hl =>
  (mem_append.mp hl).elim (hfile l) (whole_of_mem_linesOf hw)

theorem whole_step (hfile : ∀ l ∈ s.file, l.whole = true) (l : Label) (hl : wholeWrites l = true)
    (hs : step s l = some s') : ∀ l ∈ s'.file, l.whole = true := by
  cases l with
  | append eventId t w m =>
    simp only [step, appendQueueTransition] at hs
    split_ifs at hs
    split at hs <;> cases hs
    unfold appendJsonlThenWatermark
    cases w with
    | returned whole => cases m <;> exact whole_append_linesOf hfile hl
    | oserror | exception => exact whole_append_linesOf hfile hl
  | drainOne w m =>
    simp only [step] at hs
    split at hs <;> cases hs
    unfold QueueAuditWriter.drainOne
    split
    · cases m <;> exact hfile
    · cases w with
      | returned whole => cases m <;> exact whole_append_linesOf hfile hl
      | oserror | exception => exact whole_append_linesOf hfile hl
  | drainEnd =>
    cases hs
    unfold QueueAuditWriter.drainEnd
    split <;> exact hfile

def Written (s : State maxPending) (e : Nat) : Prop :=
  ∃ l ∈ s.file, l.returned = true ∧ l.eventId = e

def Waiting (s : State maxPending) (e : Nat) : Prop :=
  ∃ p ∈ s.pending.items, p.jsonlAppended = false ∧ p.eventId = e

def Dropped (s : State maxPending) (e : Nat) : Prop :=
  ∃ p ∈ s.dropped, p.jsonlAppended = false ∧ p.eventId = e

theorem written_pos_iff : 0 < written s e ↔ Written s e := by
  unfold written Written
  rw [countP_pos_iff]
  simp only [Bool.and_eq_true, decide_eq_true_eq]

theorem waiting_pos_iff : 0 < waiting s e ↔ Waiting s e := by
  unfold waiting Waiting lacksLine
  rw [countP_pos_iff]
  simp only [Bool.and_eq_true, Bool.not_eq_true', decide_eq_true_eq]

theorem lost_pos_iff : 0 < lost s e ↔ Dropped s e := by
  unfold lost Dropped lacksLine
  rw [countP_pos_iff]
  simp only [Bool.and_eq_true, Bool.not_eq_true', decide_eq_true_eq]

/-- In every state that appends and drains reach, each committed record has at most one append that
returned; it has one, or waits in the buffer without one, or was dropped without one, and only one of
these; a watermark is only on a row with such an append, and everything in the file is whole if no
`os.write` took a part of a line; and the drains write the buffered records in the order in which they
were buffered. -/
theorem committed_record_in_one_place (hpos : 0 < maxPending) {s : State maxPending}
    (h : Reach step anyStep State.init s) :
    (∀ row ∈ s.events,
      (s.file.countP fun l => l.returned && decide (l.eventId = row.eventId)) ≤ 1 ∧
      ((Written s row.eventId ∧ ¬ Waiting s row.eventId ∧ ¬ Dropped s row.eventId) ∨
        (¬ Written s row.eventId ∧ Waiting s row.eventId ∧ ¬ Dropped s row.eventId) ∨
        (¬ Written s row.eventId ∧ ¬ Waiting s row.eventId ∧ Dropped s row.eventId)) ∧
      (row.jsonlAppendedAt ≠ none → Written s row.eventId)) ∧
    (Reach step (fun _ l => wholeWrites l) State.init s → ∀ l ∈ s.file, l.whole = true) ∧
    s.drained.Sublist s.enqueued := by
  have hinv : Inv s := Reach.invariant Inv inv_init (fun _ l _ hs _ hstep => hs.step hpos l hstep) h
  refine ⟨fun row hrow => ?_, fun hwhole => ?_, ?_⟩
  · have hplace := hinv.place row.eventId
    have hone : (eventIds s.events).count row.eventId = 1 :=
      count_eq_one_of_mem hinv.nodup (mem_map_of_mem hrow)
    rw [hone] at hplace
    refine ⟨?_, ?_, fun hmark => written_pos_iff.mp (hinv.watermark row hrow hmark)⟩
    · show written s row.eventId ≤ 1
      omega
    · rw [← written_pos_iff, ← waiting_pos_iff, ← lost_pos_iff]
      omega
  · exact Reach.invariant (fun s => ∀ l ∈ s.file, l.whole = true) (fun _ hl => by cases hl)
      (fun _ l _ hfile hl hs => whole_step hfile l hl hs) hwhole
  · obtain ⟨past, henqueued, hpast | ⟨head, rest, hitems, -, hpast⟩⟩ := hinv.order
    · rw [henqueued]
      exact hpast.trans (sublist_append_left _ _)
    · rw [henqueued, hitems, map_cons, append_cons]
      exact hpast.trans (sublist_append_left _ _)

def sampleTransition : QueueTransition where
  eventType := .delivered
  messageId := "m1"
  fromState := some .queued
  toState := .delivered
  reason := none
  operator := none
  observedAt := "2026-01-01T00:00:02.000Z"
  sender := some ⟨"agt_00000000000a", "lead", .master, some "claude"⟩
  target := some ⟨"agt_00000000000b", "worker", .slave, some "codex"⟩
  excerpt := "hi"

/-- A record whose watermark failed is in the file and in the buffer at once; a line whose `fsync`
failed is written a second time by the next drain; and a row has its watermark although only a part of
its line was written. -/
theorem written_and_buffered_or_written_twice :
    (∃ s : State defaultMaxPending,
      run step State.init
        [.append 1 sampleTransition (.returned true) (.raised "OperationalError")] = some s ∧
      (∃ l ∈ s.file, l.eventId = 1) ∧ ∃ p ∈ s.pending.items, p.eventId = 1) ∧
    (∃ s : State defaultMaxPending,
      run step State.init [.append 1 sampleTransition (.oserror "OSError" (some true)) .committed,
          .drainOne (.returned true) .committed, .drainEnd] = some s ∧
      (s.file.filter fun l => decide (l.eventId = 1)).length = 2) ∧
    ∃ s : State defaultMaxPending,
      run step State.init [.append 1 sampleTransition (.returned false) .committed] = some s ∧
      (s.events.all fun row => row.jsonlAppendedAt.isSome) = true ∧
      s.events.length = 1 ∧ (s.file.filter Line.whole) = [] :=
  ⟨⟨_, rfl, ⟨_, mem_cons_self, rfl⟩, ⟨_, mem_cons_self, rfl⟩⟩, ⟨_, rfl, rfl⟩, ⟨_, rfl, rfl, rfl, rfl⟩⟩

def sampleDrain : List Label :=
  [.append 1 sampleTransition (.oserror "OSError" none) .committed,
    .drainOne (.returned true) .committed, .drainEnd]

theorem committed_record_in_one_place_drained :
    ∃ s : State defaultMaxPending, run step State.init sampleDrain = some s ∧
      s.events ≠ [] ∧ s.drained.Sublist s.enqueued ∧
      ∀ row ∈ s.events, row.jsonlAppendedAt ≠ none → Written s row.eventId := by
  obtain ⟨s, hrun, hevents⟩ : ∃ s : State defaultMaxPending,
      run step State.init sampleDrain = some s ∧ s.events ≠ [] :=
    ⟨_, rfl, cons_ne_nil _ _⟩
  have hplace := committed_record_in_one_place (by decide) (reach_of_run hrun)
  exact ⟨s, hrun, hevents, hplace.2.2, fun row hrow => (hplace.1 row hrow).2.2⟩

theorem drainPending_empties_one :
    ∃ s : State 1, run step State.init (sampleDrain.take 1) = some s ∧ s.pending.items.length = 1 ∧
      (drainPending (fun _ => (.returned true, .committed)) s).1.pending.items = [] :=
  ⟨_, rfl, rfl, (drainPending_empties (fun _ => ⟨rfl, rfl⟩) _).1⟩

end QueueAuditWriter

end AgentTower.Routing
