import AgentTower.Events.Synthesis
import AgentTower.Events.Writer
import AgentTower.Lib.Log
import Mathlib.Data.Finset.Dedup

/-!
# The JSONL copies of the reader's events

After its transaction the reader appends a line for each event to the JSONL file, sets
`jsonl_appended_at` and notifies the followers; once a cycle it does so for the rows without a mark.
Appends and marks fail in every way, and the process may die anywhere.
-/

namespace AgentTower.Events

open List

open Routing (EventType)
open Logs

/-! ## The table -/

def eventTypes : List EventType :=
  [.activity, .waitingForInput, .completed, .error, .testFailed, .testPassed, .manualReviewNeeded,
    .longRunning, .paneExited, .swarmMemberReported]

structure CommittedEvent where
  eventId : Nat
  row : EventRow
  deriving DecidableEq, Repr

namespace CommittedEvent

def classified (e : CommittedEvent) : Bool := decide (e.row.eventType ∈ eventTypes)

def marked (e : CommittedEvent) : Bool := e.row.jsonlAppendedAt.isSome

def pending (e : CommittedEvent) : Bool := e.classified && !e.marked

end CommittedEvent

open CommittedEvent (classified eventId marked pending)

abbrev EventLog := Log CommittedEvent eventId

namespace EventLog

def insertEvent (t : EventLog) (row : EventRow) : EventLog := t.push (⟨·, row⟩) fun _ => rfl

def insertEvents (t : EventLog) : List EventRow → EventLog × List CommittedEvent
  | [] => (t, [])
  | row :: rows =>
    let (t', committed) := insertEvents (insertEvent t row) rows
    (t', ⟨t.maxId + 1, row⟩ :: committed)

def setMark (eventId : Nat) (tsIso : String) (e : CommittedEvent) : CommittedEvent :=
  if e.eventId = eventId ∧ e.row.jsonlAppendedAt = none then
    { e with row := { e.row with jsonlAppendedAt := some tsIso } }
  else e

theorem eventId_setMark (eventId : Nat) (tsIso : String) (e : CommittedEvent) :
    (setMark eventId tsIso e).eventId = e.eventId := by
  unfold setMark
  split <;> rfl

def markJsonlAppended (t : EventLog) (eventId : Nat) (tsIso : String) : EventLog :=
  t.map (setMark eventId tsIso) (eventId_setMark eventId tsIso)

def pendingRows (t : EventLog) : List CommittedEvent := t.rows.filter pending

def selectPendingJsonl (t : EventLog) (limit : Nat) : List CommittedEvent := (pendingRows t).take limit

end EventLog

/-! ## The file -/

/-- The payload of a line: every column but the mark. -/
structure JsonlRecord where
  eventId : Nat
  row : EventRow
  deriving DecidableEq, Repr

def CommittedEvent.record (e : CommittedEvent) : JsonlRecord :=
  ⟨e.eventId, { e.row with jsonlAppendedAt := none }⟩

/-- What one `os.write` has left in the file: the line with its newline, or the beginning of it.  The
other components that write to the file have no record here. -/
structure JsonlPiece where
  record : Option JsonlRecord
  whole : Bool
  deriving DecidableEq, Repr

/-- The records of the lines of the file; what comes after a part of a line is on the same line. -/
def linesFrom : Bool → List JsonlPiece → List JsonlRecord
  | _, [] => []
  | atStart, p :: rest =>
    (if atStart && p.whole then p.record.toList else []) ++ linesFrom p.whole rest

def piecesOf (written : Option Bool) (e : CommittedEvent) : List JsonlPiece :=
  written.toList.map fun whole => ⟨some e.record, whole⟩

/-- How the transaction of a mark ends; a process that dies may have committed. -/
inductive MarkOutcome where
  | committed
  | sqliteError
  | exception
  | died (committed : Bool)
  deriving DecidableEq, Repr

/-! ## The reader -/

/-- `_append_mark_and_notify` of the events of a transaction, or `_retry_pending_jsonl_appends`. -/
inductive JsonlPass where
  | emit
  | retry
  deriving DecidableEq, Repr

/-- `todo` are the events that the pass has still to come to. -/
inductive JsonlPhase where
  | working (pass : JsonlPass) (todo : List CommittedEvent)
  | appended (pass : JsonlPass) (e : CommittedEvent) (todo : List CommittedEvent)
  | notifying (e : CommittedEvent) (todo : List CommittedEvent)
  deriving DecidableEq, Repr

namespace JsonlPhase

def idle : JsonlPhase := .working .emit []

def unmarked : JsonlPhase → List CommittedEvent
  | .working _ todo => todo
  | .appended _ e todo => e :: todo
  | .notifying _ todo => todo

def copied : JsonlPhase → Option Nat
  | .appended _ e _ => some e.eventId
  | _ => none

def notifies : JsonlPhase → Option Nat
  | .notifying e _ => some e.eventId
  | _ => none

end JsonlPhase

/-- The last three fields are history: the notified rows, the rows whose mark failed or was
interrupted, and the rows whose append raised when the line was in the file. -/
structure JsonlState where
  events : EventLog
  file : List JsonlPiece
  phase : JsonlPhase
  notified : List Nat
  interrupted : List Nat
  lateErrors : List Nat

def JsonlState.init : JsonlState := ⟨Log.empty, [], .idle, [], [], []⟩

/-- A transaction of the reader that inserts events. -/
inductive Emission where
  | batch (a : LogAttachmentRecord) (events : List PendingEvent)
  | synthetic (eventType : EventType) (ruleId : String) (a : LogAttachmentRecord)
      (row : LogOffsetRecord) (nowIso : String)

def Emission.rows : Emission → List EventRow
  | .batch a events => events.map (PendingEvent.row a)
  | .synthetic eventType ruleId a row nowIso => [syntheticRow eventType ruleId a row nowIso]

inductive JsonlLabel where
  | auditInsert (row : EventRow)
  | auditMark (eventId : Nat) (tsIso : String)
  | otherAppend (whole : Bool)
  | emit (source : Emission)
  | retry
  | append (o : AppendOutcome)
  /-- The process dies in the append. -/
  | appendDied (written : Option Bool)
  | mark (nowIso : String) (o : MarkOutcome)
  | notify (registered : Bool)
  | crash

namespace JsonlState

variable (s : JsonlState) (pass : JsonlPass) (e : CommittedEvent) (todo : List CommittedEvent)

def afterAppend (o : AppendOutcome) : JsonlState :=
  let s₁ := { s with file := s.file ++ piecesOf o.written e }
  let failed := { s₁ with
    lateErrors := if o.written = some true then s.lateErrors ++ [e.eventId] else s.lateErrors }
  match o with
  -- what `os.write` has returned is not looked at
  | .returned _ => { s₁ with phase := .appended pass e todo }
  | .oserror _ _ => { failed with phase := .working pass todo }
  -- no handler before the loop of the reader: the pass is over
  | .exception _ _ => { failed with phase := .idle }

def afterAppendDied (written : Option Bool) : JsonlState :=
  { s with
    file := s.file ++ piecesOf written e
    phase := .idle
    interrupted := if written = some true then s.interrupted ++ [e.eventId] else s.interrupted }

def afterMark (nowIso : String) (o : MarkOutcome) : JsonlState :=
  let marked := { s with events := s.events.markJsonlAppended e.eventId nowIso }
  let failed := { s with interrupted := s.interrupted ++ [e.eventId] }
  match o, pass with
  | .committed, .emit => { marked with phase := .notifying e todo }
  | .committed, .retry => { marked with phase := .working .retry todo }
  | .sqliteError, .emit => { failed with phase := .working .emit todo }
  -- the retry pass handles `OSError` only
  | .sqliteError, .retry => { failed with phase := .idle }
  | .exception, _ => { failed with phase := .idle }
  | .died true, _ => { marked with phase := .idle }
  | .died false, _ => { failed with phase := .idle }

end JsonlState

def retryLimit : Nat := 50

/-- One thread emits and retries; the routing audit has its own rows and marks in the table, and its
own lines in the file. -/
def jsonlStep (s : JsonlState) : JsonlLabel → Option JsonlState
  | .auditInsert row =>
    if row.eventType ∈ eventTypes then none else some { s with events := s.events.insertEvent row }
  | .auditMark eventId tsIso =>
    if s.events.rows.any fun e => decide (e.eventId = eventId) && e.classified then none
    else some { s with events := s.events.markJsonlAppended eventId tsIso }
  | .otherAppend whole => some { s with file := s.file ++ [⟨none, whole⟩] }
  | .emit source =>
    match s.phase with
    | .working _ [] =>
      -- `insert_event` refuses any other type
      if source.rows.all fun row => decide (row.eventType ∈ eventTypes) then
        let (events, committed) := s.events.insertEvents source.rows
        some { s with events, phase := .working .emit committed }
      else none
    | _ => none
  | .retry =>
    match s.phase with
    | .working _ [] =>
      some { s with phase := .working .retry (s.events.selectPendingJsonl retryLimit) }
    | _ => none
  | .append o =>
    match s.phase with
    | .working pass (e :: todo) => some (s.afterAppend pass e todo o)
    | _ => none
  | .appendDied written =>
    match s.phase with
    | .working _ (e :: _) => some (s.afterAppendDied e written)
    | _ => none
  | .mark nowIso o =>
    match s.phase with
    | .appended pass e todo => some (s.afterMark pass e todo nowIso o)
    | _ => none
  | .notify registered =>
    match s.phase with
    | .notifying e todo =>
      some { s with
        phase := .working .emit todo
        notified := if registered then s.notified ++ [e.eventId] else s.notified }
    | _ => none
  | .crash =>
    some { s with phase := .idle, interrupted := s.interrupted ++ s.phase.copied.toList }

/-! ## The table as a set of items -/

namespace EventLog

variable {t : EventLog}

def itemIds (t : EventLog) : Finset Nat :=
  ((t.rows.filter classified).map eventId).toFinset

def markedIds (t : EventLog) : Finset Nat :=
  ((t.rows.filter fun e => e.classified && e.marked).map eventId).toFinset

variable {i eventId : Nat} {e : CommittedEvent} {tsIso : String}

theorem mem_itemIds : i ∈ itemIds t ↔ ∃ e ∈ t.rows, e.classified = true ∧ e.eventId = i := by
  simp [itemIds, and_assoc]

theorem mem_markedIds :
    i ∈ markedIds t ↔ ∃ e ∈ t.rows, e.classified = true ∧ e.marked = true ∧ e.eventId = i := by
  simp [markedIds, and_assoc]

theorem mem_pendingRows :
    e ∈ pendingRows t ↔ e ∈ t.rows ∧ e.classified = true ∧ e.marked = false := by
  simp [pendingRows, pending]

theorem not_mem_markedIds (he : e ∈ pendingRows t) : e.eventId ∉ markedIds t := by
  intro hmarked
  obtain ⟨hmem, -, hopen⟩ := mem_pendingRows.mp he
  obtain ⟨e', hmem', -, hmark, hid⟩ := mem_markedIds.mp hmarked
  rw [Log.eq_of_id hmem' hmem hid, hopen] at hmark
  cases hmark

theorem classified_setMark (eventId : Nat) (tsIso : String) (e : CommittedEvent) :
    (setMark eventId tsIso e).classified = e.classified := by
  unfold setMark
  split <;> rfl

theorem marked_setMark (eventId : Nat) (tsIso : String) (e : CommittedEvent) :
    (setMark eventId tsIso e).marked = (e.marked || decide (e.eventId = eventId)) := by
  unfold setMark CommittedEvent.marked
  split
  · rename_i h
    simp [h.1]
  · rename_i h
    by_cases hid : e.eventId = eventId
    · cases hmark : e.row.jsonlAppendedAt with
      | none => exact absurd ⟨hid, hmark⟩ h
      | some at' => rfl
    · simp [hid]

theorem setMark_of_ne (h : e.eventId ≠ eventId) : setMark eventId tsIso e = e :=
  if_neg fun hcond => h hcond.1

theorem itemIds_mark (t : EventLog) (eventId : Nat) (tsIso : String) :
    itemIds (markJsonlAppended t eventId tsIso) = itemIds t := by
  ext i
  simp only [mem_itemIds, markJsonlAppended, Log.map, mem_map, exists_exists_and_eq_and,
    classified_setMark, eventId_setMark]

theorem mem_markedIds_mark :
    i ∈ markedIds (markJsonlAppended t eventId tsIso) ↔
      i ∈ markedIds t ∨ i = eventId ∧ i ∈ itemIds t := by
  simp only [mem_markedIds, mem_itemIds, markJsonlAppended, Log.map, mem_map,
    exists_exists_and_eq_and, classified_setMark, eventId_setMark, marked_setMark,
    Bool.or_eq_true, decide_eq_true_eq]
  constructor
  · rintro ⟨e, he, hclass, hmark | hid, hi⟩
    · exact .inl ⟨e, he, hclass, hmark, hi⟩
    · exact .inr ⟨hi.symm.trans hid, e, he, hclass, hi⟩
  · rintro (⟨e, he, hclass, hmark, hi⟩ | ⟨hid, e, he, hclass, hi⟩)
    · exact ⟨e, he, hclass, .inl hmark, hi⟩
    · exact ⟨e, he, hclass, .inr (hi.trans hid), hi⟩

theorem pendingRows_mark (t : EventLog) (eventId : Nat) (tsIso : String) :
    pendingRows (markJsonlAppended t eventId tsIso) =
      (pendingRows t).filter fun e => decide (e.eventId ≠ eventId) := by
  unfold pendingRows markJsonlAppended Log.map
  rw [filter_map, filter_filter]
  have hpending : (pending ∘ setMark eventId tsIso) =
      fun e => decide (e.eventId ≠ eventId) && e.pending := by
    funext e
    simp only [Function.comp_apply, pending, classified_setMark, marked_setMark]
    by_cases hid : e.eventId = eventId
    · simp [hid]
    · simp [hid]
  rw [hpending]
  refine (map_congr_left fun e he => ?_).trans (map_id _)
  have hid : e.eventId ≠ eventId := by
    have htest := (mem_filter.mp he).2
    rw [Bool.and_eq_true, decide_eq_true_eq] at htest
    exact htest.1
  exact setMark_of_ne hid

theorem pendingRows_sorted (t : EventLog) :
    (pendingRows t).Pairwise fun a b => a.eventId < b.eventId := t.sorted.filter _

theorem insertEvents_rows (t : EventLog) (rows : List EventRow) :
    (insertEvents t rows).1.rows = t.rows ++ (insertEvents t rows).2 := by
  induction rows generalizing t with
  | nil => exact (append_nil _).symm
  | cons row rows ih =>
    rw [insertEvents, ih]
    show t.rows ++ [_] ++ _ = _
    rw [append_assoc]
    rfl

theorem row_mem_of_insertEvents {t : EventLog} {rows : List EventRow}
    (he : e ∈ (insertEvents t rows).2) : e.row ∈ rows := by
  induction rows generalizing t with
  | nil => cases he
  | cons row rows ih =>
    rcases mem_cons.mp he with rfl | he
    · exact mem_cons_self
    · exact mem_cons_of_mem _ (ih he)

end EventLog

end AgentTower.Events
