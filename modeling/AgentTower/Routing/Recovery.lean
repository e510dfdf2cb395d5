import AgentTower.Lib.Prog
import AgentTower.Routing.AuditWriter
import AgentTower.Routing.DaoInvariant

/-!
# The recovery pass at boot

`run_recovery_pass` fails every in-flight row and records one transition per row.  The `UPDATE` and the
audit rows are one transaction under `with_lock_retry`; the records for the JSONL file are collected in
a list by the audit callback.  A rolled-back attempt does not take back what it put into the list.

A lock conflict is given by its position in the attempt: `BEGIN IMMEDIATE`, the `UPDATE`, the audit
`INSERT`s and last the `COMMIT`.
-/

namespace AgentTower.Routing.Recovery

open Sql List
open MessageQueueDao QueueAuditWriter
open Prog (bind_ok bind_raised eval modify modify_bind read read_bind)

variable {maxPending : Nat}

/-- The daemon at boot.  `conflicts` has one position for each attempt that will meet a lock, in
order; `budget` counts down the statements that the attempt under way has left before its own. -/
structure Boot (maxPending : Nat) where
  messageQueue : MessageQueue
  audit : QueueAuditWriter.State maxPending
  pendingJsonl : List (Nat × QueueTransition)
  budget : Option Nat
  conflicts : List Nat

abbrev Run (maxPending : Nat) (α : Type) := Prog (Boot maxPending) PyExc α

def statement : Run maxPending Unit := fun s =>
  match s.budget with
  | some 0 => (.raised (operationalError "database is locked"), s)
  | some (n + 1) => (.ok (), { s with budget := some n })
  | none => (.ok (), s)

def nextAttempt : Run maxPending Unit := fun s =>
  match s.conflicts with
  | [] => (.ok (), { s with budget := none })
  | k :: rest => (.ok (), { s with budget := some k, conflicts := rest })

def nextEventId (events : List EventRow) : Nat := (eventIds events).foldl max 0 + 1

def recoveredTransition (ts : String) (r : String × EnvelopeIdentity × EnvelopeIdentity) :
    QueueTransition where
  eventType := .failed
  messageId := r.1
  fromState := some .queued
  toState := .failed
  reason := some (.failure .attemptInterrupted)
  operator := none
  observedAt := ts
  sender := some r.2.1
  target := some r.2.2
  excerpt := ""

/-- The body of the loop in `_audit_recovered`. -/
def auditRecoveredRow (ts : String) (r : String × EnvelopeIdentity × EnvelopeIdentity) :
    Run maxPending Unit := do
  statement
  let eid ← read fun s => nextEventId s.audit.events
  let events ← eval fun s =>
    insertQueueTransitionInTx s.audit.events eid (recoveredTransition ts r)
  modify fun s =>
    { s with
      audit := { s.audit with events }
      -- a Python list: no rollback takes this back
      pendingJsonl := s.pendingJsonl ++ [(eid, recoveredTransition ts r)] }

section

variable (ts : String) (rows : List (String × EnvelopeIdentity × EnvelopeIdentity))

def auditRecovered :
    Run maxPending Unit :=
  Prog.forEach (auditRecoveredRow ts) rows

/-- The statements between `BEGIN IMMEDIATE` and `COMMIT`. -/
def recoverBody :
    Run maxPending Nat := do
  -- the `UPDATE`
  statement
  let count ← read fun s => s.messageQueue.rowcount QueueRow.inFlight
  let recovered ← eval fun s => recoverInFlightRows s.messageQueue ts
  modify fun s => { s with messageQueue := recovered }
  auditRecovered ts rows
  -- `COMMIT`
  statement
  pure count

end

def rollback (queue : MessageQueue) (events : List EventRow) : Run maxPending Unit :=
  modify fun s => { s with messageQueue := queue, audit := { s.audit with events } }

def recoverAttempt (ts : String) (rows : List (String × EnvelopeIdentity × EnvelopeIdentity)) :
    Run maxPending Nat := do
  nextAttempt
  -- `BEGIN IMMEDIATE`, before the `try`
  statement
  let queue ← read Boot.messageQueue
  let events ← read fun s => s.audit.events
  Prog.tryExcept (recoverBody ts rows) fun e => do
    rollback queue events
    Prog.raise e

def withLockRetry {α : Type} (op : Run maxPending α) : Run maxPending α :=
  Prog.retry isLockConflict lockRetryExhausted op lockRetries

/-- The JSONL appends after the commit.  The file takes no SQLite lock; a watermark may still meet
one, and is not retried. -/
def appendAll (marks : Nat → MarkOutcome) (ts : String) :
    Nat → List (Nat × QueueTransition) → QueueAuditWriter.State maxPending →
      QueueAuditWriter.State maxPending
  | _, [], a => a
  | i, (eid, payload) :: rest, a =>
    appendAll marks ts (i + 1) rest (appendJsonlThenWatermark a eid payload ts (.returned true) (marks i))

def runRecoveryPass (marks : Nat → MarkOutcome) (ts : String) : Run maxPending Nat := do
  let rows ← read fun s => snapshotInFlightIdentities s.messageQueue
  if rows = [] then
    pure 0
  else do
    -- made once, outside the retried operation
    modify fun s => { s with pendingJsonl := [] }
    let count ← withLockRetry (recoverAttempt ts rows)
    modify fun s => { s with audit := appendAll marks ts 0 s.pendingJsonl s.audit }
    pure count

/-! ## One attempt -/

def recordsFrom (ts : String) :
    Nat → List (String × EnvelopeIdentity × EnvelopeIdentity) → List (Nat × QueueTransition)
  | _, [] => []
  | eid, r :: rows => (eid, recoveredTransition ts r) :: recordsFrom ts (eid + 1) rows

theorem length_recordsFrom (ts : String) (eid : Nat)
    (rows : List (String × EnvelopeIdentity × EnvelopeIdentity)) :
    (recordsFrom ts eid rows).length = rows.length := by
  induction rows generalizing eid with
  | nil => rfl
  | cons r rows ih => rw [recordsFrom, length_cons, length_cons, ih]

def auditRowsFrom (ts : String) :
    Nat → List (String × EnvelopeIdentity × EnvelopeIdentity) → List EventRow
  | _, [] => []
  | eid, r :: rows => ⟨eid, .failed, r.2.2.agentId, ts, "", none⟩ :: auditRowsFrom ts (eid + 1) rows

/-- The state after the callback went through `rows`. -/
def withRecords (ts : String) (s : Boot maxPending)
    (rows : List (String × EnvelopeIdentity × EnvelopeIdentity)) (budget : Option Nat) :
    Boot maxPending :=
  { s with
    audit := { s.audit with
      events := s.audit.events ++ auditRowsFrom ts (nextEventId s.audit.events) rows }
    pendingJsonl := s.pendingJsonl ++ recordsFrom ts (nextEventId s.audit.events) rows
    budget }

section Attempt

variable {ts : String} {s : Boot maxPending} {n : Nat}
  {r : String × EnvelopeIdentity × EnvelopeIdentity}
  {rows : List (String × EnvelopeIdentity × EnvelopeIdentity)}

theorem statement_some (h : s.budget = some (n + 1)) :
    statement s = (.ok (), { s with budget := some n }) := by
  unfold statement
  rw [h]

theorem statement_none (h : s.budget = none) : statement s = (.ok (), s) := by
  unfold statement
  rw [h]

theorem statement_zero (h : s.budget = some 0) :
    statement s = (.raised (operationalError "database is locked"), s) := by
  unfold statement
  rw [h]

theorem nextEventId_append_singleton (events : List EventRow) (row : EventRow)
    (h : row.eventId = nextEventId events) :
    nextEventId (events ++ [row]) = nextEventId events + 1 := by
  unfold nextEventId eventIds at *
  rw [map_append, foldl_append, map_singleton, h]
  simp only [foldl_cons, foldl_nil]
  omega

theorem withRecords_nil : withRecords ts s [] s.budget = s := by
  unfold withRecords recordsFrom auditRowsFrom
  simp only [append_nil]

theorem withRecords_cons (b b' : Option Nat) :
    withRecords ts (withRecords ts s [r] b) rows b' = withRecords ts s (r :: rows) b' := by
  have hnext := nextEventId_append_singleton s.audit.events
    ⟨nextEventId s.audit.events, .failed, r.2.2.agentId, ts, "", none⟩ rfl
  unfold withRecords
  simp only [recordsFrom, auditRowsFrom, hnext, append_assoc, singleton_append]

theorem auditRecoveredRow_ok {b : Option Nat} (h : statement s = (.ok (), { s with budget := b })) :
    auditRecoveredRow ts r s = (.ok (), withRecords ts s [r] b) := by
  unfold auditRecoveredRow
  rw [bind_ok h]
  rfl

theorem auditRecovered_none (h : s.budget = none) :
    auditRecovered ts rows s = (.ok (), withRecords ts s rows none) := by
  induction rows generalizing s with
  | nil =>
    rw [← h, withRecords_nil]
    rfl
  | cons r rows ih =>
    have hrow : auditRecoveredRow ts r s = (.ok (), withRecords ts s [r] none) :=
      auditRecoveredRow_ok (by rw [statement_none h, ← h])
    show (auditRecoveredRow ts r >>= fun _ => auditRecovered ts rows) s = _
    rw [bind_ok hrow, ih rfl, withRecords_cons]

theorem auditRecovered_some (h : s.budget = some n) :
    auditRecovered ts rows s =
      if rows.length ≤ n then (.ok (), withRecords ts s rows (some (n - rows.length)))
      else (.raised (operationalError "database is locked"),
        withRecords ts s (rows.take n) (some 0)) := by
  -- every row takes one statement from the budget
  induction rows generalizing s n with
  | nil =>
    rw [length_nil, if_pos (Nat.zero_le n), Nat.sub_zero, ← h, withRecords_nil]
    rfl
  | cons r rows ih =>
    show (auditRecoveredRow ts r >>= fun _ => auditRecovered ts rows) s = _
    cases n with
    | zero =>
      have hrow : auditRecoveredRow ts r s
          = (.raised (operationalError "database is locked"), s) := by
        unfold auditRecoveredRow
        rw [bind_raised (statement_zero h)]
      rw [bind_raised hrow, if_neg (by simp), take_zero, ← h, withRecords_nil]
    | succ n =>
      have hrow : auditRecoveredRow ts r s = (.ok (), withRecords ts s [r] (some n)) :=
        auditRecoveredRow_ok (statement_some h)
      rw [bind_ok hrow, ih rfl]
      simp only [length_cons, Nat.add_le_add_iff_right, Nat.add_sub_add_right,
        take_succ_cons, withRecords_cons]

theorem recordsFrom_take (eid j : Nat) :
    recordsFrom ts eid (rows.take j) = (recordsFrom ts eid rows).take j := by
  induction rows generalizing eid j with
  | nil => simp [recordsFrom]
  | cons r rows ih =>
    cases j with
    | zero => rfl
    | succ j => rw [take_succ_cons, recordsFrom, recordsFrom, take_succ_cons, ih]

variable {q : MessageQueue} (hq : recoverInFlightRows s.messageQueue ts = .ok q)

include hq

theorem recoverBody_ok (h : s.budget = none) :
    recoverBody ts rows s = (.ok (s.messageQueue.rowcount QueueRow.inFlight),
          withRecords ts { s with messageQueue := q } rows none) := by
  have heval : eval (fun s : Boot maxPending => recoverInFlightRows s.messageQueue ts) s
      = (.ok q, s) := Prog.eval_ok hq
  have hrows : auditRecovered ts rows { s with messageQueue := q }
      = (.ok (), withRecords ts { s with messageQueue := q } rows none) := auditRecovered_none h
  unfold recoverBody
  rw [bind_ok (statement_none h), read_bind, bind_ok heval, modify_bind,
    bind_ok hrows, bind_ok (statement_none rfl)]
  rfl

/-- A conflict in the transaction: the tables are in some state of its course, and the list has
the records of the `INSERT`s that went through before. -/
theorem recoverBody_conflict (h : s.budget = some n) (hn : n < rows.length + 2) :
    ∃ queue events, recoverBody ts rows s = (.raised (operationalError "database is locked"),
          { s with
            messageQueue := queue
            audit := { s.audit with events }
            pendingJsonl := s.pendingJsonl
              ++ (recordsFrom ts (nextEventId s.audit.events) rows).take (n - 1)
            budget := some 0 }) := by
  unfold recoverBody
  cases n with
  | zero =>
    refine ⟨s.messageQueue, s.audit.events, ?_⟩
    rw [bind_raised (statement_zero h), Nat.zero_sub, take_zero, append_nil, ← h]
  | succ j =>
    have heval : eval (fun s : Boot maxPending => recoverInFlightRows s.messageQueue ts)
        { s with budget := some j } = (.ok q, { s with budget := some j }) := Prog.eval_ok hq
    have hrows : auditRecovered ts rows { s with messageQueue := q, budget := some j } = _ :=
      auditRecovered_some rfl
    rw [bind_ok (statement_some h), read_bind, bind_ok heval, modify_bind, Nat.add_sub_cancel]
    by_cases hlen : rows.length ≤ j
    · -- all `INSERT`s went through, the conflict is at `COMMIT`
      have hj : j = rows.length := by omega
      rw [if_pos hlen, hj, Nat.sub_self] at hrows
      refine ⟨q, s.audit.events ++ auditRowsFrom ts (nextEventId s.audit.events) rows, ?_⟩
      rw [hj, bind_ok hrows, bind_raised (statement_zero rfl),
        take_of_length_le (by rw [length_recordsFrom])]
      rfl
    · rw [if_neg hlen] at hrows
      refine ⟨q, s.audit.events ++ auditRowsFrom ts (nextEventId s.audit.events) (rows.take j), ?_⟩
      rw [bind_raised hrows, ← recordsFrom_take]
      rfl

theorem recoverAttempt_conflict {k : Nat} {rest : List Nat} (hc : s.conflicts = k :: rest)
    (hk : k < rows.length + 3) :
    recoverAttempt ts rows s = (.raised (operationalError "database is locked"),
          { s with
            pendingJsonl := s.pendingJsonl
              ++ (recordsFrom ts (nextEventId s.audit.events) rows).take (k - 2)
            budget := some 0
            conflicts := rest }) := by
  have hnext : nextAttempt s = (.ok (), { s with budget := some k, conflicts := rest }) := by
    unfold nextAttempt
    rw [hc]
  unfold recoverAttempt
  rw [bind_ok hnext]
  cases k with
  | zero =>
    rw [bind_raised (statement_zero rfl), Nat.zero_sub, take_zero, append_nil]
  | succ n =>
    obtain ⟨queue, events, hbody⟩ := recoverBody_conflict
      (s := { s with budget := some n, conflicts := rest }) hq rfl
      (show n < rows.length + 2 by omega)
    rw [bind_ok (statement_some rfl), read_bind, read_bind, Prog.tryExcept_raised hbody]
    rfl

theorem recoverAttempt_ok (hc : s.conflicts = []) :
    recoverAttempt ts rows s = (.ok (s.messageQueue.rowcount QueueRow.inFlight),
          withRecords ts { s with messageQueue := q } rows none) := by
  have hnext : nextAttempt s = (.ok (), { s with budget := none }) := by
    unfold nextAttempt
    rw [hc]
  have hbody : recoverBody ts rows { s with budget := none } = _ := recoverBody_ok hq rfl
  unfold recoverAttempt
  rw [bind_ok hnext, bind_ok (statement_none rfl), read_bind, read_bind, Prog.tryExcept_ok hbody]
  rfl

end Attempt

variable {ts : String} {rows : List (String × EnvelopeIdentity × EnvelopeIdentity)}

/-- After the conflicts of the pattern the transaction commits; the list has the records of every
attempt, the failed ones included. -/
theorem withLockRetry_recoverAttempt {s : Boot maxPending} {q : MessageQueue}
    (hq : recoverInFlightRows s.messageQueue ts = .ok q)
    (hsurvived : s.conflicts.length ≤ lockRetries) (hmet : ∀ k ∈ s.conflicts, k < rows.length + 3) :
    withLockRetry (recoverAttempt ts rows) s = (.ok (s.messageQueue.rowcount QueueRow.inFlight),
          { s with
            messageQueue := q
            audit := { s.audit with
              events := s.audit.events ++ auditRowsFrom ts (nextEventId s.audit.events) rows }
            pendingJsonl := s.pendingJsonl
              ++ (s.conflicts.flatMap fun k =>
                (recordsFrom ts (nextEventId s.audit.events) rows).take (k - 2))
              ++ recordsFrom ts (nextEventId s.audit.events) rows
            budget := none
            conflicts := [] }) := by
  unfold withLockRetry
  generalize lockRetries = retries at hsurvived
  -- induction on the conflicts still to come, over the state that they have left so far
  induction hc : s.conflicts generalizing s retries with
  | nil =>
    rw [Prog.retry_ok retries (recoverAttempt_ok hq hc), flatMap_nil, append_nil]
    unfold withRecords
    simp only [hc]
  | cons k rest ih =>
    rw [hc] at hsurvived hmet
    obtain ⟨retries, rfl⟩ : ∃ m, retries = m + 1 := ⟨retries - 1, by
      rw [length_cons] at hsurvived
      omega⟩
    have hattempt := recoverAttempt_conflict hq hc (hmet k mem_cons_self)
    rw [Prog.retry_succ retries hattempt (by decide)]
    rw [ih (by exact hq) (fun k' hk' => hmet k' (mem_cons_of_mem _ hk')) retries
      (by simpa using hsurvived) rfl]
    simp only [flatMap_cons, append_assoc]

def clearWatermark (row : EventRow) : EventRow := { row with jsonlAppendedAt := none }

theorem map_clearWatermark_mark (events : List EventRow) (e : Nat) (ts : String) :
    (markJsonlAppended events e ts).map clearWatermark = events.map clearWatermark := by
  unfold markJsonlAppended
  rw [map_map]
  apply map_congr_left
  intro row _
  simp only [Function.comp]
  split <;> rfl

section

variable (marks : Nat → MarkOutcome) (ts : String) (i : Nat) (records : List (Nat × QueueTransition)) (a : QueueAuditWriter.State maxPending)

theorem appendAll_file :
    (appendAll marks ts i records a).file = a.file ++ records.map fun r => ⟨r.1, r.2, true, true⟩ := by
  induction records generalizing i a with
  | nil => simp [appendAll]
  | cons r records ih =>
    have hone : (appendJsonlThenWatermark a r.1 r.2 ts (.returned true) (marks i)).file
        = a.file ++ [⟨r.1, r.2, true, true⟩] := by
      unfold appendJsonlThenWatermark
      cases marks i <;> rfl
    rw [appendAll, ih, hone, map_cons, append_assoc]
    rfl

theorem appendAll_events :
    (appendAll marks ts i records a).events.map clearWatermark = a.events.map clearWatermark := by
  induction records generalizing i a with
  | nil => rfl
  | cons r records ih =>
    have hone : (appendJsonlThenWatermark a r.1 r.2 ts (.returned true) (marks i)).events.map
        clearWatermark = a.events.map clearWatermark := by
      unfold appendJsonlThenWatermark
      cases marks i with
      | committed => exact map_clearWatermark_mark _ _ _
      | raised excClass => rfl
    rw [appendAll, ih, hone]

end

/-! ## The pass -/

def inFlightRows (q : MessageQueue) : List QueueRow := q.rows.filter QueueRow.inFlight

def recoveryLines (file : List Line) (messageId : String) : Nat :=
  file.countP fun l =>
    decide (l.payload.messageId = messageId) &&
      decide (l.payload.reason = some (.failure .attemptInterrupted))

/-- What the pass is for: the in-flight rows are failed and no other row is touched, each has one
new audit row, and each has one new line in the file. -/
structure RecoveredOnce (ts : String) (s s' : Boot maxPending) : Prop where
  rows : ∀ k, s'.messageQueue.get k
    = (s.messageQueue.get k).map fun r => if r.inFlight then (recoveredPatch ts).set r else r
  auditRows : s'.audit.events.map clearWatermark = s.audit.events.map clearWatermark
    ++ auditRowsFrom ts (nextEventId s.audit.events) (snapshotInFlightIdentities s.messageQueue)
  lines : ∀ r ∈ inFlightRows s.messageQueue,
    recoveryLines s'.audit.file r.messageId = recoveryLines s.audit.file r.messageId + 1

def inFlightIds (q : MessageQueue) : List String := (inFlightRows q).map QueueRow.messageId

theorem nodup_inFlightIds (q : MessageQueue) : (inFlightIds q).Nodup :=
  q.primary.sublist (filter_sublist.map _)

theorem recordsFrom_messageIds (eid : Nat) :
    (recordsFrom ts eid rows).map (fun r => r.2.messageId) = rows.map Prod.fst := by
  induction rows generalizing eid with
  | nil => rfl
  | cons r rows ih => rw [recordsFrom, map_cons, map_cons, ih]; rfl

theorem snapshot_ids (q : MessageQueue) :
    (snapshotInFlightIdentities q).map Prod.fst = inFlightIds q := by
  unfold snapshotInFlightIdentities inFlightIds inFlightRows
  rw [map_map]
  rfl

theorem auditRowsFrom_clearWatermark (eid : Nat) :
    (auditRowsFrom ts eid rows).map clearWatermark = auditRowsFrom ts eid rows := by
  induction rows generalizing eid with
  | nil => rfl
  | cons r rows ih => rw [auditRowsFrom, map_cons, ih]; rfl

theorem reason_of_mem_recordsFrom {eid : Nat} {r : Nat × QueueTransition}
    (h : r ∈ recordsFrom ts eid rows) : r.2.reason = some (.failure .attemptInterrupted) := by
  induction rows generalizing eid with
  | nil => cases h
  | cons r' rows ih =>
    rcases mem_cons.mp h with rfl | hrest
    · rfl
    · exact ih hrest

theorem recoveryLines_append {eid : Nat} (file : List Line)
    {records : List (Nat × QueueTransition)} (messageId : String)
    (h : ∀ r ∈ records, r ∈ recordsFrom ts eid rows) :
    recoveryLines (file ++ records.map fun r => ⟨r.1, r.2, true, true⟩) messageId
      = recoveryLines file messageId + (records.map fun r => r.2.messageId).count messageId := by
  unfold recoveryLines
  rw [countP_append, countP_map, List.count, countP_map]
  congr 1
  apply countP_congr
  intro r hr
  simp [reason_of_mem_recordsFrom (h r hr)]

def repeatedIds (conflicts : List Nat) (ids : List String) : List String :=
  conflicts.flatMap fun k => ids.take (k - 2)

/-- No message is repeated if and only if no attempt failed after its first audit `INSERT`. -/
theorem repeatedIds_disjoint_iff (conflicts : List Nat) (ids : List String) :
    (∀ m ∈ ids, m ∉ repeatedIds conflicts ids) ↔ ids = [] ∨ ∀ k ∈ conflicts, k ≤ 2 := by
  unfold repeatedIds
  simp only [mem_flatMap, not_exists, not_and]
  constructor
  · intro h
    cases ids with
    | nil => exact .inl rfl
    | cons m ids =>
      right
      intro k hk
      by_contra hlate
      -- the first row is in the records of every attempt that failed later than that
      have hmem : m ∈ (m :: ids).take (k - 2) := by
        rw [show k - 2 = (k - 3) + 1 by omega, take_succ_cons]
        exact mem_cons_self
      exact h m mem_cons_self k hk hmem
  · rintro (rfl | hearly) m hm k hk
    · cases hm
    · rw [show k - 2 = 0 by have := hearly k hk; omega, take_zero]
      exact not_mem_nil

section Pass

variable {ts : String} {s : Boot maxPending} {q : MessageQueue}

variable (marks : Nat → MarkOutcome)

def passed (ts : String) (s : Boot maxPending) (q : MessageQueue) :
    Boot maxPending :=
  let rows := snapshotInFlightIdentities s.messageQueue
  let records := recordsFrom ts (nextEventId s.audit.events) rows
  let pendingJsonl := (s.conflicts.flatMap fun k => records.take (k - 2)) ++ records
  { s with
    messageQueue := q
    audit := appendAll marks ts 0 pendingJsonl { s.audit with
      events := s.audit.events ++ auditRowsFrom ts (nextEventId s.audit.events) rows }
    pendingJsonl
    budget := none
    conflicts := [] }

theorem runRecoveryPass_eq (hq : recoverInFlightRows s.messageQueue ts = .ok q)
    (hsurvived : s.conflicts.length ≤ lockRetries)
    (hmet : ∀ k ∈ s.conflicts, k < (inFlightRows s.messageQueue).length + 3) :
    runRecoveryPass marks ts s =
      if inFlightRows s.messageQueue = [] then (.ok 0, s)
      else (.ok (inFlightRows s.messageQueue).length, passed marks ts s q) := by
  have hlength : (snapshotInFlightIdentities s.messageQueue).length
      = (inFlightRows s.messageQueue).length := length_map _
  unfold runRecoveryPass
  rw [read_bind]
  by_cases hrows : inFlightRows s.messageQueue = []
  · have hsnapshot : snapshotInFlightIdentities s.messageQueue = [] := by
      rw [← length_eq_zero_iff, hlength, hrows, length_nil]
    rw [if_pos hsnapshot, if_pos hrows]
    rfl
  · have hsnapshot : snapshotInFlightIdentities s.messageQueue ≠ [] := by
      rw [← length_pos_iff, hlength]
      exact length_pos_iff.mpr hrows
    have hretry := withLockRetry_recoverAttempt (s := { s with pendingJsonl := [] })
      hq hsurvived (by rw [hlength]; exact hmet)
    rw [if_neg hsnapshot, if_neg hrows, modify_bind, bind_ok hretry, modify_bind]
    have hcount : s.messageQueue.rowcount QueueRow.inFlight
        = (inFlightRows s.messageQueue).length := countP_eq_length_filter
    rw [← hcount]
    rfl

theorem passed_lines (messageId : String) :
    recoveryLines (passed marks ts s q).audit.file messageId = recoveryLines s.audit.file messageId
        + ((repeatedIds s.conflicts (inFlightIds s.messageQueue)).count messageId
          + (inFlightIds s.messageQueue).count messageId) := by
  have hrecords : ∀ r ∈ (passed marks ts s q).pendingJsonl,
      r ∈ recordsFrom ts (nextEventId s.audit.events) (snapshotInFlightIdentities s.messageQueue) := by
    intro r hr
    rcases mem_append.mp hr with hfailed | hlast
    · obtain ⟨k, -, hk⟩ := mem_flatMap.mp hfailed
      exact mem_of_mem_take hk
    · exact hlast
  show recoveryLines (appendAll _ _ _ (passed marks ts s q).pendingJsonl _).file messageId = _
  rw [appendAll_file, recoveryLines_append _ _ hrecords]
  simp only [passed, map_append, count_append, map_flatMap, map_take, recordsFrom_messageIds, snapshot_ids]
  rfl

theorem passed_recoveredOnce_iff (hq : recoverInFlightRows s.messageQueue ts = .ok q) :
    RecoveredOnce ts s (passed marks ts s q) ↔
      ∀ m ∈ inFlightIds s.messageQueue,
        m ∉ repeatedIds s.conflicts (inFlightIds s.messageQueue) := by
  have hone : ∀ m ∈ inFlightIds s.messageQueue, (inFlightIds s.messageQueue).count m = 1 :=
    fun m hm => count_eq_one_of_mem (nodup_inFlightIds _) hm
  constructor
  · intro h m hm
    obtain ⟨r, hr, rfl⟩ := mem_map.mp hm
    have hlines := h.lines r hr
    rw [passed_lines, hone _ hm] at hlines
    exact count_eq_zero.mp (by omega)
  · intro h
    refine ⟨recoverInFlightRows_ok hq, ?_, fun r hr => ?_⟩
    · show (appendAll _ _ _ _ _).events.map clearWatermark = _
      rw [appendAll_events, map_append, auditRowsFrom_clearWatermark]
    · have hm : r.messageId ∈ inFlightIds s.messageQueue := mem_map_of_mem hr
      rw [passed_lines, hone _ hm, count_eq_zero.mpr (h _ hm)]

end Pass

/-- For every queue that the DAO can leave behind and every pattern of conflicts that the retries
survive, the pass returns; each in-flight row is then failed with one audit row and one line, and
no other row is touched, if and only if there was no in-flight row or no attempt met its lock
after its first audit `INSERT` had gone through. -/
theorem recoveredOnce_iff {s : Boot maxPending} (hqueue : DaoReach Table.empty s.messageQueue)
    (hsurvived : s.conflicts.length ≤ lockRetries)
    (hmet : ∀ k ∈ s.conflicts, k < (inFlightRows s.messageQueue).length + 3)
    (marks : Nat → MarkOutcome) (ts : String) :
    ∃ s', runRecoveryPass marks ts s = (.ok (inFlightRows s.messageQueue).length, s') ∧
      (RecoveredOnce ts s s' ↔
        inFlightRows s.messageQueue = [] ∨ ∀ k ∈ s.conflicts, k ≤ 2) := by
  have hcoherent : MessageQueue.Coherent s.messageQueue := hqueue.coherent_of_empty
  obtain ⟨q, hq⟩ := recoverInFlightRows_succeeds hcoherent ts
  have hrun := runRecoveryPass_eq marks hq hsurvived hmet
  by_cases hrows : inFlightRows s.messageQueue = []
  · rw [if_pos hrows] at hrun
    refine ⟨s, by rw [hrun, hrows]; rfl, fun _ => .inl hrows, fun _ => ?_⟩
    have hsnapshot : snapshotInFlightIdentities s.messageQueue = [] := by
      show (inFlightRows s.messageQueue).map _ = []
      rw [hrows, map_nil]
    refine ⟨fun k => ?_, ?_, fun r hr => ?_⟩
    · cases hget : s.messageQueue.get k with
      | none => rfl
      | some r =>
        have hflight : r.inFlight ≠ true := filter_eq_nil_iff.mp hrows r (Table.mem_of_get hget)
        rw [Option.map_some, if_neg hflight]
    · rw [hsnapshot]
      exact (append_nil _).symm
    · rw [hrows] at hr
      cases hr
  · rw [if_neg hrows] at hrun
    refine ⟨_, hrun, ?_⟩
    rw [passed_recoveredOnce_iff marks hq, repeatedIds_disjoint_iff]
    exact or_congr_left map_eq_nil_iff

def sampleBoot (conflicts : List Nat) : Boot defaultMaxPending where
  messageQueue := (sampleDelivery.take 2).foldl DaoOp.perform Table.empty
  audit := .init
  pendingJsonl := []
  budget := none
  conflicts := conflicts

/-- A lock met at the `COMMIT` of the first attempt: the second attempt goes through, and the file
has the recovery line twice. -/
theorem commit_conflict_repeats_line :
    ∃ s', runRecoveryPass (fun _ => .committed) "2026-01-01T00:01:00.000Z" (sampleBoot [3])
        = (.ok 1, s') ∧
      inFlightIds (sampleBoot [3]).messageQueue = ["m1"] ∧
      recoveryLines s'.audit.file "m1" = 2 :=
  ⟨_, rfl, by decide, by decide⟩

/-- A lock met at `BEGIN IMMEDIATE` does no harm. -/
theorem recoveredOnce_sampleBoot :
    ∃ s', runRecoveryPass (fun _ => .committed) "2026-01-01T00:01:00.000Z" (sampleBoot [0])
        = (.ok (inFlightRows (sampleBoot [0]).messageQueue).length, s') ∧
      RecoveredOnce "2026-01-01T00:01:00.000Z" (sampleBoot [0]) s' := by
  obtain ⟨s', hrun, hiff⟩ := recoveredOnce_iff (s := sampleBoot [0])
    (daoReach_foldl Table.empty (sampleDelivery.take 2)) (by decide) (by decide)
    (fun _ => .committed) "2026-01-01T00:01:00.000Z"
  exact ⟨s', hrun, hiff.mpr (.inr (by decide))⟩

end AgentTower.Routing.Recovery
