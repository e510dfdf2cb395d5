import AgentTower.Events.Debounce
import AgentTower.Logs.AttachHistory

/-!
# The events reader

`run_cycle_for_attachment` on the tables, the debounce windows and the log files, with everything that
changes those beside it.  A cycle of one attachment is one step; its transaction may fail, and then the
windows have changed and the tables have not.  Synthesized events and JSONL copies are not part of it.
-/

namespace AgentTower.Events

open Option

open Routing (EventType PaneKey)
open Logs

/-- The records before their `\r` is taken off; the part after the last newline stays in the file. -/
def completeRaw (raw : List UInt8) : List (List UInt8) := (raw.splitOn 10).dropLast

def endsWithCr (r : List UInt8) : Bool := decide (r.getLast? = some 13)

def stripCr (r : List UInt8) : List UInt8 := if endsWithCr r then r.dropLast else r

def splitCompleteRecords (raw : List UInt8) : List (List UInt8) × Nat × Nat :=
  if raw = [] then ([], 0, 0)
  else
    let complete := completeRaw raw
    -- the advance counts the bytes on disk, the `\r`s and newlines included
    (complete.map stripCr, (complete.map List.length).sum + complete.length, complete.length)

/-! ## One cycle -/

/-- The reader's configuration; `classify` is the decoding and the classifier together. -/
structure ReaderEnv where
  byteCap : Nat
  windowSeconds : Int
  classify : List UInt8 → ClassifierOutcome

/-- A row of `events` as the reader inserts it; the table is in `event_id` order. -/
structure EventRow where
  eventType : EventType
  agentId : String
  attachmentId : String
  logPath : String
  byteRangeStart : Nat
  byteRangeEnd : Nat
  lineOffsetStart : Nat
  lineOffsetEnd : Nat
  observedAt : String
  excerpt : String
  classifierRuleId : String
  debounceWindowId : Option String
  debounceCollapsedCount : Nat
  debounceWindowStartedAt : Option String
  debounceWindowEndedAt : Option String
  jsonlAppendedAt : Option String
  deriving DecidableEq, Repr

/-- The `CHECK`s of the table. -/
def EventRow.check (r : EventRow) : Bool :=
  decide (r.byteRangeStart ≤ r.byteRangeEnd ∧ r.lineOffsetStart ≤ r.lineOffsetEnd ∧
    1 ≤ r.debounceCollapsedCount)

def PendingEvent.row (a : LogAttachmentRecord) (ev : PendingEvent) : EventRow where
  eventType := ev.eventType
  agentId := a.agentId
  attachmentId := a.attachmentId
  logPath := a.logPath
  byteRangeStart := ev.byteRangeStart
  byteRangeEnd := ev.byteRangeEnd
  lineOffsetStart := ev.lineOffsetStart
  lineOffsetEnd := ev.lineOffsetEnd
  observedAt := ev.observedAt
  excerpt := ev.excerpt
  classifierRuleId := ev.ruleId
  debounceWindowId := ev.debounceWindowId
  debounceCollapsedCount := ev.debounceCollapsedCount
  debounceWindowStartedAt := ev.debounceWindowStartedAt
  debounceWindowEndedAt := ev.debounceWindowEndedAt
  jsonlAppendedAt := none

/-- The clock, the generated window ids, and which of the operations that can fail do not. -/
structure CycleInput where
  nowIso : String
  nowMonotonic : Int
  windowIds : List String
  recoveryCommits : Bool
  readable : Bool
  commits : Bool
  deriving DecidableEq, Repr

/-- A record as it was processed: the range that it was given, and whether `\r` was taken off. -/
structure ProcessedRecord where
  byteRangeStart : Nat
  byteRangeEnd : Nat
  cr : Bool
  deriving DecidableEq, Repr

/-- What a cycle has ready for its transaction; `records` is history. -/
structure Batch where
  windows : Windows
  events : List PendingEvent
  advanceBytes : Nat
  advanceLines : Nat
  records : List ProcessedRecord

/-- The loop over the complete records, here given before the `\r` is taken off: `byteStart` and
`line` are where the next record starts, `i` counts the records of the cycle. -/
def submitRecords (env : ReaderEnv) (attachmentId : String) (io : CycleInput) :
    List (List UInt8) → Windows → Nat → Nat → Nat →
      Windows × List PendingEvent × List ProcessedRecord
  | [], windows, _, _, _ => (windows, [], [])
  | raw :: rest, windows, byteStart, line, i =>
    let record := stripCr raw
    -- the end counts the stripped record and its newline
    let byteEnd := byteStart + record.length + 1
    let (windows₁, emitted) := windows.submit env.windowSeconds attachmentId (env.classify record)
      ⟨io.nowIso, io.nowMonotonic, byteStart, byteEnd, line, line + 1⟩ (io.windowIds.getD i "")
    let (windows₂, events, records) :=
      submitRecords env attachmentId io rest windows₁ byteEnd (line + 1) (i + 1)
    (windows₂, emitted ++ events, ⟨byteStart, byteEnd, endsWithCr raw⟩ :: records)

/-- A cycle without a complete record: there is a transaction only if a window is due. -/
def flushBatch (env : ReaderEnv) (attachmentId : String) (io : CycleInput) (windows : Windows) :
    Option Batch :=
  let (windows', expired) :=
    windows.flushExpired env.windowSeconds io.nowMonotonic io.nowIso attachmentId
  if expired = [] then none else some ⟨windows', expired, 0, 0, []⟩

def forcedBatch (env : ReaderEnv) (io : CycleInput) (windows : Windows) (row : LogOffsetRecord)
    (new : List UInt8) : Batch :=
  let byteEnd := row.byteOffset + new.length
  ⟨windows, [passThrough (env.classify new)
      ⟨io.nowIso, io.nowMonotonic, row.byteOffset, byteEnd, row.lineOffset, row.lineOffset⟩],
    new.length, 0, [⟨row.byteOffset, byteEnd, false⟩]⟩

def completeBatch (env : ReaderEnv) (attachmentId : String) (io : CycleInput) (windows : Windows)
    (row : LogOffsetRecord) (new : List UInt8) : Batch :=
  let (windows₁, events, records) :=
    submitRecords env attachmentId io (completeRaw new) windows row.byteOffset row.lineOffset 0
  let (windows₂, expired) :=
    windows₁.flushExpired env.windowSeconds io.nowMonotonic io.nowIso attachmentId
  let (_, advanceBytes, advanceLines) := splitCompleteRecords new
  ⟨windows₂, events ++ expired, advanceBytes, advanceLines, records⟩

def readBatch (env : ReaderEnv) (attachmentId : String) (io : CycleInput) (windows : Windows)
    (row : LogOffsetRecord) (new : List UInt8) : Option Batch :=
  if new = [] then flushBatch env attachmentId io windows
  else if (splitCompleteRecords new).1 = [] then
    if env.byteCap ≤ new.length then some (forcedBatch env io windows row new)
    else flushBatch env attachmentId io windows
  else some (completeBatch env attachmentId io windows row new)

def readBytes (content : List UInt8) (byteOffset cap : Nat) : List UInt8 :=
  (content.drop byteOffset).take cap

/-- The columns that the transaction of a batch writes to `log_offsets`. -/
def Batch.advance (b : Batch) (row : LogOffsetRecord) (nowIso : String) : LogOffsets.Advance where
  byteOffset := row.byteOffset + b.advanceBytes
  lineOffset := row.lineOffset + b.advanceLines
  -- the last event of the list, which need not be the one that ends last
  lastEventOffset := (b.events.getLast?.map PendingEvent.byteRangeEnd).getD row.lastEventOffset
  -- what the row had is written back; nothing stores what the reader has seen of the file
  fileInode := row.fileInode
  fileSizeSeen := row.fileSizeSeen
  lastOutputAt := if 0 < b.advanceBytes then some nowIso else row.lastOutputAt
  timestamp := nowIso

/-- `_commit_events_and_advance`; `none` is a transaction that was rolled back. -/
def commitEventsAndAdvance (t : LogTables) (events : List EventRow) (a : LogAttachmentRecord)
    (row : LogOffsetRecord) (b : Batch) (io : CycleInput) : Option (LogTables × List EventRow) :=
  let rows := b.events.map (PendingEvent.row a)
  -- one row that is refused takes the whole transaction with it
  if io.commits && rows.all EventRow.check then
    (LogOffsets.advanceOffset t.offsets a.agentId a.logPath (b.advance row io.nowIso)).map
      fun offsets => ({ t with offsets }, events ++ rows)
  else none

/-! ## The system -/

structure File where
  inode : String
  content : List UInt8
  deriving DecidableEq, Repr

def File.stat (f : File) : FileStat := ⟨f.inode, f.content.length⟩

structure Consumed where
  attachmentId : String
  agentPath : String × String
  record : ProcessedRecord
  deriving DecidableEq, Repr

/-- `consumed` and `seen` are history; `seen` has the inode of the file that the offsets count: the one
there when the row was made or set to zero, or at the last cycle that found a file. -/
structure State where
  tables : LogTables
  events : List EventRow
  windows : Windows
  files : String → Option File
  consumed : List Consumed
  seen : String × String → Option String

namespace State

def init : State := ⟨LogTables.empty, [], Dict.empty, fun _ => none, [], fun _ => none⟩

def write (s : State) (path : String) (f : Option File) : State :=
  { s with files := fun p => if p = path then f else s.files p }

def see (s : State) (k : String × String) (inode : Option String) : State :=
  { s with seen := fun j => if j = k then inode else s.seen j }

end State

def finishCycle (s : State) (a : LogAttachmentRecord) (row : LogOffsetRecord) (b : Batch)
    (io : CycleInput) : State :=
  match commitEventsAndAdvance s.tables s.events a row b io with
  -- the windows have changed already
  | none => { s with windows := b.windows }
  | some (tables, events) =>
    { s with
      tables
      events
      windows := b.windows
      consumed := s.consumed ++ b.records.map fun r => ⟨a.attachmentId, (a.agentId, a.logPath), r⟩ }

section

variable (env : ReaderEnv) (s : State) (a : LogAttachmentRecord) (io : CycleInput)

/-- The batch of a cycle whose file recovery found unchanged, with the offset row it starts from. -/
def cycleBatch :
    Option (LogOffsetRecord × Batch) :=
  match s.tables.offsets.get (a.agentId, a.logPath), s.files a.logPath with
  | some row, some f =>
    if io.readable then
      (readBatch env a.attachmentId io s.windows row
        (readBytes f.content row.byteOffset env.byteCap)).map fun b => (row, b)
    else none
  | _, _ => none

/-- `run_cycle_for_attachment` without the history. -/
def runCycle : State :=
  match readerCycleOffsetRecovery s.tables a.agentId a.logPath ((s.files a.logPath).map File.stat)
      io.nowIso with
  | none => s
  | some result =>
    if result.change ≠ .unchanged then
      -- whatever the change was, this cycle reads no bytes
      if io.recoveryCommits then { s with tables := result.tables } else s
    else
      match cycleBatch env s a io with
      | none => s
      | some (row, b) => finishCycle s a row b io

end

def recoveryHolds (s : State) (a : LogAttachmentRecord) (io : CycleInput) : Bool :=
  match readerCycleOffsetRecovery s.tables a.agentId a.logPath ((s.files a.logPath).map File.stat)
      io.nowIso with
  | none => false
  | some result => decide (result.change = .unchanged) || io.recoveryCommits

/-- A cycle that finds the file has seen its inode, unless its recovery was rolled back. -/
def runCycleForAttachment (env : ReaderEnv) (s : State) (a : LogAttachmentRecord)
    (io : CycleInput) : State :=
  match s.files a.logPath with
  | none => runCycle env s a io
  | some f =>
    if recoveryHolds s a io then
      (runCycle env s a io).see (a.agentId, a.logPath) (some f.inode)
    else runCycle env s a io

inductive Label where
  | attach (c : AttachCall) (o : Outside) (newInode : String)
  | detach (agentId : String) (o : Outside)
  | cascade (paneKeys : List PaneKey) (now : String)
  | cycle (attachmentId : String) (io : CycleInput)
  | restart
  | append (path : String) (bytes : List UInt8)
  | truncate (path : String) (size : Nat)
  | delete (path : String)
  | create (path : String) (f : File)
  deriving Repr

/-- `ensure_log_directory_and_file`. -/
def ensureFile (s : State) (path newInode : String) : State :=
  match s.files path with
  | some _ => s
  | none => s.write path (some ⟨newInode, []⟩)

/-- An attach that raises leaves everything as it is.  The offset row changes if it is made, or set
to zero; the file is then the one it counts. -/
def attach (s : State) (c : AttachCall) (o : Outside) (newInode : String) : State :=
  let s₁ := ensureFile s c.hostPath newInode
  let inode := (s₁.files c.hostPath).map File.inode
  -- the consistency check comes after the file has been made sure of
  match attachLogLocked s.tables c { o with stat := (s₁.files c.hostPath).map File.stat } with
  | .error _ => s
  | .ok attached =>
    let k := (c.agent.agentId, c.hostPath)
    let s₂ := { s₁ with tables := attached.tables }
    if attached.tables.offsets.get k = s.tables.offsets.get k then s₂ else s₂.see k inode

def step (env : ReaderEnv) (s : State) : Label → Option State
  | .attach c o newInode => some (attach s c o newInode)
  | .detach agentId o =>
    match detachLogLocked s.tables agentId o with
    | .error _ => some s
    | .ok detached =>
      some { s with tables := { s.tables with attachments := detached.attachments } }
  | .cascade paneKeys now =>
    (LogAttachments.cascadeToStaleForPanes s.tables.attachments paneKeys now).map fun attachments =>
      { s with tables := { s.tables with attachments } }
  | .cycle attachmentId io =>
    ((LogAttachments.listActiveAttachments s.tables.attachments).find? fun a =>
      decide (a.attachmentId = attachmentId)).map fun a => runCycleForAttachment env s a io
  -- the tables survive, the windows do not
  | .restart => some { s with windows := Dict.empty }
  | .append path bytes =>
    (s.files path).map fun f => s.write path (some { f with content := f.content ++ bytes })
  | .truncate path size =>
    (s.files path).map fun f => s.write path (some { f with content := f.content.take size })
  | .delete path => (s.files path).map fun _ => s.write path none
  | .create path f =>
    match s.files path with
    | none => some (s.write path (some f))
    | some _ => none

/-! ## What a cycle does -/

inductive CycleEffect (env : ReaderEnv) (s : State) (a : LogAttachmentRecord) (io : CycleInput) :
    State → Prop
  | nothing : CycleEffect env s a io s
  | recovered {result : ReaderCycleResult}
      (hrecovery : readerCycleOffsetRecovery s.tables a.agentId a.logPath
        ((s.files a.logPath).map File.stat) io.nowIso = some result)
      (hchange : result.change ≠ .unchanged) :
      CycleEffect env s a io { s with tables := result.tables }
  | failed {row : LogOffsetRecord} {b : Batch} (hbatch : cycleBatch env s a io = some (row, b))
      (hcommit : commitEventsAndAdvance s.tables s.events a row b io = none) :
      CycleEffect env s a io { s with windows := b.windows }
  | committed {row : LogOffsetRecord} {b : Batch} {offsets : LogOffsets}
      (hbatch : cycleBatch env s a io = some (row, b))
      (hadvance : LogOffsets.advanceOffset s.tables.offsets a.agentId a.logPath
        (b.advance row io.nowIso) = some offsets) :
      CycleEffect env s a io
        { s with
          tables := { s.tables with offsets }
          events := s.events ++ b.events.map (PendingEvent.row a)
          windows := b.windows
          consumed := s.consumed ++
            b.records.map fun r => ⟨a.attachmentId, (a.agentId, a.logPath), r⟩ }

variable {env : ReaderEnv} {s s' : State} {a : LogAttachmentRecord} {io : CycleInput}

theorem cycleBatch_eq_some {row : LogOffsetRecord} {b : Batch}
    (h : cycleBatch env s a io = some (row, b)) :
    s.tables.offsets.get (a.agentId, a.logPath) = some row ∧
    ∃ f, s.files a.logPath = some f ∧ readBatch env a.attachmentId io s.windows row
      (readBytes f.content row.byteOffset env.byteCap) = some b := by
  unfold cycleBatch at h
  split at h
  · rename_i row' f hrow hfile
    split at h
    · obtain ⟨b', hb', heq⟩ := map_eq_some_iff.mp h
      cases heq
      exact ⟨hrow, f, hfile, hb'⟩
    · cases h
  · cases h

theorem finishCycle_effect {row : LogOffsetRecord} {b : Batch}
    (hbatch : cycleBatch env s a io = some (row, b)) :
    CycleEffect env s a io (finishCycle s a row b io) := by
  unfold finishCycle
  cases hcommit : commitEventsAndAdvance s.tables s.events a row b io with
  | none => exact .failed hbatch hcommit
  | some committed =>
    unfold commitEventsAndAdvance at hcommit
    simp only at hcommit
    split at hcommit
    · obtain ⟨offsets, hadvance, rfl⟩ := map_eq_some_iff.mp hcommit
      exact .committed hbatch hadvance
    · cases hcommit

theorem runCycle_effect (env : ReaderEnv) (s : State) (a : LogAttachmentRecord) (io : CycleInput) :
    CycleEffect env s a io (runCycle env s a io) := by
  unfold runCycle
  split
  · exact .nothing
  · rename_i hrecovery
    split_ifs with hchange hcommits
    · exact .recovered hrecovery hchange
    · exact .nothing
    · split
      · exact .nothing
      · rename_i hbatch
        exact finishCycle_effect hbatch

theorem CycleEffect.seen (h : CycleEffect env s a io s') : s'.seen = s.seen := by
  cases h with
  | nothing | recovered | failed | committed => rfl

theorem step_cycle {attachmentId : String} (h : step env s (.cycle attachmentId io) = some s') :
    ∃ a ∈ LogAttachments.listActiveAttachments s.tables.attachments,
      a.attachmentId = attachmentId ∧ s' = runCycleForAttachment env s a io := by
  obtain ⟨a, ha, rfl⟩ := map_eq_some_iff.mp h
  exact ⟨a, List.mem_of_find?_eq_some ha, by simpa using List.find?_some ha, rfl⟩

theorem runCycleForAttachment_eq (env : ReaderEnv) (s : State) (a : LogAttachmentRecord)
    (io : CycleInput) :
    ∃ seen, runCycleForAttachment env s a io = { runCycle env s a io with seen } := by
  unfold runCycleForAttachment
  split
  · exact ⟨_, rfl⟩
  · split
    · exact ⟨_, rfl⟩
    · exact ⟨_, rfl⟩

theorem ensureFile_files (s : State) (path newInode : String) :
    ∃ f, (ensureFile s path newInode).files path = some f := by
  unfold ensureFile
  split
  · exact ⟨_, ‹_›⟩
  · exact ⟨_, if_pos rfl⟩

theorem ensureFile_eq (s : State) (path newInode : String) :
    ensureFile s path newInode
      = { s with files := (ensureFile s path newInode).files } := by
  unfold ensureFile
  split
  · rfl
  · rfl

theorem attach_cases (s : State) (c : AttachCall) (o : Outside) (newInode : String) :
    attach s c o newInode = s ∨
    ∃ f attached, (ensureFile s c.hostPath newInode).files c.hostPath = some f ∧
      attachLogLocked s.tables c { o with stat := some f.stat } = .ok attached ∧
      attach s c o newInode =
        { s with
          tables := attached.tables
          files := (ensureFile s c.hostPath newInode).files
          seen := fun j =>
            if j = (c.agent.agentId, c.hostPath) ∧
                attached.tables.offsets.get j ≠ s.tables.offsets.get j then some f.inode
            else s.seen j } := by
  obtain ⟨f, hf⟩ := ensureFile_files s c.hostPath newInode
  unfold attach
  simp only [hf, map_some]
  split
  · exact .inl rfl
  · rename_i attached hattach
    refine .inr ⟨f, attached, rfl, hattach, ?_⟩
    rw [ensureFile_eq]
    split
    · rename_i hsame
      congr 1
      funext j
      rw [if_neg]
      rintro ⟨rfl, hdiffers⟩
      exact hdiffers hsame
    · rename_i hdiffers
      unfold State.see
      congr 1
      funext j
      by_cases hj : j = (c.agent.agentId, c.hostPath)
      · rw [if_pos hj, if_pos ⟨hj, hj ▸ hdiffers⟩]
      · rw [if_neg hj, if_neg fun h => hj h.1]

structure Frame (s s' : State) : Prop where
  offsets : s'.tables.offsets = s.tables.offsets
  seen : s'.seen = s.seen
  events : s'.events = s.events
  consumed : s'.consumed = s.consumed

theorem step_frame {l : Label} (h : step env s l = some s') (hcycle : ∀ id io, l ≠ .cycle id io)
    (hattach : ∀ c o newInode, l ≠ .attach c o newInode) :
    Frame s s' ∧ (l ≠ .restart → s'.windows = s.windows) := by
  cases l with
  | cycle id io => exact absurd rfl (hcycle id io)
  | attach c o newInode => exact absurd rfl (hattach c o newInode)
  | detach agentId o =>
    simp only [step] at h
    split at h
    · cases h
      exact ⟨⟨rfl, rfl, rfl, rfl⟩, fun _ => rfl⟩
    · cases h
      exact ⟨⟨rfl, rfl, rfl, rfl⟩, fun _ => rfl⟩
  | cascade paneKeys now =>
    obtain ⟨attachments, -, rfl⟩ := map_eq_some_iff.mp h
    exact ⟨⟨rfl, rfl, rfl, rfl⟩, fun _ => rfl⟩
  | restart =>
    cases h
    exact ⟨⟨rfl, rfl, rfl, rfl⟩, fun hne => absurd rfl hne⟩
  | append path bytes | truncate path size | delete path =>
    obtain ⟨f, -, rfl⟩ := map_eq_some_iff.mp h
    exact ⟨⟨rfl, rfl, rfl, rfl⟩, fun _ => rfl⟩
  | create path f =>
    simp only [step] at h
    split at h <;> cases h
    exact ⟨⟨rfl, rfl, rfl, rfl⟩, fun _ => rfl⟩

def sampleEnv : ReaderEnv := ⟨6, 5, fun _ => ⟨.activity, "activity.fallback.v1", "x"⟩⟩

def cycleSample (now : String) (monotonic : Int) (commits : Bool) : Label :=
  .cycle "lat_1" ⟨now, monotonic, ["w1"], true, true, commits⟩

def sampleKey : String × String := ("agt_00000000000a", "/logs/a")

def attachedSample : State :=
  attach State.init (sampleCall "/logs/a") (sampleOutside "lat_1" "t1") "8:1"

end AgentTower.Events
