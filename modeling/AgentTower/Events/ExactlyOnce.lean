import AgentTower.Events.Reader

/-!
# How often a record is counted

Each record goes into an event of its transaction or into an open window.  The windows change before
the transaction does, and nothing puts them back.  So counts and consumed records agree as long as no
cycle loses its transaction with a window changed, and no restart drops an open window.
-/

namespace AgentTower.Events

open Transition List
open Logs

theorem submitRecords_counted (env : ReaderEnv) (attachmentId : String) (io : CycleInput)
    (raws : List (List UInt8)) (windows : Windows) (byteStart line i : Nat) :
    let result := submitRecords env attachmentId io raws windows byteStart line i
    Windows.Counted attachmentId windows result.2.2.length result.1 result.2.1 := by
  induction raws generalizing windows byteStart line i with
  | nil => exact ⟨Nat.zero_add _, fun _ _ => rfl⟩
  | cons raw rest ih =>
    simp only [submitRecords, length_cons]
    rw [Nat.add_comm _ 1]
    exact (Windows.submit_counted ..).trans (ih ..)

theorem flushBatch_counted {env : ReaderEnv} {attachmentId : String} {io : CycleInput}
    {windows : Windows} {b : Batch} (h : flushBatch env attachmentId io windows = some b) :
    Windows.Counted attachmentId windows b.records.length b.windows b.events := by
  unfold flushBatch at h
  simp only at h
  split at h <;> cases h
  exact Windows.flushExpired_counted windows _ _ _ attachmentId

theorem readBatch_counted {env : ReaderEnv} {attachmentId : String} {io : CycleInput}
    {windows : Windows} {row : LogOffsetRecord} {new : List UInt8} {b : Batch}
    (h : readBatch env attachmentId io windows row new = some b) :
    Windows.Counted attachmentId windows b.records.length b.windows b.events := by
  unfold readBatch at h
  split_ifs at h with hempty hrecords hcap
  · exact flushBatch_counted h
  · -- a line that was cut passes the windows by
    cases h
    exact ⟨Nat.add_comm _ _, fun _ _ => rfl⟩
  · exact flushBatch_counted h
  · cases h
    have hsubmitted := submitRecords_counted env attachmentId io (completeRaw new) windows
      row.byteOffset row.lineOffset 0
    exact hsubmitted.trans (Windows.flushExpired_counted _ env.windowSeconds io.nowMonotonic
      io.nowIso attachmentId)

/-! ## Runs -/

def State.committedCount (s : State) (attachmentId : String) : Nat :=
  ((s.events.filter fun r => decide (r.attachmentId = attachmentId)).map
    EventRow.debounceCollapsedCount).sum

def State.consumedCount (s : State) (attachmentId : String) : Nat :=
  s.consumed.countP fun c => decide (c.attachmentId = attachmentId)

def rolledBack (env : ReaderEnv) (s : State) (a : LogAttachmentRecord) (io : CycleInput) : Bool :=
  match cycleBatch env s a io with
  | none => false
  | some (row, b) => (commitEventsAndAdvance s.tables s.events a row b io).isNone

def collapsesNone (env : ReaderEnv) (new : List UInt8) : Bool :=
  (completeRaw new).all fun raw => decide ((env.classify (stripCr raw)).eventType ∉ collapseEligible)

def noneDue (env : ReaderEnv) (attachmentId : String) (io : CycleInput) (windows : Windows) : Bool :=
  windows.entries.all fun e => !Windows.due env.windowSeconds io.nowMonotonic attachmentId e.1 e.2

/-- The bytes that the cycle reads have no record for a window, and no window of the attachment is due
unless they are a line to be cut. -/
def passesWindows (env : ReaderEnv) (s : State) (a : LogAttachmentRecord) (io : CycleInput) : Bool :=
  match s.tables.offsets.get (a.agentId, a.logPath), s.files a.logPath with
  | some row, some f =>
    let new := readBytes f.content row.byteOffset env.byteCap
    collapsesNone env new && (noneDue env a.attachmentId io s.windows ||
      decide (new ≠ [] ∧ (splitCompleteRecords new).1 = [] ∧ env.byteCap ≤ new.length))
  | _, _ => true

/-- No cycle is rolled back that has a record for a window or a window that is due, and no restart finds
a window open. -/
def windowsSafe (env : ReaderEnv) (s : State) : Label → Bool
  | .cycle attachmentId io =>
    ((LogAttachments.listActiveAttachments s.tables.attachments).find? fun a =>
      decide (a.attachmentId = attachmentId)).all fun a =>
        !rolledBack env s a io || passesWindows env s a io
  | .restart => s.windows.entries.isEmpty
  | _ => true

def Represented (s : State) : Prop :=
  ∀ attachmentId,
    s.committedCount attachmentId + s.windows.openCount attachmentId = s.consumedCount attachmentId

variable {env : ReaderEnv} {s s' : State} {a : LogAttachmentRecord} {io : CycleInput}

theorem openCount_congr {windows windows' : Windows} (h : windows.entries = windows'.entries)
    (attachmentId : String) : windows.openCount attachmentId = windows'.openCount attachmentId := by
  unfold Windows.openCount Dict.total
  rw [h]

theorem submitRecords_windows {attachmentId : String} {raws : List (List UInt8)}
    (h : ∀ raw ∈ raws, (env.classify (stripCr raw)).eventType ∉ collapseEligible) (windows : Windows)
    (byteStart line i : Nat) :
    (submitRecords env attachmentId io raws windows byteStart line i).1 = windows := by
  induction raws generalizing byteStart line i with
  | nil => rfl
  | cons raw rest ih =>
    rw [forall_mem_cons] at h
    simp only [submitRecords, Windows.submit, if_pos h.1]
    exact ih h.2 _ _ _

theorem flushExpired_entries {attachmentId : String} {windows : Windows}
    (h : noneDue env attachmentId io windows = true) :
    (windows.flushExpired env.windowSeconds io.nowMonotonic io.nowIso attachmentId).1.entries =
      windows.entries :=
  filter_eq_self.mpr (all_eq_true.mp h)

theorem flushBatch_windows {attachmentId : String} {windows : Windows} {b : Batch}
    (hbatch : flushBatch env attachmentId io windows = some b)
    (h : noneDue env attachmentId io windows = true) : b.windows.entries = windows.entries := by
  unfold flushBatch at hbatch
  simp only at hbatch
  split at hbatch <;> cases hbatch
  exact flushExpired_entries h

theorem cycleBatch_windows {row : LogOffsetRecord} {b : Batch}
    (hbatch : cycleBatch env s a io = some (row, b)) (h : passesWindows env s a io = true) :
    b.windows.entries = s.windows.entries := by
  obtain ⟨hrow, f, hfile, hread⟩ := cycleBatch_eq_some hbatch
  simp only [passesWindows, hrow, hfile, Bool.and_eq_true, Bool.or_eq_true, decide_eq_true_eq] at h
  obtain ⟨hcollapses, hdue⟩ := h
  unfold readBatch at hread
  split_ifs at hread with hempty hrecords hcap
  · exact flushBatch_windows hread (hdue.resolve_right fun hcut => hcut.1 hempty)
  · cases hread
    rfl
  · exact flushBatch_windows hread (hdue.resolve_right fun hcut => hcap hcut.2.2)
  · cases hread
    have hsubmit : (submitRecords env a.attachmentId io
        (completeRaw (readBytes f.content row.byteOffset env.byteCap)) s.windows row.byteOffset
        row.lineOffset 0).1 = s.windows :=
      submitRecords_windows (fun raw hraw => of_decide_eq_true (all_eq_true.mp hcollapses raw hraw))
        _ _ _ _
    unfold completeBatch
    simp only [hsubmit]
    exact flushExpired_entries (hdue.resolve_right fun hcut => hrecords hcut.2.1)

theorem committedCount_append (s : State) (a : LogAttachmentRecord) (events : List PendingEvent)
    (attachmentId : String) :
    State.committedCount { s with events := s.events ++ events.map (PendingEvent.row a) } attachmentId
      = s.committedCount attachmentId
        + if a.attachmentId = attachmentId then collapsedTotal events else 0 := by
  unfold State.committedCount collapsedTotal
  rw [filter_append, map_append, sum_append, filter_map, map_map]
  by_cases ha : a.attachmentId = attachmentId
  · simp [ha, PendingEvent.row, Function.comp_def]
  · simp [ha, PendingEvent.row, Function.comp_def]

theorem consumedCount_append (s : State) (k : String × String) (records : List ProcessedRecord)
    (id attachmentId : String) :
    State.consumedCount { s with consumed := s.consumed ++ records.map fun r => ⟨id, k, r⟩ }
        attachmentId
      = s.consumedCount attachmentId + if id = attachmentId then records.length else 0 := by
  unfold State.consumedCount
  rw [countP_append, countP_map]
  by_cases hid : id = attachmentId
  · simp [hid, Function.comp_def]
  · simp [hid, Function.comp_def]

theorem Represented.cycle (h : Represented s) (heffect : CycleEffect env s a io s')
    (hsafe : rolledBack env s a io = true → passesWindows env s a io = true) :
    Represented s' := by
  cases heffect with
  | nothing => exact h
  | recovered hrecovery hchange => exact h
  | failed hbatch hcommit =>
    have hrolled : rolledBack env s a io = true := by
      unfold rolledBack
      rw [hbatch]
      simp only [hcommit, Option.isNone_none]
    intro attachmentId
    have hcount := h attachmentId
    rw [← openCount_congr (cycleBatch_windows hbatch (hsafe hrolled))] at hcount
    exact hcount
  | @committed row b offsets hbatch hadvance =>
    obtain ⟨-, f, -, hread⟩ := cycleBatch_eq_some hbatch
    obtain ⟨hown, hothers⟩ := readBatch_counted hread
    intro attachmentId
    have hbefore := h attachmentId
    have hevents := committedCount_append s a b.events attachmentId
    have hconsumed := consumedCount_append s (a.agentId, a.logPath) b.records a.attachmentId
      attachmentId
    show State.committedCount { s with events := s.events ++ b.events.map (PendingEvent.row a) }
      attachmentId + b.windows.openCount attachmentId = State.consumedCount
        { s with
          consumed := s.consumed ++
            b.records.map fun r => ⟨a.attachmentId, (a.agentId, a.logPath), r⟩ } attachmentId
    rw [hevents, hconsumed]
    by_cases ha : a.attachmentId = attachmentId
    · subst ha
      rw [if_pos rfl, if_pos rfl]
      omega
    · rw [if_neg ha, if_neg ha, hothers attachmentId (Ne.symm ha)]
      omega

theorem Represented.of_frame (h : Represented s) (hevents : s'.events = s.events)
    (hconsumed : s'.consumed = s.consumed) (hwindows : s'.windows.entries = s.windows.entries) :
    Represented s' := by
  intro attachmentId
  have hcount := h attachmentId
  unfold State.committedCount State.consumedCount at hcount ⊢
  rw [hevents, hconsumed, openCount_congr hwindows]
  exact hcount

theorem Represented.step {l : Label} (h : Represented s) (hsafe : windowsSafe env s l = true)
    (hstep : step env s l = some s') : Represented s' := by
  cases l with
  | cycle id io =>
    obtain ⟨a, ha, rfl⟩ := Option.map_eq_some_iff.mp hstep
    simp only [windowsSafe, ha, Option.all_some, Bool.or_eq_true, Bool.not_eq_true'] at hsafe
    have hrun := h.cycle (runCycle_effect env s a io) fun hrolled =>
      hsafe.resolve_left (by simp [hrolled])
    obtain ⟨seen, heq⟩ := runCycleForAttachment_eq env s a io
    rw [heq]
    exact hrun
  | attach c o newInode =>
    cases hstep
    rcases attach_cases s c o newInode with hsame | ⟨f, attached, -, -, heq⟩
    · rw [hsame]
      exact h
    · rw [heq]
      exact h
  | restart =>
    -- there was no window to lose
    cases hstep
    exact h.of_frame rfl rfl (isEmpty_iff.mp hsafe).symm
  | detach | cascade | append | truncate | delete | create =>
    obtain ⟨hframe, hwindows⟩ := step_frame hstep (by simp) (by simp)
    exact h.of_frame hframe.events hframe.consumed (congrArg Dict.entries (hwindows (by simp)))

/-- In every run whose failed transactions and restarts leave the windows as they were: for every
attachment, the collapsed counts of its committed events and of its open windows add up to the
records that were consumed. -/
theorem records_represented_once
    (h : Reach (step env) (fun s l => windowsSafe env s l = true) State.init s)
    (attachmentId : String) :
    s.committedCount attachmentId + s.windows.openCount attachmentId
      = s.consumedCount attachmentId :=
  h.invariant Represented (fun _ => rfl) (fun _ _ _ hinv hsafe hstep => hinv.step hsafe hstep)
    attachmentId

def windowSample : List Label :=
  [.attach (sampleCall "/logs/a") (sampleOutside "lat_1" "t1") "8:1",
    .append "/logs/a" [97, 10, 98, 10], cycleSample "t2" 1 true,
    .append "/logs/a" [99], cycleSample "t3" 2 false, cycleSample "t4" 7 true,
    .append "/logs/a" [10], cycleSample "t5" 8 true]

theorem records_represented_once_window :
    ∃ s, run (step sampleEnv) State.init windowSample = some s ∧
      s.committedCount "lat_1" = 2 ∧ s.consumedCount "lat_1" = 3 ∧
      s.windows.openCount "lat_1" = 1 := by
  obtain ⟨s, hs, hcommitted, hconsumed⟩ : ∃ s, runWhile (step sampleEnv) (windowsSafe sampleEnv)
      State.init windowSample = some s ∧
      s.committedCount "lat_1" = 2 ∧ s.consumedCount "lat_1" = 3 := by decide +kernel
  have hcount := records_represented_once (reach_of_runWhile Reach.start hs) "lat_1"
  exact ⟨s, run_of_runWhile hs, hcommitted, hconsumed, by omega⟩

def rolledBackSample : List Label :=
  [.attach (sampleCall "/logs/a") (sampleOutside "lat_1" "t1") "8:1",
    .append "/logs/a" [97, 10], cycleSample "t2" 1 false, cycleSample "t3" 2 true]

/-- The line is in its window twice. -/
theorem record_counted_twice :
    ∃ s, run (step sampleEnv) State.init rolledBackSample = some s ∧
      s.consumedCount "lat_1" = 1 ∧ s.committedCount "lat_1" = 0 ∧
      s.windows.openCount "lat_1" = 2 := by decide +kernel

end AgentTower.Events
