import AgentTower.Events.Reader
import AgentTower.Lib.Intervals

/-!
# The byte ranges of the records

The offset moves over the bytes as they are in the file; the ranges are made of the records after their
`\r` was taken off.  So the ranges are always in order and apart, and they fill the file exactly if no
record ended in `\r`: each leaves a gap before the next cycle.
-/

namespace AgentTower.Events

open Transition List
open Logs
open Intervals (Covers Within total)

/-! ## One cycle -/

def ProcessedRecord.range (r : ProcessedRecord) : Nat × Nat := (r.byteRangeStart, r.byteRangeEnd)

def rangesOf (records : List ProcessedRecord) : List (Nat × Nat) := records.map ProcessedRecord.range

def crCount (records : List ProcessedRecord) : Nat := records.countP ProcessedRecord.cr

theorem length_stripCr (r : List UInt8) :
    (stripCr r).length + (if endsWithCr r then 1 else 0) = r.length := by
  unfold stripCr
  by_cases hcr : endsWithCr r = true
  · -- a record that ends in `\r` has a last byte
    have hpos : 0 < r.length := by
      cases r with
      | nil => cases hcr
      | cons b r => exact Nat.succ_pos _
    rw [if_pos hcr, if_pos hcr, length_dropLast]
    omega
  · rw [if_neg hcr, if_neg hcr]
    omega

def diskLength (raws : List (List UInt8)) : Nat := (raws.map fun r => r.length + 1).sum

/-- The ranges follow one another from `start`, and end one byte before `start + bytes` for each
`\r`. -/
def Laid (start bytes : Nat) (records : List ProcessedRecord) : Prop :=
  ∃ byteEnd, Within start byteEnd (rangesOf records) ∧
    total (rangesOf records) = byteEnd - start ∧
    byteEnd + crCount records = start + bytes

theorem laid_nil (start : Nat) : Laid start 0 [] :=
  ⟨start, Nat.le_refl _, (Nat.sub_self start).symm, rfl⟩

theorem submitRecords_records (env : ReaderEnv) (attachmentId : String) (io : CycleInput)
    (raws : List (List UInt8)) (windows : Windows) (byteStart line i : Nat) :
    Laid byteStart (diskLength raws)
      (submitRecords env attachmentId io raws windows byteStart line i).2.2 := by
  induction raws generalizing windows byteStart line i with
  | nil => exact laid_nil byteStart
  | cons raw rest ih =>
    simp only [submitRecords]
    generalize windows.submit _ _ _ _ _ = submitted
    have hrest := ih submitted.1 (byteStart + (stripCr raw).length + 1) (line + 1) (i + 1)
    generalize (submitRecords _ _ _ rest _ _ _ _).2.2 = records at hrest ⊢
    obtain ⟨byteEnd, hwithin, htotal, hcr⟩ := hrest
    have hlength := length_stripCr raw
    have hle := hwithin.le
    refine ⟨byteEnd, ⟨Nat.le_refl _, by simp only [ProcessedRecord.range]; omega, hwithin⟩, ?_, ?_⟩
    · simp only [rangesOf, map_cons, Intervals.total_cons, ProcessedRecord.range] at htotal ⊢
      omega
    · simp only [crCount, countP_cons, diskLength, map_cons, sum_cons] at hcr ⊢
      omega

theorem diskLength_eq (raws : List (List UInt8)) :
    diskLength raws = (raws.map List.length).sum + raws.length := by
  unfold diskLength
  induction raws with
  | nil => rfl
  | cons raw rest ih =>
    simp only [map_cons, sum_cons, length_cons, ih]
    omega

variable {attachmentId : String} {windows : Windows} {b : Batch} {row : LogOffsetRecord} {f : File}

theorem flushBatch_records {env : ReaderEnv} {io : CycleInput}
    (h : flushBatch env attachmentId io windows = some b)
    (start : Nat) : Laid start b.advanceBytes b.records := by
  unfold flushBatch at h
  simp only at h
  split at h <;> cases h
  exact laid_nil start

/-- The ranges of a batch follow one another from the stored offset; the offset goes further than
they do by one byte for each `\r`. -/
theorem readBatch_records {env : ReaderEnv} {io : CycleInput} {new : List UInt8}
    (h : readBatch env attachmentId io windows row new = some b) :
    Laid row.byteOffset b.advanceBytes b.records := by
  unfold readBatch at h
  split_ifs at h with hempty hrecords hcap
  · exact flushBatch_records h row.byteOffset
  · -- a line that was cut: one range, as long as what was read
    cases h
    refine ⟨row.byteOffset + new.length, ⟨Nat.le_refl _, Nat.le_add_right _ _, Nat.le_refl _⟩, ?_, rfl⟩
    simp [forcedBatch, rangesOf, ProcessedRecord.range, total]
  · exact flushBatch_records h row.byteOffset
  · cases h
    have hlaid := submitRecords_records env attachmentId io (completeRaw new) windows row.byteOffset
      row.lineOffset 0
    rw [diskLength_eq] at hlaid
    simpa [completeBatch, splitCompleteRecords, hempty] using hlaid

/-! ## Runs -/

def State.recordsOf (s : State) (k : String × String) : List ProcessedRecord :=
  (s.consumed.filter fun c => decide (c.agentPath = k)).map Consumed.record

theorem filter_consumed (attachmentId : String) (k j : String × String)
    (records : List ProcessedRecord) :
    ((records.map fun r => (⟨attachmentId, j, r⟩ : Consumed)).filter fun c =>
      decide (c.agentPath = k)).map Consumed.record = if j = k then records else [] := by
  rw [filter_map, map_map]
  by_cases hj : j = k
  · simp [hj, Function.comp_def]
  · simp [hj, Function.comp_def]

/-- What the offset row has stored about its file was seen of this file, when it was no longer than
it is now. -/
def State.Observed (s : State) (k : String × String) (o : LogOffsetRecord) : Prop :=
  ∀ inode, o.fileInode = some inode →
    ∃ f, s.files k.2 = some f ∧ f.inode = inode ∧ o.fileSizeSeen ≤ f.content.length

theorem State.Observed.not_rotated {s : State} {k : String × String} {o : LogOffsetRecord}
    (h : s.Observed k o) (hf : s.files k.2 = some f) : ¬Rotated o f.stat := by
  rintro ⟨inode, hinode, hdiffers⟩
  obtain ⟨f', hf', hsame, hsize⟩ := h inode hinode
  rw [hf] at hf'
  cases hf'
  rcases hdiffers with hother | hshorter
  · exact hother hsame
  · exact Nat.not_lt.mpr hsize hshorter

theorem State.Observed.append {s : State} {k : String × String} {o : LogOffsetRecord} {path : String}
    (h : s.Observed k o) (hf : s.files path = some f) (bytes : List UInt8) :
    (s.write path (some { f with content := f.content ++ bytes })).Observed k o := by
  intro inode hinode
  obtain ⟨f', hf', hsame, hsize⟩ := h inode hinode
  by_cases hpath : k.2 = path
  · rw [hpath, hf] at hf'
    cases hf'
    refine ⟨_, if_pos hpath, hsame, ?_⟩
    rw [length_append]
    omega
  · exact ⟨f', (if_neg hpath).trans hf', hsame, hsize⟩

theorem State.Observed.recovery {s : State} {k : String × String} {o : LogOffsetRecord}
    {agentId logPath timestamp : String} {result : ReaderCycleResult}
    (h : s.Observed k o) (hget : s.tables.offsets.get k = some o)
    (hrecovery : readerCycleOffsetRecovery s.tables agentId logPath
      ((s.files logPath).map File.stat) timestamp = some result) :
    result.tables.offsets.get k = some o := by
  cases recovery_effect hrecovery with
  | nothing | stale => exact hget
  | restarted _ _ _ hrow hstat hrotated hreset =>
    show Sql.Table.get _ k = some o
    rw [get_reset hrow hreset]
    by_cases hk : k = (agentId, logPath)
    · -- the file is the one that the row knows
      subst hk
      rw [hget] at hrow
      cases hrow
      obtain ⟨f, hf, rfl⟩ := Option.map_eq_some_iff.mp hstat
      exact absurd hrotated (h.not_rotated hf)
    · rw [if_neg hk]
      exact hget

def Label.readsAndAppends : Label → Bool
  | .cycle _ _ | .append _ _ | .restart => true
  | _ => false

/-- The ranges lie between the first offset and the stored one, and fill it but for the `\r`s. -/
def Tiled (k : String × String) (start : Nat) (s : State) : Prop :=
  ∃ o, s.tables.offsets.get k = some o ∧ s.Observed k o ∧
    Within start o.byteOffset (rangesOf (s.recordsOf k)) ∧
    total (rangesOf (s.recordsOf k)) + crCount (s.recordsOf k) = o.byteOffset - start

variable {env : ReaderEnv} {s s' : State} {a : LogAttachmentRecord} {io : CycleInput}
  {k : String × String} {start : Nat}

theorem Tiled.committed (h : Tiled k start s)
    {offsets : LogOffsets} (hbatch : cycleBatch env s a io = some (row, b))
    (hadvance : LogOffsets.advanceOffset s.tables.offsets a.agentId a.logPath
      (b.advance row io.nowIso) = some offsets) :
    Tiled k start
      { s with
        tables := { s.tables with offsets }
        events := s.events ++ b.events.map (PendingEvent.row a)
        windows := b.windows
        consumed := s.consumed ++
          b.records.map fun r => ⟨a.attachmentId, (a.agentId, a.logPath), r⟩ } := by
  obtain ⟨o, hget, hobserved, hwithin, htotal⟩ := h
  obtain ⟨hrow, f, -, hread⟩ := cycleBatch_eq_some hbatch
  have hrecords : ∀ (s₁ : State), s₁.consumed = s.consumed ++
      b.records.map (fun r => ⟨a.attachmentId, (a.agentId, a.logPath), r⟩) →
      s₁.recordsOf k = s.recordsOf k ++ if (a.agentId, a.logPath) = k then b.records else [] := by
    intro s₁ hconsumed
    unfold State.recordsOf
    rw [hconsumed, filter_append, map_append, filter_consumed]
  unfold Tiled
  rw [hrecords _ rfl]
  simp only [LogOffsets.get_advanceOffset hadvance]
  by_cases hk : (a.agentId, a.logPath) = k
  · subst hk
    rw [hrow] at hget
    cases hget
    obtain ⟨byteEnd, hwithin', htotal', hcr⟩ := readBatch_records hread
    have hle := hwithin.le
    have hle' := hwithin'.le
    -- the new ranges start at the old offset and end below the new one
    have hend : Within byteEnd (row.byteOffset + b.advanceBytes) [] := by
      show byteEnd ≤ _
      omega
    refine ⟨(LogOffsets.setAdvance (b.advance row io.nowIso)).set row, ?_, hobserved, ?_, ?_⟩
    · simp [hrow]
    · simp only [if_true, rangesOf, map_append]
      have happend := (hwithin.append hwithin').append hend
      simpa [rangesOf, LogOffsets.setAdvance, Batch.advance] using happend
    · simp only [if_true, rangesOf, crCount, map_append, Intervals.total_append,
        countP_append] at htotal htotal' hcr ⊢
      simp only [LogOffsets.setAdvance, Batch.advance]
      omega
  · refine ⟨o, ?_, hobserved, ?_, ?_⟩
    · rw [if_neg (Ne.symm hk)]
      exact hget
    · simpa [hk] using hwithin
    · simpa [hk] using htotal

theorem Tiled.cycle (h : Tiled k start s) (heffect : CycleEffect env s a io s') :
    Tiled k start s' := by
  cases heffect with
  | nothing => exact h
  | failed hbatch hcommit => exact h
  | committed hbatch hadvance => exact h.committed hbatch hadvance
  | recovered hrecovery =>
    obtain ⟨o, hget, hobserved, hrest⟩ := h
    exact ⟨o, hobserved.recovery hget hrecovery, hobserved, hrest⟩

theorem Tiled.step {l : Label} (h : Tiled k start s) (hl : l.readsAndAppends = true)
    (hstep : step env s l = some s') : Tiled k start s' := by
  cases l with
  | cycle attachmentId io =>
    obtain ⟨a, -, -, rfl⟩ := step_cycle hstep
    have hcycle := h.cycle (runCycle_effect env s a io)
    obtain ⟨seen, heq⟩ := runCycleForAttachment_eq env s a io
    rw [heq]
    exact hcycle
  | append path bytes =>
    obtain ⟨f, hf, rfl⟩ := Option.map_eq_some_iff.mp hstep
    obtain ⟨o, hget, hobserved, hrest⟩ := h
    exact ⟨o, hget, hobserved.append hf bytes, hrest⟩
  | restart =>
    cases hstep
    exact h
  | attach | detach | cascade | truncate | delete | create => cases hl

/-- For every run of the reader over files that are only appended to, with any cap and any failures:
the ranges of the consumed records are in order and apart, between the first offset and the stored
one, and they cover the bytes between the two exactly if no record ended in `\r`. -/
theorem byte_ranges_cover_iff {s₀ : State} {o₀ : LogOffsetRecord}
    (h : Reach (step env) (fun _ l => l.readsAndAppends = true) s₀ s)
    (hrow : s₀.tables.offsets.get k = some o₀) (hobserved : s₀.Observed k o₀)
    (hstart : s₀.consumed = []) :
    ∃ o, s.tables.offsets.get k = some o ∧
      (rangesOf (s.recordsOf k)).Pairwise (fun r r' => r.2 ≤ r'.1) ∧
      (∀ r ∈ rangesOf (s.recordsOf k), o₀.byteOffset ≤ r.1 ∧ r.1 ≤ r.2 ∧ r.2 ≤ o.byteOffset) ∧
      (Covers o₀.byteOffset o.byteOffset (rangesOf (s.recordsOf k)) ↔
        ∀ r ∈ s.recordsOf k, r.cr = false) := by
  have hinit : Tiled k o₀.byteOffset s₀ := by
    refine ⟨o₀, hrow, hobserved, ?_⟩
    simp [State.recordsOf, hstart, rangesOf, crCount, Within]
  obtain ⟨o, hget, -, hwithin, htotal⟩ :=
    h.invariant (Tiled k o₀.byteOffset) hinit fun _ _ _ hinv hl hstep => hinv.step hl hstep
  refine ⟨o, hget, hwithin.pairwise, fun r hr => hwithin.mem hr, ?_⟩
  have hle := hwithin.le
  have hnone : crCount (s.recordsOf k) = 0 ↔ ∀ r ∈ s.recordsOf k, r.cr = false := by
    unfold crCount
    rw [countP_eq_zero]
    simp
  rw [hwithin.covers_iff, ← hnone]
  omega

def lfSample : List Label :=
  [.append "/logs/a" [97, 10, 98], cycleSample "t2" 1 false, cycleSample "t3" 2 true,
    .append "/logs/a" [98, 98, 98, 98, 98, 98, 10], cycleSample "t4" 3 false,
    cycleSample "t5" 4 true, cycleSample "t6" 9 true]

/-- A line, a piece of a line that fills the cap, and the rest of it. -/
theorem byte_ranges_cover_iff_lf :
    ∃ s, run (step sampleEnv) attachedSample lfSample = some s ∧
      rangesOf (s.recordsOf sampleKey) = [(0, 2), (2, 8), (8, 10)] ∧
      Covers 0 10 (rangesOf (s.recordsOf sampleKey)) := by
  obtain ⟨o₀, ho₀, hbyte, hnone⟩ : ∃ o, attachedSample.tables.offsets.get sampleKey = some o ∧
      o.byteOffset = 0 ∧ o.fileInode = none := by decide +kernel
  obtain ⟨s, hs, hranges, hoffset, hcr⟩ : ∃ s, runWhile (step sampleEnv)
      (fun _ l => l.readsAndAppends) attachedSample lfSample = some s ∧
      rangesOf (s.recordsOf sampleKey) = [(0, 2), (2, 8), (8, 10)] ∧
      (s.tables.offsets.get sampleKey).map LogOffsetRecord.byteOffset = some 10 ∧
      ∀ r ∈ s.recordsOf sampleKey, r.cr = false := by decide +kernel
  have hobserved : attachedSample.Observed sampleKey o₀ := by
    intro inode hinode
    rw [hnone] at hinode
    cases hinode
  obtain ⟨o, ho, -, -, hcovers⟩ := byte_ranges_cover_iff
    (reach_of_runWhile Reach.start hs) ho₀ hobserved rfl
  rw [ho] at hoffset
  rw [hbyte, show o.byteOffset = 10 from Option.some.inj hoffset] at hcovers
  exact ⟨s, run_of_runWhile hs, hranges, hcovers.mpr hcr⟩

/-- One line that ends in `\r\n`: the offset is behind it, the range is a byte short. -/
theorem crlf_byte_uncovered :
    ∃ s, run (step sampleEnv) attachedSample
        [.append "/logs/a" [97, 13, 10], cycleSample "t2" 1 true] = some s ∧
      (s.tables.offsets.get sampleKey).map LogOffsetRecord.byteOffset = some 3 ∧
      rangesOf (s.recordsOf sampleKey) = [(0, 2)] ∧
      ¬Covers 0 3 (rangesOf (s.recordsOf sampleKey)) := by
  obtain ⟨s, hs, hoffset, hranges⟩ : ∃ s, run (step sampleEnv) attachedSample
      [.append "/logs/a" [97, 13, 10], cycleSample "t2" 1 true] = some s ∧
      (s.tables.offsets.get sampleKey).map LogOffsetRecord.byteOffset = some 3 ∧
      rangesOf (s.recordsOf sampleKey) = [(0, 2)] := by decide +kernel
  refine ⟨s, hs, hoffset, hranges, fun hcovers => ?_⟩
  rw [hranges] at hcovers
  obtain ⟨r, hr, hlow, hhigh⟩ := (hcovers 2).mpr (by decide)
  rw [mem_singleton.mp hr] at hhigh
  exact absurd hhigh (by decide)

end AgentTower.Events
