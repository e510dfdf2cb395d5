import Mathlib.Data.List.Infix
import AgentTower.Events.Pieces
import AgentTower.Events.Rotation

/-!
# Events within one generation of the file

A window stays open when the file is truncated or replaced and when the offsets are set back, and the
records that are read afterwards go into it as long as it is running.  As long as no cycle does that,
every event has its range in order and its records from one generation of the file.
-/

namespace AgentTower.Events

open Transition Sql List
open Routing (EventType)
open Logs

/-! ## The reader with the history of its files -/

/-- `generation` counts how many times the file of a path has lost bytes, `setBacks` how many times the
offsets of a row were set to something smaller. -/
structure Tracked where
  base : State
  generation : String → Nat
  setBacks : String × String → Nat
  held : Held

namespace Tracked

def init : Tracked := ⟨State.init, fun _ => 0, fun _ => 0, Dict.empty⟩

def stampAt (T : Tracked) (k : String × String) : Stamp := ⟨k, T.generation k.2, T.setBacks k⟩

def stamp (T : Tracked) (a : LogAttachmentRecord) : Stamp := T.stampAt a.agentPath

end Tracked

/-- The batch whose events a cycle hands to `insert_event`, and the offset row it starts from. -/
def cycleHands (env : ReaderEnv) (s : State) (a : LogAttachmentRecord) (io : CycleInput) :
    Option (LogOffsetRecord × Batch) :=
  match readerCycleOffsetRecovery s.tables a.agentId a.logPath ((s.files a.logPath).map File.stat)
      io.nowIso with
  | none => none
  | some result => if result.change = .unchanged then cycleBatch env s a io else none

/-- The records of the windows after a cycle, and those of the events that it hands over. -/
def cyclePieces (env : ReaderEnv) (T : Tracked) (a : LogAttachmentRecord) (io : CycleInput) :
    Held × List (List Piece) :=
  match cycleHands env T.base a io, T.base.files a.logPath with
  | some (row, _), some f =>
    T.held.readBatch env a.attachmentId io (T.stamp a) T.base.windows row
      (readBytes f.content row.byteOffset env.byteCap)
  | _, _ => (T.held, [])

def losesBytes (s : State) (path : String) : Label → Bool
  | .truncate p size =>
    decide (p = path) && (s.files path).any fun f => decide (size < f.content.length)
  | .delete p => decide (p = path)
  | _ => false

def setBack (s s' : State) (k : String × String) : Bool :=
  match s.tables.offsets.get k, s'.tables.offsets.get k with
  | some o, some o' =>
    decide (o'.byteOffset < o.byteOffset) || decide (o'.lineOffset < o.lineOffset)
  | _, _ => false

def activeById (s : State) (attachmentId : String) : Option LogAttachmentRecord :=
  (LogAttachments.listActiveAttachments s.tables.attachments).find? fun a =>
    decide (a.attachmentId = attachmentId)

section

variable (env : ReaderEnv) (T : Tracked)

def heldAfter : Label → Held
  | .cycle attachmentId io =>
    match activeById T.base attachmentId with
    | some a => (cyclePieces env T a io).1
    | none => T.held
  | .restart => Dict.empty
  | _ => T.held

def trackStep (l : Label) : Option Tracked :=
  (step env T.base l).map fun s' =>
    { base := s'
      generation := fun path => T.generation path + if losesBytes T.base path l then 1 else 0
      setBacks := fun k => T.setBacks k + if setBack T.base s' k then 1 else 0
      held := heldAfter env T l }

/-- The window of the attachment, if it is running, was opened where the cycle reads now. -/
def runningIsCurrent (a : LogAttachmentRecord) (io : CycleInput) :
    Bool :=
  match T.base.windows.get (a.attachmentId, .activity) with
  | some w =>
    w.expired env.windowSeconds io.nowMonotonic ||
      (T.held.of (a.attachmentId, .activity)).all fun p => decide (p.stamp = T.stamp a)
  | none => true

/-- A cycle of the attachment that reads complete records finds no window from before. -/
def cycleIsCurrent (a : LogAttachmentRecord) (io : CycleInput) :
    Bool :=
  match cycleHands env T.base a io with
  | some (_, b) => decide (b.advanceLines = 0) || runningIsCurrent env T a io
  | none => true

def readsCurrent : Label → Bool
  | .cycle attachmentId io =>
    (activeById T.base attachmentId).all fun a => cycleIsCurrent env T a io
  | _ => true

end

/-! ## Reading more -/

theorem completeRaw_cons (b : UInt8) (raw : List UInt8) :
    completeRaw (b :: raw)
      = if b == 10 then [] :: completeRaw raw else (completeRaw raw).modifyHead (b :: ·) := by
  unfold completeRaw
  rw [splitOn_cons_eq_if_modifyHead]
  have hne := splitOn_ne_nil (10 : UInt8) raw
  split
  · exact dropLast_cons_of_ne_nil hne
  · cases hsplit : raw.splitOn 10 with
    | nil => exact absurd hsplit hne
    | cons r rest =>
      cases rest with
      | nil => rfl
      | cons r' rest => rfl

theorem modifyHead_mono {α : Type} (f : α → α) {l l' : List α} (h : l <+: l') :
    l.modifyHead f <+: l'.modifyHead f := by
  cases l with
  | nil => exact nil_prefix
  | cons x l =>
    obtain ⟨rest, rfl⟩ := h
    exact ⟨rest, rfl⟩

variable {l : Label} {raw : List UInt8} {p₀ : Piece} {row : LogOffsetRecord} {f : File} {b : Batch}
  {attachmentId path : String} {k : String × String}

theorem completeRaw_mono {raw' : List UInt8} (h : raw <+: raw') :
    completeRaw raw <+: completeRaw raw' := by
  obtain ⟨more, rfl⟩ := h
  -- byte by byte: a newline closes a record, any other byte goes to the front of the first one
  induction raw with
  | nil => exact nil_prefix
  | cons b raw ih =>
    rw [cons_append, completeRaw_cons, completeRaw_cons]
    split
    · exact (prefix_cons_inj []).mpr ih
    · exact modifyHead_mono _ ih

theorem readBytes_mono {content content' : List UInt8} (h : content <+: content')
    (byteOffset cap : Nat) : readBytes content byteOffset cap <+: readBytes content' byteOffset cap :=
  (h.drop byteOffset).take cap

variable {pre : List (List UInt8)} {t : LogTables} {agentId logPath timestamp p : String}

theorem FirstEligible.mono {env : ReaderEnv} {raws raws' : List (List UInt8)}
    (h : FirstEligible env raws pre raw) (hraws : raws <+: raws') :
    FirstEligible env raws' pre raw := by
  obtain ⟨⟨post, rfl⟩, hpre, hraw⟩ := h
  obtain ⟨more, rfl⟩ := hraws
  exact ⟨⟨post ++ more, by rw [append_assoc, cons_append]⟩, hpre, hraw⟩

/-! ## The invariant -/

variable {env : ReaderEnv} {s s' : State} {a : LogAttachmentRecord} {io : CycleInput}

/-- A window that starts at `p₀` starts before the stored offset; or a transaction failed after the
window was opened, and it starts at the first record that the next cycle would put into one. -/
def Ahead (env : ReaderEnv) (s : State) (p₀ : Piece) : Prop :=
  ∃ row f, s.tables.offsets.get p₀.stamp.agentPath = some row ∧
    s.files p₀.stamp.agentPath.2 = some f ∧
    ((p₀.byteRangeStart ≤ row.byteOffset ∧ p₀.lineOffsetStart ≤ row.lineOffset) ∨
      ∃ pre raw, FirstEligible env (completeRaw (readBytes f.content row.byteOffset env.byteCap)) pre raw ∧
        p₀.byteRangeStart = row.byteOffset + span pre ∧
        p₀.lineOffsetStart = row.lineOffset + pre.length)

structure GenInv (env : ReaderEnv) (T : Tracked) : Prop where
  held : HeldOk T.base.windows T.held
  past : ∀ key, ∀ p₀, (T.held.of key).head? = some p₀ →
    p₀.stamp.generation ≤ T.generation p₀.stamp.agentPath.2 ∧
    p₀.stamp.setBacks ≤ T.setBacks p₀.stamp.agentPath
  ahead : ∀ key, ∀ p₀, (T.held.of key).head? = some p₀ →
    p₀.stamp = T.stampAt p₀.stamp.agentPath → Ahead env T.base p₀

theorem Ahead.mono (h : Ahead env s p₀)
    (hrow : ∀ row, s.tables.offsets.get p₀.stamp.agentPath = some row →
      ∃ row', s'.tables.offsets.get p₀.stamp.agentPath = some row' ∧
        row'.byteOffset = row.byteOffset ∧ row'.lineOffset = row.lineOffset)
    (hfile : ∀ f, s.files p₀.stamp.agentPath.2 = some f →
      ∃ f', s'.files p₀.stamp.agentPath.2 = some f' ∧ f.content <+: f'.content) :
    Ahead env s' p₀ := by
  obtain ⟨row, f, hget, hf, hahead⟩ := h
  obtain ⟨row', hget', hbyte, hline⟩ := hrow row hget
  obtain ⟨f', hf', hprefix⟩ := hfile f hf
  refine ⟨row', f', hget', hf', ?_⟩
  rw [hbyte, hline]
  rcases hahead with hbefore | ⟨pre, raw, hfirst, hstart⟩
  · exact .inl hbefore
  · exact .inr ⟨pre, raw, hfirst.mono (completeRaw_mono (readBytes_mono hprefix _ _)), hstart⟩

theorem Ahead.ready (h : Ahead env s p₀) (hrow : s.tables.offsets.get p₀.stamp.agentPath = some row)
    (hf : s.files p₀.stamp.agentPath.2 = some f) :
    ∀ pre raw post, completeRaw (readBytes f.content row.byteOffset env.byteCap) = pre ++ raw :: post →
      eligible env raw = true →
      p₀.byteRangeStart ≤ row.byteOffset + span pre + (stripCr raw).length + 1 ∧
      p₀.lineOffsetStart ≤ row.lineOffset + pre.length + 1 := by
  obtain ⟨row', f', hrow', hf', hahead⟩ := h
  rw [hrow] at hrow'
  rw [hf] at hf'
  cases hrow'
  cases hf'
  intro pre raw post hraws heligible
  rcases hahead with hbefore | ⟨pre₀, raw₀, hfirst, hstart⟩
  · omega
  · have hle := hfirst.le hraws heligible
    omega

/-! ## What a cycle does -/

theorem runCycle_cases (env : ReaderEnv) (s : State) (a : LogAttachmentRecord) (io : CycleInput) :
    (cycleHands env s a io = none ∧
      (runCycle env s a io = s ∨ ∃ result,
        readerCycleOffsetRecovery s.tables a.agentId a.logPath ((s.files a.logPath).map File.stat)
          io.nowIso = some result ∧
        runCycle env s a io = { s with tables := result.tables })) ∨
    ∃ row b, cycleHands env s a io = some (row, b) ∧
      runCycle env s a io = finishCycle s a row b io := by
  unfold cycleHands runCycle
  cases hrecovery : readerCycleOffsetRecovery s.tables a.agentId a.logPath
      ((s.files a.logPath).map File.stat) io.nowIso with
  | none => exact .inl ⟨rfl, .inl rfl⟩
  | some result =>
    by_cases hchange : result.change = .unchanged
    · simp only [hchange, ne_eq, not_true_eq_false, if_true, if_false]
      cases hbatch : cycleBatch env s a io with
      | none => exact .inl ⟨rfl, .inl rfl⟩
      | some rb => exact .inr ⟨rb.1, rb.2, rfl, rfl⟩
    · -- a recovery that has found something ends the cycle, whether or not it commits
      simp only [hchange, ne_eq, not_false_eq_true, if_true, if_false]
      by_cases hcommits : io.recoveryCommits = true
      · exact .inl ⟨trivial, .inr ⟨result, rfl, if_pos hcommits⟩⟩
      · exact .inl ⟨trivial, .inl (if_neg hcommits)⟩

theorem cycleHands_eq_some
    (h : cycleHands env s a io = some (row, b)) : cycleBatch env s a io = some (row, b) := by
  unfold cycleHands at h
  split at h
  · cases h
  · split at h
    · exact h
    · cases h

/-- What `readBatch` moves the offsets by: the records that it read, a line that fills the cap, or
nothing. -/
theorem readBatch_advance {windows : Windows}
    {new : List UInt8} (h : readBatch env attachmentId io windows row new = some b) :
    (completeRaw new = [] ∧ b.advanceLines = 0 ∧
      (b.advanceBytes = 0 ∨
        b.advanceBytes = new.length ∧ new ≠ [] ∧ env.byteCap ≤ new.length)) ∨
      (b.advanceBytes = diskLength (completeRaw new) ∧ b.advanceLines = (completeRaw new).length) := by
  have hflush : ∀ b, flushBatch env attachmentId io windows = some b →
      b.advanceLines = 0 ∧ b.advanceBytes = 0 := by
    intro b hb
    unfold flushBatch at hb
    simp only at hb
    split at hb <;> cases hb
    exact ⟨rfl, rfl⟩
  have hcomplete : new ≠ [] → (splitCompleteRecords new).1 = [] → completeRaw new = [] := by
    intro hempty hrecords
    simpa [splitCompleteRecords, hempty] using hrecords
  unfold readBatch at h
  split_ifs at h with hempty hrecords hcap
  · subst hempty
    exact .inl ⟨rfl, (hflush b h).1, .inl (hflush b h).2⟩
  · cases h
    exact .inl ⟨hcomplete hempty hrecords, rfl, .inr ⟨rfl, hempty, hcap⟩⟩
  · exact .inl ⟨hcomplete hempty hrecords, (hflush b h).1, .inl (hflush b h).2⟩
  · cases h
    right
    simp [completeBatch, splitCompleteRecords, hempty, diskLength_eq]

section

variable (s : State) (a : LogAttachmentRecord) (row : LogOffsetRecord) (b : Batch) (io : CycleInput)

theorem finishCycle_offsets (hrow : s.tables.offsets.get (a.agentId, a.logPath) = some row)
    (k : String × String) :
    (finishCycle s a row b io).tables.offsets.get k = s.tables.offsets.get k ∨
      (k = (a.agentId, a.logPath) ∧ ∃ row', (finishCycle s a row b io).tables.offsets.get k = some row' ∧
        row'.byteOffset = row.byteOffset + b.advanceBytes ∧
        row'.lineOffset = row.lineOffset + b.advanceLines) := by
  unfold finishCycle
  cases hcommit : commitEventsAndAdvance s.tables s.events a row b io with
  | none => exact .inl rfl
  | some committed =>
    unfold commitEventsAndAdvance at hcommit
    simp only at hcommit
    split at hcommit
    · obtain ⟨offsets, hadvance, rfl⟩ := Option.map_eq_some_iff.mp hcommit
      simp only
      rw [LogOffsets.get_advanceOffset hadvance]
      by_cases hk : k = (a.agentId, a.logPath)
      · rw [if_pos hk, hk, hrow]
        exact .inr ⟨rfl, _, rfl, rfl, rfl⟩
      · rw [if_neg hk]
        exact .inl rfl
    · cases hcommit

theorem finishCycle_frame :
    (finishCycle s a row b io).files = s.files ∧ (finishCycle s a row b io).windows = b.windows := by
  unfold finishCycle
  split
  · exact ⟨rfl, rfl⟩
  · exact ⟨rfl, rfl⟩

end

theorem Ahead.finishCycle (h : Ahead env s p₀)
    (hbatch : cycleBatch env s a io = some (row, b)) : Ahead env (finishCycle s a row b io) p₀ := by
  obtain ⟨hrow, f, hf, hread⟩ := cycleBatch_eq_some hbatch
  have hfiles := (finishCycle_frame s a row b io).1
  rcases finishCycle_offsets s a row b io hrow p₀.stamp.agentPath with hsame |
    ⟨hk, row', hrow', hbyte, hline⟩
  · -- the transaction has failed, or was about another row
    refine h.mono (fun row₀ hrow₀ => ⟨row₀, by rw [hsame]; exact hrow₀, rfl, rfl⟩) fun f₀ hf₀ => ?_
    exact ⟨f₀, by rw [hfiles]; exact hf₀, prefix_rfl⟩
  · obtain ⟨row₀, f₀, hrow₀, hf₀, hahead⟩ := h
    rw [hk, hrow] at hrow₀
    rw [hk, hf] at hf₀
    cases hrow₀
    cases hf₀
    refine ⟨row', f, hrow', by rw [hfiles, hk]; exact hf, .inl ?_⟩
    rcases hahead with hbefore | ⟨pre, raw, ⟨⟨post, hpost⟩, -, -⟩, hstart⟩
    · omega
    · -- the first record of the window is one of those that the offset has now passed
      rcases readBatch_advance hread with ⟨hnone, -⟩ | ⟨hbytes, hlines⟩
      · rw [hnone] at hpost
        exact absurd hpost (by simp)
      · have hspan := span_le_diskLength (completeRaw (readBytes f.content row.byteOffset env.byteCap))
        rw [hpost] at hspan hbytes hlines
        rw [span_append] at hspan
        rw [length_append] at hlines
        omega

theorem ahead_opened {σ : Stamp} (hσ : σ.agentPath = (a.agentId, a.logPath))
    (hbatch : cycleBatch env s a io = some (row, b)) (hf : s.files a.logPath = some f)
    (hfirst : FirstEligible env (completeRaw (readBytes f.content row.byteOffset env.byteCap)) pre raw) :
    Ahead env (finishCycle s a row b io)
      (pieceAt σ (row.byteOffset + span pre) (row.lineOffset + pre.length) raw) := by
  have hbefore : Ahead env s
      (pieceAt σ (row.byteOffset + span pre) (row.lineOffset + pre.length) raw) := by
    refine ⟨row, f, ?_, ?_, .inr ⟨pre, raw, hfirst, rfl, rfl⟩⟩
    · rw [show (pieceAt σ _ _ raw).stamp.agentPath = _ from hσ]
      exact (cycleBatch_eq_some hbatch).1
    · rw [show (pieceAt σ _ _ raw).stamp.agentPath = _ from hσ]
      exact hf
  exact hbefore.finishCycle hbatch

/-! ## Steps that put nothing into a window -/

def SameOrZero (row row' : LogOffsetRecord) : Prop :=
  (row'.byteOffset = row.byteOffset ∧ row'.lineOffset = row.lineOffset) ∨
    (row'.byteOffset = 0 ∧ row'.lineOffset = 0)

theorem reset_rows {t t' : LogOffsets} {inode : Option String}
    {size : Nat} (h : LogOffsets.reset t agentId logPath inode size timestamp = some t')
    (hrow : t.get k = some row) :
    ∃ row', t'.get k = some row' ∧ SameOrZero row row' := by
  rw [LogOffsets.get_update_row h, hrow]
  by_cases hk : k = (agentId, logPath)
  · rw [if_pos hk]
    exact ⟨_, rfl, .inr ⟨rfl, rfl⟩⟩
  · rw [if_neg hk]
    exact ⟨row, rfl, .inl ⟨rfl, rfl⟩⟩

theorem attach_rows {c : AttachCall} {o : Outside} {attached : Attached}
    (h : attachLogLocked t c o = .ok attached) (hrow : t.offsets.get k = some row) :
    ∃ row', attached.tables.offsets.get k = some row' ∧ SameOrZero row row' := by
  cases attach_effect h with
  | active => exact ⟨row, hrow, .inl ⟨rfl, rfl⟩⟩
  | resumed hexisting hprior hsupersede hstatus hoffsets =>
    rcases resumeOffsets_eq_ok hoffsets with rfl | hreset
    · exact ⟨row, hrow, .inl ⟨rfl, rfl⟩⟩
    · exact reset_rows hreset hrow
  | inserted hsupersede hinsert hoffsets =>
    refine ⟨row, ?_, .inl ⟨rfl, rfl⟩⟩
    have hfresh := (Table.insert_eq_some hoffsets).1
    show Table.get _ k = some row
    rw [Table.get_insert hoffsets, if_neg]
    · exact hrow
    · rintro rfl
      rw [hfresh] at hrow
      cases hrow

theorem recovery_rows {stat : Option FileStat} {result : ReaderCycleResult}
    (h : readerCycleOffsetRecovery t agentId logPath stat timestamp = some result)
    (hrow : t.offsets.get k = some row) :
    ∃ row', result.tables.offsets.get k = some row' ∧ SameOrZero row row' := by
  cases recovery_effect h with
  | nothing | stale => exact ⟨row, hrow, .inl ⟨rfl, rfl⟩⟩
  | restarted _ _ _ _ _ _ hreset => exact reset_rows hreset hrow

theorem step_rows (h : step env s l = some s') (hcycle : ∀ id io, l ≠ .cycle id io)
    (hrow : s.tables.offsets.get k = some row) :
    ∃ row', s'.tables.offsets.get k = some row' ∧ SameOrZero row row' := by
  by_cases hl : ∃ c o newInode, l = .attach c o newInode
  · obtain ⟨c, o, newInode, rfl⟩ := hl
    cases h
    rcases attach_cases s c o newInode with hsame | ⟨f, attached, -, hok, heq⟩
    · rw [hsame]
      exact ⟨row, hrow, .inl ⟨rfl, rfl⟩⟩
    · rw [heq]
      exact attach_rows hok hrow
  · have hframe := (step_frame h hcycle fun c o n heq => hl ⟨c, o, n, heq⟩).1
    rw [hframe.offsets]
    exact ⟨row, hrow, .inl ⟨rfl, rfl⟩⟩

theorem SameOrZero.eq_of_not_setBack {row' : LogOffsetRecord}
    (h : SameOrZero row row') (hrow : s.tables.offsets.get k = some row)
    (hrow' : s'.tables.offsets.get k = some row') (hback : setBack s s' k = false) :
    row'.byteOffset = row.byteOffset ∧ row'.lineOffset = row.lineOffset := by
  unfold setBack at hback
  rw [hrow, hrow'] at hback
  simp only [Bool.or_eq_false_iff, decide_eq_false_iff_not] at hback
  unfold SameOrZero at h
  omega

theorem ensureFile_kept {newInode : String} (hf : s.files p = some f) :
    (ensureFile s path newInode).files p = some f := by
  unfold ensureFile
  split
  · exact hf
  · rename_i hnone
    refine (if_neg ?_).trans hf
    rintro rfl
    rw [hf] at hnone
    cases hnone

theorem write_other (h : p ≠ path) (f : Option File) :
    (s.write path f).files p = s.files p := if_neg h

theorem step_files (h : step env s l = some s') (hcycle : ∀ id io, l ≠ .cycle id io)
    (hf : s.files path = some f) (hkeeps : losesBytes s path l = false) :
    ∃ f', s'.files path = some f' ∧ f.content <+: f'.content := by
  have hkept : s'.files path = some f → ∃ f', s'.files path = some f' ∧ f.content <+: f'.content :=
    fun hf' => ⟨f, hf', prefix_rfl⟩
  cases l with
  | cycle id io => exact absurd rfl (hcycle id io)
  | attach c o newInode =>
    cases h
    rcases attach_cases s c o newInode with hsame | ⟨f', attached, -, -, heq⟩
    · exact hkept (by rw [hsame]; exact hf)
    · exact hkept (by rw [heq]; exact ensureFile_kept hf)
  | detach agentId o =>
    simp only [step] at h
    split at h <;> cases h <;> exact hkept hf
  | cascade paneKeys now =>
    obtain ⟨attachments, -, rfl⟩ := Option.map_eq_some_iff.mp h
    exact hkept hf
  | restart =>
    cases h
    exact hkept hf
  | append p bytes =>
    obtain ⟨f₀, hf₀, rfl⟩ := Option.map_eq_some_iff.mp h
    by_cases hp : path = p
    · subst hp
      rw [hf] at hf₀
      cases hf₀
      exact ⟨_, if_pos rfl, prefix_append _ _⟩
    · exact hkept ((write_other hp _).trans hf)
  | truncate p size =>
    obtain ⟨f₀, hf₀, rfl⟩ := Option.map_eq_some_iff.mp h
    by_cases hp : path = p
    · subst hp
      rw [hf] at hf₀
      cases hf₀
      refine ⟨_, if_pos rfl, ?_⟩
      -- nothing is cut off
      have hlong : f.content.length ≤ size := by simpa [losesBytes, hf] using hkeeps
      show f.content <+: f.content.take size
      rw [take_of_length_le hlong]
    · exact hkept ((write_other hp _).trans hf)
  | delete p =>
    obtain ⟨f₀, -, rfl⟩ := Option.map_eq_some_iff.mp h
    have hp : path ≠ p := by
      rintro rfl
      simp [losesBytes] at hkeeps
    exact hkept ((write_other hp _).trans hf)
  | create p f₀ =>
    simp only [step] at h
    split at h <;> cases h
    rename_i hnone
    have hp : path ≠ p := by
      rintro rfl
      rw [hf] at hnone
      cases hnone
    exact hkept ((write_other hp _).trans hf)

/-! ## One step -/

variable {T T' : Tracked}

/-- A window that starts where it did; its stamp is still the current one only if nothing has happened
to its file and its offsets. -/
theorem GenInv.ahead_kept (h : GenInv env T) {key : String × EventType}
    (hhead : (T.held.of key).head? = some p₀)
    (hgeneration : ∀ path, T.generation path ≤ T'.generation path)
    (hsetBacks : ∀ k, T.setBacks k ≤ T'.setBacks k)
    (hcurrent : p₀.stamp = T'.stampAt p₀.stamp.agentPath) :
    Ahead env T.base p₀ ∧ T'.generation p₀.stamp.agentPath.2 = T.generation p₀.stamp.agentPath.2 ∧
      T'.setBacks p₀.stamp.agentPath = T.setBacks p₀.stamp.agentPath := by
  obtain ⟨hpast, hpast'⟩ := h.past key p₀ hhead
  have hgen := hgeneration p₀.stamp.agentPath.2
  have hset := hsetBacks p₀.stamp.agentPath
  have hgen' : p₀.stamp.generation = T'.generation p₀.stamp.agentPath.2 := congrArg _ hcurrent
  have hset' : p₀.stamp.setBacks = T'.setBacks p₀.stamp.agentPath := congrArg _ hcurrent
  have hgenSame : T'.generation p₀.stamp.agentPath.2 = T.generation p₀.stamp.agentPath.2 := by omega
  have hsetSame : T'.setBacks p₀.stamp.agentPath = T.setBacks p₀.stamp.agentPath := by omega
  refine ⟨h.ahead key p₀ hhead (hcurrent.trans ?_), hgenSame, hsetSame⟩
  unfold Tracked.stampAt
  rw [hgenSame, hsetSame]

theorem GenInv.kept (h : GenInv env T) (hheld : T'.held = T.held)
    (hwindows : T'.base.windows = T.base.windows) (hgeneration : ∀ path, T'.generation path
      = T.generation path + if losesBytes T.base path l then 1 else 0)
    (hsetBacks : ∀ k, T'.setBacks k = T.setBacks k + if setBack T.base T'.base k then 1 else 0)
    (hrows : ∀ k row, T.base.tables.offsets.get k = some row →
      ∃ row', T'.base.tables.offsets.get k = some row' ∧ SameOrZero row row')
    (hfiles : ∀ path f, T.base.files path = some f → losesBytes T.base path l = false →
      ∃ f', T'.base.files path = some f' ∧ f.content <+: f'.content) : GenInv env T' := by
  have hgen : ∀ path, T.generation path ≤ T'.generation path := fun path => by
    rw [hgeneration]
    omega
  have hset : ∀ k, T.setBacks k ≤ T'.setBacks k := fun k => by
    rw [hsetBacks]
    omega
  refine ⟨by rw [hheld, hwindows]; exact h.held, fun key p₀ hhead => ?_,
    fun key p₀ hhead hcurrent => ?_⟩
  · rw [hheld] at hhead
    obtain ⟨hpast, hpast'⟩ := h.past key p₀ hhead
    exact ⟨hpast.trans (hgen _), hpast'.trans (hset _)⟩
  · rw [hheld] at hhead
    obtain ⟨hahead, hgenSame, hsetSame⟩ := h.ahead_kept hhead hgen hset hcurrent
    -- the counters stand still, so the step has cut nothing off and set nothing back
    have hkeeps : losesBytes T.base p₀.stamp.agentPath.2 l = false := by
      simpa [hgeneration] using hgenSame
    have hback : setBack T.base T'.base p₀.stamp.agentPath = false := by
      simpa [hsetBacks] using hsetSame
    refine hahead.mono (fun row hrow => ?_) fun f hf => hfiles _ f hf hkeeps
    obtain ⟨row', hrow', hsame⟩ := hrows _ row hrow
    exact ⟨row', hrow', hsame.eq_of_not_setBack hrow hrow' hback⟩

theorem GenInv.ready (h : GenInv env T)
    (hhands : cycleHands env T.base a io = some (row, b)) (hf : T.base.files a.logPath = some f)
    (hok : cycleIsCurrent env T a io = true) (hlines : b.advanceLines ≠ 0) :
    Ready env a.attachmentId io (T.stamp a) T.base.windows T.held
      (completeRaw (readBytes f.content row.byteOffset env.byteCap)) row.byteOffset row.lineOffset := by
  intro w hget hrunning p₀ hhead
  have hcurrent : runningIsCurrent env T a io = true := by
    unfold cycleIsCurrent at hok
    rw [hhands] at hok
    simpa [hlines] using hok
  have hstamp : p₀.stamp = T.stamp a := by
    unfold runningIsCurrent at hcurrent
    rw [hget] at hcurrent
    simp only [hrunning, Bool.false_or, all_eq_true, decide_eq_true_eq] at hcurrent
    exact hcurrent p₀ (mem_of_head? hhead)
  have hpath : p₀.stamp.agentPath = a.agentPath := congrArg Stamp.agentPath hstamp
  have hahead := h.ahead _ p₀ hhead (by rw [hstamp]; rfl)
  refine ⟨hstamp, hahead.ready ?_ ?_⟩
  · rw [hpath]
    exact (cycleBatch_eq_some (cycleHands_eq_some hhands)).1
  · rw [hpath]
    exact hf

theorem GenInv.batch (h : GenInv env T) (hhands : cycleHands env T.base a io = some (row, b))
    (hok : cycleIsCurrent env T a io = true) :
    HeldOk b.windows (cyclePieces env T a io).1 ∧
      List.Forall₂ PendingEvent.Sound b.events (cyclePieces env T a io).2 := by
  obtain ⟨-, f, hf, hread⟩ := cycleBatch_eq_some (cycleHands_eq_some hhands)
  unfold cyclePieces
  simp only [hhands, hf]
  exact readBatch_sound h.held hread (h.ready hhands hf hok)

theorem GenInv.hands (hwindow : 0 < env.windowSeconds) (h : GenInv env T)
    (hhands : cycleHands env T.base a io = some (row, b))
    (hok : cycleIsCurrent env T a io = true) (seen : String × String → Option String) :
    GenInv env
      { base := { finishCycle T.base a row b io with seen }
        generation := T.generation
        setBacks := T.setBacks
        held := (cyclePieces env T a io).1 } := by
  have hbatch := cycleHands_eq_some hhands
  obtain ⟨hrow, f, hf, -⟩ := cycleBatch_eq_some hbatch
  have hwindows := (finishCycle_frame T.base a row b io).2
  -- a window begins where it did before, or with the first record of this batch
  have hheads : ∀ {key p₀}, ((cyclePieces env T a io).1.of key).head? = some p₀ →
      (T.held.of key).head? = some p₀ ∨
        ∃ pre raw, FirstEligible env (completeRaw (readBytes f.content row.byteOffset env.byteCap)) pre raw ∧
          p₀ = pieceAt (T.stamp a) (row.byteOffset + span pre) (row.lineOffset + pre.length) raw := by
    intro key p₀ hhead
    unfold cyclePieces at hhead
    simp only [hhands, hf] at hhead
    exact head_readBatch hwindow h.held hhead
  refine ⟨?_, fun key p₀ hhead => ?_, fun key p₀ hhead hcurrent => ?_⟩
  · show HeldOk (finishCycle T.base a row b io).windows _
    rw [hwindows]
    exact (h.batch hhands hok).1
  · rcases hheads hhead with hold | ⟨pre, raw, -, rfl⟩
    · exact h.past key p₀ hold
    · exact ⟨Nat.le_refl _, Nat.le_refl _⟩
  · show Ahead env (finishCycle T.base a row b io) p₀
    rcases hheads hhead with hold | ⟨pre, raw, hfirst, rfl⟩
    · exact (h.ahead key p₀ hold hcurrent).finishCycle hbatch
    · exact ahead_opened rfl hbatch hf hfirst

theorem setBack_finishCycle
    (hrow : s.tables.offsets.get (a.agentId, a.logPath) = some row) (k : String × String)
    (seen : String × String → Option String) :
    setBack s { finishCycle s a row b io with seen } k = false := by
  unfold setBack
  rcases finishCycle_offsets s a row b io hrow k with hsame | ⟨rfl, row', hrow', hbyte, hline⟩
  · simp only [hsame]
    cases s.tables.offsets.get k with
    | none => rfl
    | some o => simp
  · simp only [hrow, hrow', hbyte, hline]
    simp

theorem activeById_eq_some (h : activeById s attachmentId = some a) :
    step env s (.cycle attachmentId io) = some (runCycleForAttachment env s a io) := by
  unfold activeById at h
  simp only [step, h, Option.map_some]

theorem GenInv.cycle (hwindow : 0 < env.windowSeconds) (h : GenInv env T)
    (hok : readsCurrent env T (.cycle attachmentId io) = true)
    (hstep : trackStep env T (.cycle attachmentId io) = some T') : GenInv env T' := by
  obtain ⟨s', hs', rfl⟩ := Option.map_eq_some_iff.mp hstep
  cases hactive : activeById T.base attachmentId with
  | none =>
    unfold activeById at hactive
    simp [step, hactive] at hs'
  | some a =>
    rw [activeById_eq_some hactive] at hs'
    cases hs'
    have hcurrent : cycleIsCurrent env T a io = true := by
      simpa [readsCurrent, hactive] using hok
    obtain ⟨seen, heq⟩ := runCycleForAttachment_eq env T.base a io
    simp only [heq, heldAfter, hactive]
    rcases runCycle_cases env T.base a io with ⟨hnone, hcycle⟩ | ⟨row, b, hhands, hcycle⟩
    · -- no batch: the cycle ended early, or its recovery set the offsets back
      have hpieces : (cyclePieces env T a io).1 = T.held := by
        unfold cyclePieces
        rw [hnone]
      have hfiles : ∀ path f, T.base.files path = some f → losesBytes T.base path
          (.cycle attachmentId io) = false → ∃ f', T.base.files path = some f' ∧
            f.content <+: f'.content := fun path f hf _ => ⟨f, hf, prefix_rfl⟩
      rcases hcycle with hsame | ⟨result, hrecovery, htables⟩
      · rw [hsame]
        exact h.kept hpieces rfl (fun _ => rfl) (fun _ => rfl)
          (fun k row hrow => ⟨row, hrow, .inl ⟨rfl, rfl⟩⟩) hfiles
      · rw [htables]
        exact h.kept hpieces rfl (fun _ => rfl) (fun _ => rfl)
          (fun k row hrow => recovery_rows hrecovery hrow) hfiles
    · have hrow := (cycleBatch_eq_some (cycleHands_eq_some hhands)).1
      have hhands' := h.hands hwindow hhands hcurrent seen
      simp only [hcycle]
      simp only [setBack_finishCycle hrow, losesBytes, Bool.false_eq_true, if_false, Nat.add_zero]
      exact hhands'

theorem GenInv.step (hwindow : 0 < env.windowSeconds) (h : GenInv env T)
    (hok : readsCurrent env T l = true) (hstep : trackStep env T l = some T') : GenInv env T' := by
  by_cases hl : ∃ id io, l = .cycle id io
  · obtain ⟨id, io, rfl⟩ := hl
    exact h.cycle hwindow hok hstep
  · have hcycle : ∀ id io, l ≠ .cycle id io := fun id io heq => hl ⟨id, io, heq⟩
    obtain ⟨s', hs', rfl⟩ := Option.map_eq_some_iff.mp hstep
    by_cases hrestart : l = .restart
    · -- all windows are gone
      subst hrestart
      cases hs'
      exact ⟨nofun, nofun,
        nofun⟩
    · have hheld : heldAfter env T l = T.held := by
        cases l with
        | cycle id io => exact absurd rfl (hcycle id io)
        | restart => exact absurd rfl hrestart
        | attach | detach | cascade | append | truncate | delete | create => rfl
      have hwindows : s'.windows = T.base.windows := by
        by_cases hattach : ∃ c o newInode, l = .attach c o newInode
        · obtain ⟨c, o, newInode, rfl⟩ := hattach
          cases hs'
          rcases attach_cases T.base c o newInode with hsame | ⟨f, attached, -, -, heq⟩
          · rw [hsame]
          · rw [heq]
        · exact (step_frame hs' hcycle fun c o n heq => hattach ⟨c, o, n, heq⟩).2 hrestart
      exact h.kept hheld hwindows (fun _ => rfl) (fun _ => rfl)
        (fun k row hrow => step_rows hs' hcycle hrow)
        fun path f hf hkeeps => step_files hs' hcycle hf hkeeps

/-! ## The result -/

abbrev TrackReach (env : ReaderEnv) : Tracked → Prop :=
  Reach (trackStep env) (fun T l => readsCurrent env T l = true) Tracked.init

theorem GenInv.of_reach (hwindow : 0 < env.windowSeconds) (h : TrackReach env T) : GenInv env T := by
  refine h.invariant (GenInv env) ?_ fun _ _ _ hinv hok hstep => hinv.step hwindow hok hstep
  exact ⟨nofun, nofun,
    nofun⟩

/-- After any history in which no cycle has read records into a running window from before the file
lost bytes or the offsets were set back: every event that the next such cycle hands to `insert_event`
has its ranges in order, passes the checks and is made of records of one generation of the file; so the
transaction does not fail because of them. -/
theorem handed_events_in_range (hwindow : 0 < env.windowSeconds) (h : TrackReach env T)
    {attachmentId : String} (hactive : activeById T.base attachmentId = some a)
    (hok : readsCurrent env T (.cycle attachmentId io) = true) {row : LogOffsetRecord} {b : Batch}
    (hhands : cycleHands env T.base a io = some (row, b)) :
    List.Forall₂ (fun ev pieces =>
        (0 ≤ ev.byteRangeStart ∧ ev.byteRangeStart ≤ ev.byteRangeEnd) ∧
        ev.lineOffsetStart ≤ ev.lineOffsetEnd ∧ (PendingEvent.row a ev).check = true ∧
        ev.MadeOf pieces ∧ ∃ generation, ∀ p ∈ pieces, p.stamp.generation = generation)
      b.events (cyclePieces env T a io).2 ∧
    (commitEventsAndAdvance T.base.tables T.base.events a row b io = none → io.commits = false) := by
  have hcurrent : cycleIsCurrent env T a io = true := by simpa [readsCurrent, hactive] using hok
  have hsound := ((GenInv.of_reach hwindow h).batch hhands hcurrent).2
  constructor
  · refine hsound.imp fun ev pieces hev => ?_
    obtain ⟨hbytes, hlines, -⟩ := hev.ranges
    obtain ⟨σ, hσ⟩ := hev.2.stamp
    exact ⟨⟨Nat.zero_le _, hbytes⟩, hlines, hev.check a, hev.1, σ.generation,
      fun p hp => by rw [hσ p hp]⟩
  · intro hnone
    have hrow := (cycleBatch_eq_some (cycleHands_eq_some hhands)).1
    have hall := all_check hsound a
    -- the checks pass and the row is there, so only SQLite itself can fail
    by_contra hcommits
    rw [Bool.not_eq_false] at hcommits
    obtain ⟨offsets, hadvance⟩ := LogOffsets.update_row_succeeds T.base.tables.offsets
      (LogOffsets.ofAgentPath a.agentId a.logPath) (LogOffsets.setAdvance (b.advance row io.nowIso))
    simp [commitEventsAndAdvance, hcommits, hall, LogOffsets.advanceOffset, hrow, hadvance] at hnone

/-- Two windows; the file is gone and the attachment stale; the agent attaches the path again. -/
def againLabels : List Label :=
  [.attach (sampleCall "/logs/a") (sampleOutside "lat_1" "t1") "8:1",
    .append "/logs/a" [97, 97, 10], cycleSample "t2" 1 true,
    .append "/logs/a" [98, 98, 10], cycleSample "t3" 10 true,
    .delete "/logs/a", cycleSample "t4" 11 true,
    .attach (sampleCall "/logs/a") (sampleOutside "lat_2" "t5") "8:2",
    .append "/logs/a" [99, 10]]

def handedSample (T : Tracked) (io : CycleInput) : List (Nat × Nat) :=
  match (activeById T.base "lat_1").bind fun a => cycleHands sampleEnv T.base a io with
  | some (_, b) => b.events.map fun ev => (ev.byteRangeStart, ev.byteRangeEnd)
  | none => []

def lateInput : CycleInput := ⟨"t7", 20, ["w1"], true, true, true⟩

/-- The new file is read when the old window is over: its event has the old range. -/
theorem handed_events_in_range_late :
    ∃ T a row b, TrackReach sampleEnv T ∧ activeById T.base "lat_1" = some a ∧
      cycleHands sampleEnv T.base a lateInput = some (row, b) ∧
      b.events.map (fun ev => (ev.byteRangeStart, ev.byteRangeEnd)) = [(3, 6)] ∧
      ∀ ev ∈ b.events, (PendingEvent.row a ev).check = true := by
  have hrun : (runWhile (trackStep sampleEnv) (readsCurrent sampleEnv) Tracked.init
      againLabels).any (fun T => readsCurrent sampleEnv T (.cycle "lat_1" lateInput) &&
        decide (handedSample T lateInput = [(3, 6)])) = true := by decide +kernel
  obtain ⟨T, hrun, hT⟩ := (Option.any_eq_true _ _).mp hrun
  rw [Bool.and_eq_true, decide_eq_true_eq] at hT
  obtain ⟨hok, hranges⟩ := hT
  unfold handedSample at hranges
  split at hranges
  · rename_i row b hhands
    obtain ⟨a, hactive, hhands⟩ := Option.bind_eq_some_iff.mp hhands
    have hreach : TrackReach sampleEnv T := reach_of_runWhile .start hrun
    have hsound := (handed_events_in_range (by decide) hreach hactive hok hhands).1
    refine ⟨T, a, row, b, hreach, hactive, hhands, hranges, fun ev hev => ?_⟩
    obtain ⟨i, hi, rfl⟩ := mem_iff_getElem.mp hev
    have hget := (forall₂_iff_get.mp hsound).2 i hi
      (by rw [← (forall₂_iff_get.mp hsound).1]; exact hi)
    exact hget.2.2.1
  · cases hranges

/-- The new file is read while the old window is running: the window has the start of a record of the
old file and the end of one of the new file.  When it is over, `insert_event` refuses its event, and the
cycle fails. -/
theorem window_outlives_file :
    ((run (trackStep sampleEnv) Tracked.init
      (againLabels ++ [cycleSample "t6" 12 true])).map fun T =>
        (handedSample T lateInput, T.base.events.length)) = some ([(3, 2)], 1) ∧
    ((run (trackStep sampleEnv) Tracked.init
      (againLabels ++ [cycleSample "t6" 12 true, .cycle "lat_1" lateInput])).map fun T =>
        (T.base.events.length, (T.base.windows.get ("lat_1", .activity)).isSome))
      = some (1, false) := by decide +kernel

end AgentTower.Events
