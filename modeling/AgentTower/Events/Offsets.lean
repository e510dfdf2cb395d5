import AgentTower.Events.Generations

/-!
# Offsets of a file that is only appended to

The two counters stay together, and a new attach of the path keeps them, unless the attachment had
become stale: its check takes a row without an inode for one of another file, and the reader never
gives it one.
-/

namespace AgentTower.Events

open Transition List
open Logs
open LogOffsets (get_advanceOffset setAdvance)

theorem diskLength_modifyHead (b : UInt8) (raws : List (List UInt8)) :
    diskLength (raws.modifyHead (b :: ·)) = diskLength raws + if raws = [] then 0 else 1 := by
  cases raws with
  | nil => rfl
  | cons raw rest =>
    simp only [diskLength, modifyHead_cons, map_cons, sum_cons, length_cons, reduceCtorEq, if_false]
    omega

/-- The complete records end with the last newline, and there is one for each newline. -/
theorem completeRaw_newlines (raw : List UInt8) :
    ∃ done rest, raw = done ++ rest ∧ done.length = diskLength (completeRaw raw) ∧
      done.count 10 = (completeRaw raw).length ∧ 10 ∉ rest ∧
      (completeRaw raw ≠ [] → done.getLast? = some 10) := by
  induction raw with
  | nil => exact ⟨[], [], rfl, rfl, rfl, not_mem_nil, fun h => absurd rfl h⟩
  | cons b raw ih =>
    obtain ⟨done, rest, hraw, hlength, hcount, hrest, hlast⟩ := ih
    rw [completeRaw_cons]
    by_cases hb : b = 10
    · subst hb
      refine ⟨10 :: done, rest, by rw [hraw]; rfl, ?_, ?_, hrest, fun _ => ?_⟩
      · simp only [beq_self_eq_true, if_true, diskLength, map_cons, sum_cons,
          length_cons, length_nil] at hlength ⊢
        omega
      · simp [hcount]
      · by_cases hnone : completeRaw raw = []
        · rw [hnone] at hlength
          rw [eq_nil_of_length_eq_zero hlength]
          rfl
        · rw [List.getLast?_cons, hlast hnone]
          rfl
    · rw [if_neg (by simpa using hb), diskLength_modifyHead, length_modifyHead]
      by_cases hnone : completeRaw raw = []
      · -- no newline yet
        rw [hnone] at hlength hcount ⊢
        obtain rfl := eq_nil_of_length_eq_zero hlength
        refine ⟨[], b :: rest, by rw [hraw]; rfl, rfl, rfl, ?_, fun h => absurd rfl h⟩
        simpa [Ne.symm hb] using hrest
      · refine ⟨b :: done, rest, by rw [hraw]; rfl, ?_, ?_, hrest, fun _ => ?_⟩
        · simp [hnone, hlength]
        · simp [hb, hcount]
        · rw [List.getLast?_cons, hlast hnone]
          rfl

/-! ## What has been read -/

/-- The offsets of a row against the bytes before them: the last of these is a newline, or they end
in `byteCap` bytes of one line. -/
structure ReadTo (byteCap : Nat) (o : LogOffsetRecord) (done : List UInt8) : Prop where
  bytes : done.length = o.byteOffset
  lines : o.lineOffset = done.count 10
  ending : done = [] ∨ done.getLast? = some 10 ∨
    (0 < byteCap ∧ byteCap ≤ done.length) ∧ 10 ∉ done.drop (done.length - byteCap)

variable {env : ReaderEnv} {s s' : State} {a : LogAttachmentRecord} {io : CycleInput}
  {k : String × String} {o row : LogOffsetRecord} {b : Batch}

theorem ReadTo.readBatch {content : List UInt8} {windows : Windows} {attachmentId : String}
    (h : ReadTo env.byteCap row (content.take row.byteOffset))
    (hread : readBatch env attachmentId io windows row
      (readBytes content row.byteOffset env.byteCap) = some b) :
    ReadTo env.byteCap ((setAdvance (b.advance row io.nowIso)).set row)
      (content.take (row.byteOffset + b.advanceBytes)) := by
  generalize hnew : readBytes content row.byteOffset env.byteCap = new at hread
  obtain ⟨done, rest, hsplit, hlength, hcount, hrest, hlast⟩ := completeRaw_newlines new
  have hcap : new.length ≤ env.byteCap := by
    rw [← hnew, readBytes, length_take]
    exact Nat.min_le_left _ _
  -- what is read next starts where the row ends
  have htake : ∀ n ≤ new.length,
      content.take (row.byteOffset + n) = content.take row.byteOffset ++ new.take n := by
    intro n hn
    rw [take_add, ← hnew, readBytes, take_take, Nat.min_eq_left (hn.trans hcap)]
  have hbytes := h.bytes
  rcases readBatch_advance hread with ⟨hnone, hlines, hzero | ⟨hall, hsome, hfull⟩⟩ | ⟨hall, hlines⟩
  · rw [hzero, Nat.add_zero]
    refine ⟨?_, ?_, h.ending⟩
    · simpa [setAdvance, Batch.advance, hzero] using hbytes
    · simpa [setAdvance, Batch.advance, hlines] using h.lines
  · rw [hnone] at hlength hcount
    obtain rfl := eq_nil_of_length_eq_zero hlength
    rw [nil_append] at hsplit
    subst hsplit
    have heq : new.length = env.byteCap := Nat.le_antisymm hcap hfull
    rw [hall, htake _ (Nat.le_refl _), take_length]
    have hpos := length_pos_iff.mpr hsome
    refine ⟨?_, ?_, .inr (.inr ⟨?_, ?_⟩)⟩
    · simp [setAdvance, Batch.advance, hall, hbytes]
    · simp [setAdvance, Batch.advance, hlines, h.lines, count_eq_zero.mpr hrest]
    · rw [length_append]
      omega
    · rw [length_append, ← heq, Nat.add_sub_cancel, drop_left]
      exact hrest
  · have hle : done.length ≤ new.length := by
      rw [hsplit, length_append]
      omega
    have hdone : new.take done.length = done := by rw [hsplit, take_left]
    rw [hall, ← hlength, htake _ hle, hdone]
    refine ⟨?_, ?_, ?_⟩
    · simp [setAdvance, Batch.advance, hall, hlength, hbytes]
    · simp [setAdvance, Batch.advance, hlines, h.lines, hcount]
    · by_cases hempty : completeRaw new = []
      · rw [hempty] at hlength
        rw [eq_nil_of_length_eq_zero hlength, append_nil]
        exact h.ending
      · right
        left
        rw [List.getLast?_append, hlast hempty]
        rfl

def CountsLines (byteCap : Nat) (k : String × String) (s : State) : Prop :=
  ∃ o f, s.tables.offsets.get k = some o ∧ s.files k.2 = some f ∧ s.Observed k o ∧
    ReadTo byteCap o (f.content.take o.byteOffset)

theorem CountsLines.cycle (h : CountsLines env.byteCap k s) (heffect : CycleEffect env s a io s') :
    CountsLines env.byteCap k s' := by
  obtain ⟨o, f, hrow, hfile, hobserved, hread⟩ := h
  cases heffect with
  | nothing | failed => exact ⟨o, f, hrow, hfile, hobserved, hread⟩
  | recovered hrecovery => exact ⟨o, f, hobserved.recovery hrow hrecovery, hfile, hobserved, hread⟩
  | @committed row b offsets hbatch hadvance =>
    by_cases hk : k = (a.agentId, a.logPath)
    · subst hk
      obtain ⟨hrow', f', hfile', hbatch⟩ := cycleBatch_eq_some hbatch
      rw [hrow] at hrow'
      cases hrow'
      rw [show s.files a.logPath = some f from hfile] at hfile'
      cases hfile'
      refine ⟨(setAdvance (b.advance o io.nowIso)).set o, f, ?_, hfile, hobserved,
        hread.readBatch hbatch⟩
      rw [get_advanceOffset hadvance, if_pos rfl, hrow]
      rfl
    · refine ⟨o, f, ?_, hfile, hobserved, hread⟩
      rw [get_advanceOffset hadvance, if_neg hk]
      exact hrow

theorem CountsLines.append (h : CountsLines env.byteCap k s) {path : String} {f : File}
    (hf : s.files path = some f) (bytes : List UInt8) :
    CountsLines env.byteCap k (s.write path (some { f with content := f.content ++ bytes })) := by
  obtain ⟨o, f', hrow, hfile, hobserved, hread⟩ := h
  by_cases hpath : k.2 = path
  · rw [hpath, hf] at hfile
    cases hfile
    refine ⟨o, _, hrow, if_pos hpath, hobserved.append hf bytes, ?_⟩
    -- the bytes before the offset are in the file already
    have hle : o.byteOffset ≤ f.content.length := by
      rw [← hread.bytes, length_take]
      exact Nat.min_le_right _ _
    rw [take_append_of_le_length hle]
    exact hread
  · exact ⟨o, f', hrow, (if_neg hpath).trans hfile, hobserved.append hf bytes, hread⟩

theorem CountsLines.step {l : Label} (h : CountsLines env.byteCap k s)
    (hl : l.readsAndAppends = true) (hstep : step env s l = some s') :
    CountsLines env.byteCap k s' := by
  cases l with
  | cycle attachmentId io =>
    obtain ⟨a, -, -, rfl⟩ := step_cycle hstep
    have hcycle := h.cycle (runCycle_effect env s a io)
    obtain ⟨seen, heq⟩ := runCycleForAttachment_eq env s a io
    rw [heq]
    exact hcycle
  | append path bytes =>
    obtain ⟨f, hf, rfl⟩ := Option.map_eq_some_iff.mp hstep
    exact h.append hf bytes
  | restart =>
    cases hstep
    exact h
  | attach | detach | cascade | truncate | delete | create => cases hl

/-- For every file that is only appended to, from offsets at zero and with any cap: the stored line
offset is the number of newlines before the byte offset, which is within the file and at its start,
just after a newline, or after as many bytes of one line as the cap allows. -/
theorem line_offset_counts_newlines {s₀ : State} {o₀ : LogOffsetRecord} {f₀ : File}
    (h : Reach (step env) (fun _ l => l.readsAndAppends = true) s₀ s)
    (hrow : s₀.tables.offsets.get k = some o₀) (hobserved : s₀.Observed k o₀)
    (hfile : s₀.files k.2 = some f₀) (hzero : o₀.byteOffset = 0 ∧ o₀.lineOffset = 0) :
    ∃ o f, s.tables.offsets.get k = some o ∧ s.files k.2 = some f ∧
      o.byteOffset ≤ f.content.length ∧
      o.lineOffset = (f.content.take o.byteOffset).count 10 ∧
      (o.byteOffset = 0 ∨ (f.content.take o.byteOffset).getLast? = some 10 ∨
        (0 < env.byteCap ∧ env.byteCap ≤ o.byteOffset) ∧
          10 ∉ (f.content.take o.byteOffset).drop (o.byteOffset - env.byteCap)) := by
  have hinit : CountsLines env.byteCap k s₀ := by
    refine ⟨o₀, f₀, hrow, hfile, hobserved, ?_⟩
    rw [hzero.1]
    exact ⟨hzero.1.symm, hzero.2, .inl rfl⟩
  obtain ⟨o, f, hget, hf, -, hread⟩ := h.invariant (CountsLines env.byteCap k) hinit
    fun _ _ _ hinv hl hstep => hinv.step hl hstep
  have hbytes := hread.bytes
  refine ⟨o, f, hget, hf, ?_, hread.lines, ?_⟩
  · rw [← hbytes, length_take]
    exact Nat.min_le_right _ _
  · have hending := hread.ending
    rw [hbytes] at hending
    refine hending.imp_left fun hnil => ?_
    rw [← hbytes, hnil]
    rfl

/-- A line, and as much of a longer one as the cap of six allows. -/
theorem line_offset_counts_newlines_split :
    ∃ s o, run (step sampleEnv) attachedSample
        [.append "/logs/a" [97, 10, 98, 98, 98, 98, 98, 98, 98], cycleSample "t2" 1 true,
          cycleSample "t3" 2 true] = some s ∧
      s.tables.offsets.get sampleKey = some o ∧ o.byteOffset = 8 ∧ o.lineOffset = 1 ∧
      ∃ f, s.files "/logs/a" = some f ∧ o.lineOffset = (f.content.take o.byteOffset).count 10 := by
  obtain ⟨o₀, ho₀, hzero, hnone⟩ : ∃ o, attachedSample.tables.offsets.get sampleKey = some o ∧
      (o.byteOffset = 0 ∧ o.lineOffset = 0) ∧ o.fileInode = none := by decide +kernel
  obtain ⟨s, hs, o', ho', hbyte, hline⟩ : ∃ s, runWhile (step sampleEnv)
      (fun _ l => l.readsAndAppends) attachedSample
      [.append "/logs/a" [97, 10, 98, 98, 98, 98, 98, 98, 98], cycleSample "t2" 1 true,
        cycleSample "t3" 2 true] = some s ∧
      ∃ o, s.tables.offsets.get sampleKey = some o ∧ o.byteOffset = 8 ∧ o.lineOffset = 1 := by
    decide +kernel
  have hobserved : attachedSample.Observed sampleKey o₀ := fun inode hinode => by
    rw [hnone] at hinode
    cases hinode
  obtain ⟨o, f, ho, hf, -, hlines, -⟩ :=
    line_offset_counts_newlines (reach_of_runWhile .start hs) ho₀ hobserved rfl hzero
  rw [ho'] at ho
  cases ho
  exact ⟨s, o', run_of_runWhile hs, ho', hbyte, hline, f, hf, hlines⟩

/-! ## Attaching the path again -/

theorem State.Observed.ensureFile (h : s.Observed k o) (path newInode : String) :
    (Events.ensureFile s path newInode).Observed k o := by
  intro inode hinode
  obtain ⟨f, hf, hsame⟩ := h inode hinode
  refine ⟨f, ?_, hsame⟩
  unfold Events.ensureFile
  split
  · exact hf
  · rename_i hnone
    refine (if_neg fun hpath => ?_).trans hf
    rw [← hpath, hf] at hnone
    cases hnone

theorem State.Observed.intact {f : File} (h : s.Observed k o) (hf : s.files k.2 = some f)
    (hinode : o.fileInode.isSome = true) :
    fileConsistencyIntact (some f.stat) o.fileInode o.fileSizeSeen = true := by
  obtain ⟨inode, hinode⟩ := Option.isSome_iff_exists.mp hinode
  obtain ⟨f', hf', hsame, hsize⟩ := h inode hinode
  rw [hf] at hf'
  cases hf'
  rw [hinode]
  exact decide_eq_true ⟨hsame, hsize⟩

/-- An attach of the path does not find its row stale with offsets that have no inode. -/
def resumesKnown (k : String × String) (s : State) : Label → Bool
  | .attach c _ _ => decide (k ≠ (c.agent.agentId, c.hostPath)) ||
      (LogAttachments.selectForAgentPath s.tables.attachments k.1 k.2).all
        (fun r => decide (r.status ≠ .stale)) ||
      (s.tables.offsets.get k).all fun o => o.fileInode.isSome
  | .cycle _ _ | .append _ _ | .restart | .detach _ _ | .cascade _ _ => true
  | .truncate _ _ | .delete _ | .create _ _ => false

theorem attach_keeps_offsets {c : AttachCall} {out : Outside} {newInode : String}
    (hobserved : s.Observed k o) (hrow : s.tables.offsets.get k = some o)
    (hknown : resumesKnown k s (.attach c out newInode) = true) :
    (attach s c out newInode).tables.offsets.get k = some o := by
  rcases attach_cases s c out newInode with hsame | ⟨f, attached, hf, hattach, heq⟩
  · rw [hsame]
    exact hrow
  · rw [heq]
    show attached.tables.offsets.get k = some o
    by_cases hk : k = (c.agent.agentId, c.hostPath)
    · cases attach_effect hattach with
      | active => exact hrow
      | @resumed existing _ _ _ _ _ _ _ _ hexisting hprior hsupersede hstatus hoffsets =>
        have hintact : o.fileInode.isSome = true →
            fileConsistencyIntact (some f.stat) o.fileInode o.fileSizeSeen = true := by
          rw [show c.hostPath = k.2 by rw [hk]] at hf
          exact (hobserved.ensureFile _ _).intact hf
        have hkept : ¬(existing.status = .stale ∧
            fileConsistencyIntact (some f.stat) o.fileInode o.fileSizeSeen = false) := by
          rintro ⟨hstale, hchanged⟩
          subst hk
          simp [resumesKnown, hexisting, hrow, hstale] at hknown
          rw [hintact hknown] at hchanged
          cases hchanged
        simp only [resumeOffsets, ← hk, hrow, if_neg hkept] at hoffsets
        cases hoffsets
        exact hrow
      | inserted _ _ hoffsets =>
        -- there are offsets for the path already
        have hnone := (Sql.Table.insert_eq_some hoffsets).1
        rw [show (LogOffsets.initial c.agent.agentId c.hostPath out.now).key = k from hk.symm,
          hrow] at hnone
        cases hnone
    · rw [(attach_inode hattach k).2 hk]
      exact hrow

theorem Tiled.resumes {start : Nat} {l : Label} (h : Tiled k start s)
    (hl : resumesKnown k s l = true) (hstep : Events.step env s l = some s') : Tiled k start s' := by
  cases l with
  | cycle | append | restart => exact h.step rfl hstep
  | detach agentId out =>
    simp only [Events.step] at hstep
    split at hstep
    · cases hstep
      exact h
    · cases hstep
      exact h
  | cascade paneKeys now =>
    obtain ⟨attachments, -, rfl⟩ := Option.map_eq_some_iff.mp hstep
    exact h
  | attach c out newInode =>
    cases hstep
    obtain ⟨o, hget, hobserved, hrest⟩ := h
    have hafter := attach_keeps_offsets hobserved hget hl
    rcases attach_cases s c out newInode with hsame | ⟨f, attached, -, -, heq⟩
    · rw [hsame]
      exact ⟨o, hget, hobserved, hrest⟩
    · rw [heq] at hafter ⊢
      exact ⟨o, hafter, hobserved.ensureFile c.hostPath newInode, hrest⟩
  | truncate | delete | create => cases hl

/-- For every history of attaches, detaches, pane scans, appends and cycles in which no attach of the
path finds a stale row without an inode: no byte is read twice, and an attach keeps both offsets. -/
theorem reattach_reads_no_byte_twice {s₀ : State} {o₀ : LogOffsetRecord}
    (h : Reach (step env) (fun s l => resumesKnown k s l = true) s₀ s)
    (hrow : s₀.tables.offsets.get k = some o₀) (hobserved : s₀.Observed k o₀)
    (hstart : s₀.recordsOf k = []) :
    (rangesOf (s.recordsOf k)).Pairwise (fun r r' => r.2 ≤ r'.1) ∧
      ∀ c out newInode, resumesKnown k s (.attach c out newInode) = true →
        (attach s c out newInode).tables.offsets.get k = s.tables.offsets.get k := by
  have hinit : Tiled k o₀.byteOffset s₀ := by
    refine ⟨o₀, hrow, hobserved, ?_⟩
    simp [hstart, rangesOf, crCount, Intervals.Within]
  obtain ⟨o, hget, hobserved', hwithin, -⟩ :=
    h.invariant (Tiled k o₀.byteOffset) hinit fun _ _ _ hinv hl hstep => hinv.resumes hl hstep
  refine ⟨hwithin.pairwise, fun c out newInode hknown => ?_⟩
  rw [hget]
  exact attach_keeps_offsets hobserved' hget hknown

def reattachSample (stops : Label) : List Label :=
  [.append "/logs/a" [97, 10], cycleSample "t2" 1 true, stops,
    .attach (sampleCall "/logs/a") (sampleOutside "lat_2" "t4") "8:1", cycleSample "t5" 9 true]

/-- A detached path keeps its place. -/
theorem reattach_reads_no_byte_twice_detached :
    ∃ s, run (step sampleEnv) attachedSample
        (reattachSample (.detach "agt_00000000000a" (sampleOutside "" "t3"))) = some s ∧
      rangesOf (s.recordsOf sampleKey) = [(0, 2)] ∧
      (rangesOf (s.recordsOf sampleKey)).Pairwise fun r r' => r.2 ≤ r'.1 := by
  obtain ⟨o₀, ho₀, hnone⟩ : ∃ o, attachedSample.tables.offsets.get sampleKey = some o ∧
      o.fileInode = none := by decide +kernel
  have hobserved : attachedSample.Observed sampleKey o₀ := fun inode hinode => by
    rw [hnone] at hinode
    cases hinode
  exact exists_run_and (resumesKnown sampleKey) (by decide +kernel) fun _ hs _ =>
    (reattach_reads_no_byte_twice hs ho₀ hobserved rfl).1

/-- One whose pane was gone for a moment is read again from the start. -/
theorem stale_reattach_reads_again :
    ∃ s, run (step sampleEnv) attachedSample
        (reattachSample (.cascade [sampleAgent.key] "t3")) = some s ∧
      rangesOf (s.recordsOf sampleKey) = [(0, 2), (0, 2)] := by decide +kernel

end AgentTower.Events
