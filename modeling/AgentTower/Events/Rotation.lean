import AgentTower.Events.Reader

/-!
# Files that were truncated or replaced

Recovery compares the file with the inode and the size that its offset row has stored.  A new row has
no inode, and only a row that is set to zero gets what the `stat` saw.  Once it has one, a replaced
file is noticed always, and a truncated one if it is shorter than when the row was set to zero.
-/

namespace AgentTower.Logs

/-! ## Where an inode comes from -/

/-- An attach leaves an offset row as it was, makes one without an inode, or sets it to zero with the
inode of its `stat`. -/
def InodeFrom (stat : Option FileStat) (row row' : Option LogOffsetRecord) : Prop :=
  row' = row ∨ ∃ o, row' = some o ∧ (o.fileInode = none ∨ o.fileInode = stat.map FileStat.inode)

variable {t t' : LogOffsets} {agentId hostPath now : String}

theorem resumeOffsets_inode {priorStatus : AttachmentStatus}
    {stat : Option FileStat} {byteOffset lineOffset : Nat}
    (h : resumeOffsets t priorStatus agentId hostPath stat now = .ok (t', byteOffset, lineOffset))
    (k : String × String) :
    InodeFrom stat (t.get k) (t'.get k) ∧ (k ≠ (agentId, hostPath) → t'.get k = t.get k) := by
  rcases resumeOffsets_eq_ok h with rfl | hreset
  · exact ⟨.inl rfl, fun _ => rfl⟩
  · rw [LogOffsets.get_update_row hreset]
    by_cases hk : k = (agentId, hostPath)
    · rw [if_pos hk]
      refine ⟨?_, fun hne => absurd hk hne⟩
      cases t.get k with
      | none => exact .inl rfl
      | some row => exact .inr ⟨_, rfl, .inr rfl⟩
    · rw [if_neg hk]
      exact ⟨.inl rfl, fun _ => rfl⟩

theorem insertInitial_inode
    (h : LogOffsets.insertInitial t agentId hostPath now = some t') (stat : Option FileStat)
    (k : String × String) :
    InodeFrom stat (t.get k) (t'.get k) ∧ (k ≠ (agentId, hostPath) → t'.get k = t.get k) := by
  rw [Sql.Table.get_insert h k]
  by_cases hk : k = (LogOffsets.initial agentId hostPath now).key
  · rw [if_pos hk]
    exact ⟨.inr ⟨_, rfl, .inl rfl⟩, fun hne => absurd hk hne⟩
  · rw [if_neg hk]
    exact ⟨.inl rfl, fun _ => rfl⟩

theorem attach_inode {t : LogTables} {c : AttachCall} {o : Outside} {attached : Attached}
    (h : attachLogLocked t c o = .ok attached) (k : String × String) :
    InodeFrom o.stat (t.offsets.get k) (attached.tables.offsets.get k) ∧
      (k ≠ (c.agent.agentId, c.hostPath) →
        attached.tables.offsets.get k = t.offsets.get k) := by
  cases attach_effect h with
  | active => exact ⟨.inl rfl, fun _ => rfl⟩
  | resumed hexisting hprior hsupersede hstatus hoffsets => exact resumeOffsets_inode hoffsets k
  | inserted hsupersede hrow hoffsets => exact insertInitial_inode hoffsets o.stat k

end AgentTower.Logs

namespace AgentTower.Events

open Transition
open Logs

/-! ## What a cycle does to an offset row -/

variable {env : ReaderEnv} {s s' : State} {a : LogAttachmentRecord} {io : CycleInput}
  {k : String × String} {o : LogOffsetRecord} {f : File}

/-- The row of the cycle's path moves on with what it has stored, or starts again on a file that is
not the one it has stored; all other rows stay. -/
inductive RowChange (s : State) (a : LogAttachmentRecord) (io : CycleInput) (k : String × String) :
    Option LogOffsetRecord → Prop
  | same : RowChange s a io k (s.tables.offsets.get k)
  | advanced {o : LogOffsetRecord} (b : Batch) (hk : k = (a.agentId, a.logPath))
      (hrow : s.tables.offsets.get k = some o) :
      RowChange s a io k (some ((LogOffsets.setAdvance (b.advance o io.nowIso)).set o))
  | restarted {o : LogOffsetRecord} {f : File} (hk : k = (a.agentId, a.logPath))
      (hrow : s.tables.offsets.get k = some o) (hfile : s.files a.logPath = some f)
      (hrotated : Rotated o f.stat) : RowChange s a io k (some (o.restarted f.stat io.nowIso))

theorem rowChange_of_effect (h : CycleEffect env s a io s') (k : String × String) :
    RowChange s a io k (s'.tables.offsets.get k) := by
  cases h with
  | nothing => exact .same
  | failed hbatch hcommit => exact .same
  | @recovered result hrecovery hchange =>
    cases recovery_effect hrecovery with
    | nothing | stale => exact .same
    | @restarted _ _ row st offsets _ _ _ hrow hstat hrotated hreset =>
      obtain ⟨f, hfile, rfl⟩ := Option.map_eq_some_iff.mp hstat
      show RowChange s a io k (offsets.get k)
      rw [get_reset hrow hreset]
      by_cases hk : k = (a.agentId, a.logPath)
      · rw [if_pos hk]
        exact .restarted hk (hk ▸ hrow) hfile hrotated
      · rw [if_neg hk]
        exact .same
  | @committed row b offsets hbatch hadvance =>
    show RowChange s a io k (offsets.get k)
    rw [LogOffsets.get_advanceOffset hadvance]
    by_cases hk : k = (a.agentId, a.logPath)
    · have hrow := (cycleBatch_eq_some hbatch).1
      rw [if_pos hk, hk, hrow]
      exact .advanced b rfl hrow
    · rw [if_neg hk]
      exact .same

variable {row : Option LogOffsetRecord} {l : Label} {inode : String}

theorem RowChange.keeps (h : RowChange s a io k row) (hrow : s.tables.offsets.get k = some o)
    (hfile : ∀ f, s.files a.logPath = some f → ¬Rotated o f.stat) :
    ∃ o', row = some o' ∧ o.byteOffset ≤ o'.byteOffset ∧ o'.fileInode = o.fileInode ∧
      o'.fileSizeSeen = o.fileSizeSeen := by
  cases h with
  | same => exact ⟨o, hrow, Nat.le_refl _, rfl, rfl⟩
  | advanced b hk hrow' =>
    rw [hrow] at hrow'
    cases hrow'
    exact ⟨_, rfl, Nat.le_add_right _ _, rfl, rfl⟩
  | restarted hk hrow' hfile' hrotated =>
    rw [hrow] at hrow'
    cases hrow'
    exact absurd hrotated (hfile _ hfile')

theorem RowChange.isSome_eq (h : RowChange s a io k row) :
    row.isSome = (s.tables.offsets.get k).isSome := by
  cases h with
  | same => rfl
  | advanced b hk hrow | restarted hk hrow hfile hrotated =>
    rw [hrow]
    rfl

theorem RowChange.other (h : RowChange s a io k row)
    (hk : k ≠ (a.agentId, a.logPath)) : row = s.tables.offsets.get k := by
  cases h with
  | same => rfl
  | advanced b hk' hrow | restarted hk' hrow hfile hrotated => exact absurd hk' hk

/-- A cycle of an active attachment whose recovery is not rolled back, on a file that has rotated,
sets the offsets to zero and reads nothing. -/
theorem runCycle_restarts (env : ReaderEnv)
    (ha : a ∈ LogAttachments.listActiveAttachments s.tables.attachments)
    (hrow : s.tables.offsets.get (a.agentId, a.logPath) = some o)
    (hfile : s.files a.logPath = some f) (hholds : recoveryHolds s a io = true)
    (hrotated : Rotated o f.stat) :
    ∃ tables, runCycle env s a io = { s with tables } ∧
      tables.offsets.get (a.agentId, a.logPath) = some (o.restarted f.stat io.nowIso) := by
  obtain ⟨hmem, hactive⟩ := LogAttachments.mem_listActiveAttachments ha
  obtain ⟨result, hrecovery⟩ := recovery_succeeds s.tables a.agentId a.logPath
    ((s.files a.logPath).map File.stat) io.nowIso
  have hchange : result.change ≠ .unchanged := by
    rw [Ne, recovery_unchanged_iff hmem hactive hrow hrecovery]
    rintro ⟨st, hst, hnot⟩
    rw [hfile] at hst
    cases hst
    exact hnot hrotated
  have hcommits : io.recoveryCommits = true := by
    simpa [recoveryHolds, hrecovery, hchange] using hholds
  have hcycle : runCycle env s a io = { s with tables := result.tables } := by
    simp only [runCycle, hrecovery, hcommits, if_pos hchange, if_true]
  rw [hfile] at hrecovery
  exact ⟨result.tables, hcycle, recovery_rotated hmem hactive hrow hrotated hrecovery⟩

theorem runCycle_keeps (env : ReaderEnv)
    (hrow : s.tables.offsets.get (a.agentId, a.logPath) = some o)
    (hfile : s.files a.logPath = some f) (hnot : ¬Rotated o f.stat) :
    ∃ o', (runCycle env s a io).tables.offsets.get (a.agentId, a.logPath) = some o' ∧
      o.byteOffset ≤ o'.byteOffset ∧ o'.fileInode = o.fileInode ∧
      o'.fileSizeSeen = o.fileSizeSeen := by
  have hchange := rowChange_of_effect (runCycle_effect env s a io) (a.agentId, a.logPath)
  refine hchange.keeps hrow fun f' hf' => ?_
  rw [hfile] at hf'
  cases hf'
  exact hnot

theorem runCycle_offsets_of_not_holds (h : ¬recoveryHolds s a io = true) :
    (runCycle env s a io).tables.offsets = s.tables.offsets := by
  unfold recoveryHolds at h
  unfold runCycle
  split
  · rfl
  · rename_i result hrecovery
    rw [hrecovery, Bool.or_eq_true, decide_eq_true_eq, not_or] at h
    rw [if_pos h.1, if_neg h.2]

/-! ## The stored inode is that of the file that was seen -/

def InodeKnown (s : State) : Prop :=
  ∀ k o inode, s.tables.offsets.get k = some o → o.fileInode = some inode → s.seen k = some inode

theorem not_rotated_inode (h : ¬Rotated o f.stat) (hinode : o.fileInode = some inode) :
    inode = f.inode := by
  by_contra hne
  exact h ⟨inode, hinode, .inl fun heq => hne heq.symm⟩

theorem InodeKnown.unseen (h : InodeKnown s) (heffect : CycleEffect env s a io s')
    (hseen : s'.seen = s.seen) (hfile : ∀ f, s.files a.logPath = some f →
      s'.tables.offsets = s.tables.offsets) : InodeKnown s' := by
  intro k o inode hrow hinode
  rw [hseen]
  have hchange := rowChange_of_effect heffect k
  rw [hrow] at hchange
  generalize hresult : some o = result at hchange
  cases hchange with
  | same => exact h k o inode hresult.symm hinode
  | advanced b hk hrow' =>
    cases hresult
    exact h k _ inode hrow' hinode
  | restarted hk hrow' hfile' hrotated =>
    rw [hfile _ hfile'] at hrow
    exact h k o inode hrow hinode

theorem runCycle_inode (ha : a ∈ LogAttachments.listActiveAttachments s.tables.attachments)
    (hfile : s.files a.logPath = some f) (hholds : recoveryHolds s a io = true)
    (hrow : (runCycle env s a io).tables.offsets.get (a.agentId, a.logPath) = some o)
    (hinode : o.fileInode = some inode) : inode = f.inode := by
  have hsome := (rowChange_of_effect (runCycle_effect env s a io) (a.agentId, a.logPath)).isSome_eq
  rw [hrow] at hsome
  obtain ⟨o₀, hrow₀⟩ := Option.isSome_iff_exists.mp hsome.symm
  by_cases hrotated : Rotated o₀ f.stat
  · obtain ⟨tables, heq, hget⟩ := runCycle_restarts env ha hrow₀ hfile hholds hrotated
    rw [heq] at hrow
    rw [show tables.offsets.get _ = some o from hrow] at hget
    cases hget
    exact (Option.some.inj hinode).symm
  · obtain ⟨o', hget, -, hsame, -⟩ := runCycle_keeps env hrow₀ hfile hrotated
    rw [hrow] at hget
    cases hget
    exact not_rotated_inode hrotated (hsame ▸ hinode)

theorem InodeKnown.cycle (h : InodeKnown s)
    (ha : a ∈ LogAttachments.listActiveAttachments s.tables.attachments) :
    InodeKnown (runCycleForAttachment env s a io) := by
  have heffect := runCycle_effect env s a io
  have hseen := heffect.seen
  unfold runCycleForAttachment
  split
  · rename_i hnone
    exact h.unseen heffect hseen fun f hf => (by rw [hnone] at hf; cases hf)
  · rename_i f hfile
    split
    · rename_i hholds
      intro k o inode hrow hinode
      change (runCycle env s a io).tables.offsets.get k = some o at hrow
      by_cases hk : k = (a.agentId, a.logPath)
      · subst hk
        rw [runCycle_inode ha hfile hholds hrow hinode]
        exact if_pos rfl
      · refine (if_neg hk).trans ?_
        rw [hseen]
        have hchange := rowChange_of_effect heffect k
        rw [hrow] at hchange
        exact h k o inode (hchange.other hk).symm hinode
    · -- recovery was rolled back, and the cycle ended there
      rename_i hholds
      exact h.unseen heffect hseen fun _ _ => runCycle_offsets_of_not_holds hholds

theorem InodeKnown.attach (h : InodeKnown s) (c : AttachCall) (o : Outside) (newInode : String) :
    InodeKnown (attach s c o newInode) := by
  rcases attach_cases s c o newInode with hsame | ⟨f, attached, -, hattach, heq⟩
  · rw [hsame]
    exact h
  · rw [heq]
    intro k row inode hrow hinode
    obtain ⟨hfrom, hother⟩ := attach_inode hattach k
    simp only at hrow ⊢
    by_cases hsame : attached.tables.offsets.get k = s.tables.offsets.get k
    · rw [if_neg fun hchanged => hchanged.2 hsame]
      exact h k row inode (hsame ▸ hrow) hinode
    · -- the row was written on the file that is at the path
      have hk : k = (c.agent.agentId, c.hostPath) := by
        by_contra hne
        exact hsame (hother hne)
      obtain ⟨o', ho', hinode'⟩ := hfrom.resolve_left hsame
      rw [hrow] at ho'
      cases ho'
      rw [if_pos ⟨hk, hsame⟩]
      rcases hinode' with hnone | hstat
      · rw [hnone] at hinode
        cases hinode
      · rw [hinode] at hstat
        exact hstat.symm

theorem InodeKnown.step (h : InodeKnown s) (hstep : Events.step env s l = some s') :
    InodeKnown s' := by
  cases l with
  | cycle attachmentId io =>
    obtain ⟨a, ha, -, rfl⟩ := step_cycle hstep
    exact h.cycle ha
  | attach c o newInode =>
    cases hstep
    exact h.attach c o newInode
  | detach | cascade | restart | append | truncate | delete | create =>
    have hframe := (step_frame hstep (by simp) (by simp)).1
    unfold InodeKnown
    rw [hframe.offsets, hframe.seen]
    exact h

theorem InodeKnown.of_reach (h : Reach (Events.step env) anyStep State.init s) : InodeKnown s :=
  h.invariant InodeKnown (fun _ _ _ hrow _ => (by cases hrow)) fun _ _ _ hinv _ hstep =>
    hinv.step hstep

/-! ## When the offsets are set to zero -/

theorem InodeKnown.rotated_iff (h : InodeKnown s) (hrow : s.tables.offsets.get k = some o) (f : File) :
    Rotated o f.stat ↔ o.fileInode.isSome = true ∧
      (s.seen k ≠ some f.inode ∨ f.content.length < o.fileSizeSeen) := by
  constructor
  · rintro ⟨inode, hinode, hdiffers⟩
    refine ⟨by rw [hinode]; rfl, hdiffers.imp_left fun hne hseen => ?_⟩
    rw [h k o inode hrow hinode] at hseen
    exact hne (Option.some.inj hseen).symm
  · rintro ⟨hsome, hdiffers⟩
    obtain ⟨inode, hinode⟩ := Option.isSome_iff_exists.mp hsome
    refine ⟨inode, hinode, hdiffers.imp_left fun hne heq => hne ?_⟩
    rw [h k o inode hrow hinode]
    exact congrArg some heq.symm

/-- The file of the path was truncated to less than the offset, or replaced by another one since the
offsets counted it. -/
def State.FileChanged (s : State) (k : String × String) (o : LogOffsetRecord) (f : File) : Prop :=
  f.content.length < o.byteOffset ∨ s.seen k ≠ some f.inode

/-- In every run, a cycle that finds a file which was truncated below the stored offset or replaced
sets the offsets to zero and reads nothing, if the row has an inode, and the offset of a file that is
the same one is not beyond the size that was stored with the inode. -/
theorem changed_file_restarts_offsets
    (h : Reach (step env) anyStep State.init s) {attachmentId : String}
    (ha : (LogAttachments.listActiveAttachments s.tables.attachments).find? (fun a =>
      decide (a.attachmentId = attachmentId)) = some a)
    (hrow : s.tables.offsets.get (a.agentId, a.logPath) = some o)
    (hfile : s.files a.logPath = some f)
    (hchanged : s.FileChanged (a.agentId, a.logPath) o f)
    (hobserved : o.fileInode.isSome = true)
    (hsize : s.seen (a.agentId, a.logPath) = some f.inode → o.byteOffset ≤ o.fileSizeSeen)
    (io : CycleInput) (hcommits : io.recoveryCommits = true) :
    ∃ s' o', step env s (.cycle attachmentId io) = some s' ∧
      s'.tables.offsets.get (a.agentId, a.logPath) = some o' ∧
      o'.byteOffset = 0 ∧ o'.lineOffset = 0 ∧ o'.lastEventOffset = 0 ∧
      s'.events = s.events ∧ s'.consumed = s.consumed ∧ s'.windows = s.windows := by
  have hrotated : Rotated o f.stat := by
    rw [(InodeKnown.of_reach h).rotated_iff hrow f]
    refine ⟨hobserved, ?_⟩
    by_cases hseen : s.seen (a.agentId, a.logPath) = some f.inode
    · have hshorter := hchanged.resolve_right (not_not.mpr hseen)
      have hstored := hsize hseen
      exact .inr (by omega)
    · exact .inl hseen
  have hholds : recoveryHolds s a io = true := by
    obtain ⟨result, hrecovery⟩ := recovery_succeeds s.tables a.agentId a.logPath
      ((s.files a.logPath).map File.stat) io.nowIso
    simp [recoveryHolds, hrecovery, hcommits]
  have hstep : step env s (.cycle attachmentId io)
      = some ((runCycle env s a io).see (a.agentId, a.logPath) (some f.inode)) := by
    simp only [step, ha, Option.map_some, runCycleForAttachment, hfile, hholds, if_true]
  obtain ⟨tables, heq, hget⟩ :=
    runCycle_restarts env (List.mem_of_find?_eq_some ha) hrow hfile hholds hrotated
  rw [hstep, heq]
  exact ⟨_, _, rfl, hget, rfl, rfl, rfl, rfl, rfl, rfl⟩

/-- The file goes away and the attachment goes stale; the attach that follows sets the offsets to zero
and stores the inode.  Then the file is truncated. -/
def observedSample : List Label :=
  [.attach (sampleCall "/logs/a") (sampleOutside "lat_1" "t1") "8:1",
    .append "/logs/a" [97, 97, 10], cycleSample "t2" 1 true,
    .delete "/logs/a", cycleSample "t3" 2 true, .create "/logs/a" ⟨"8:2", [98, 98, 98, 98, 10]⟩,
    .attach (sampleCall "/logs/a") (sampleOutside "lat_2" "t4") "8:3",
    cycleSample "t5" 3 true, .truncate "/logs/a" 2]

theorem changed_file_restarts_offsets_truncated :
    ∃ s s', run (step sampleEnv) State.init observedSample = some s ∧
      (s.tables.offsets.get sampleKey).map LogOffsetRecord.byteOffset = some 5 ∧
      step sampleEnv s (cycleSample "t6" 4 true) = some s' ∧
      (s'.tables.offsets.get sampleKey).map LogOffsetRecord.byteOffset = some 0 ∧
      s'.consumed = s.consumed := by
  obtain ⟨s, hs, hactive, ⟨o, ho, hbyte, hinode, hseen⟩, hfile⟩ :
      ∃ s, run (step sampleEnv) State.init observedSample = some s ∧
      ((LogAttachments.listActiveAttachments s.tables.attachments).find? (fun a =>
          decide (a.attachmentId = "lat_1"))).map (fun a => (a.agentId, a.logPath)) = some sampleKey ∧
      (∃ o, s.tables.offsets.get sampleKey = some o ∧
        o.byteOffset = 5 ∧ o.fileInode = some "8:2" ∧ o.fileSizeSeen = 5) ∧
      s.files "/logs/a" = some ⟨"8:2", [98, 98]⟩ := by decide +kernel
  obtain ⟨a, ha, hkey⟩ := Option.map_eq_some_iff.mp hactive
  have hpath : a.logPath = "/logs/a" := congrArg Prod.snd hkey
  obtain ⟨s', o', hstep, ho', hzero, -, -, -, hconsumed, -⟩ :=
    changed_file_restarts_offsets (reach_of_run hs) ha (hkey ▸ ho) (hpath ▸ hfile)
      (.inl (by rw [hbyte]; decide)) (by rw [hinode]; rfl) (fun _ => by omega)
      ⟨"t6", 4, ["w1"], true, true, true⟩ rfl
  refine ⟨s, s', hs, by rw [ho]; exact congrArg some hbyte, hstep, ?_, hconsumed⟩
  rw [← hkey, ho']
  exact congrArg some hzero

def replacedSample : List Label :=
  [.attach (sampleCall "/logs/a") (sampleOutside "lat_1" "t1") "8:1",
    .append "/logs/a" [97, 97, 97, 97, 10], cycleSample "t2" 1 true,
    .delete "/logs/a", .create "/logs/a" ⟨"8:2", [98, 10]⟩]

/-- The offset stays beyond the end of the new file, and its line is not read. -/
theorem replaced_file_not_read :
    ∃ s s', run (step sampleEnv) State.init replacedSample = some s ∧
      s.seen sampleKey = some "8:1" ∧ s.files "/logs/a" = some ⟨"8:2", [98, 10]⟩ ∧
      step sampleEnv s (cycleSample "t3" 2 true) = some s' ∧
      (s'.tables.offsets.get sampleKey).map LogOffsetRecord.byteOffset = some 5 ∧
      s'.consumed.map Consumed.record = [⟨0, 5, false⟩] := by
  decide +kernel

end AgentTower.Events
