import AgentTower.Events.Rotation

/-!
# Events of rotations

A reset of the offsets is reported as `log_rotation_detected`, at most once for a pair of inodes: a
file that is truncated twice has the same pair both times.  The reader reports after its commit, an
attach before.
-/

namespace AgentTower.Events

open Transition Fallible Option
open Logs

structure LogRotationDetected where
  agentId : String
  logPath : String
  priorInode : Option String
  newInode : Option String
  priorSize : Nat
  newSize : Nat
  deriving DecidableEq, Repr

def LogRotationDetected.path (e : LogRotationDetected) : String × String := (e.agentId, e.logPath)

open LogRotationDetected (path)

def LogRotationDetected.key (e : LogRotationDetected) :
    String × String × Option String × Option String :=
  (e.agentId, e.logPath, e.priorInode, e.newInode)

/-- The suppression set and the lifecycle log of one daemon, with the resets that were committed. -/
structure Rotations where
  rotated : List (String × String × Option String × Option String)
  emitted : List LogRotationDetected
  resets : List (String × String)
  deriving DecidableEq, Repr

def emitLogRotationDetected (r : Rotations) (e : LogRotationDetected) : Rotations :=
  if e.key ∈ r.rotated then r
  else { r with rotated := e.key :: r.rotated, emitted := r.emitted ++ [e] }

/-- The event of `_handle_rotation`, for a change that recovery found. -/
def handledRotation (a : LogAttachmentRecord) (row : LogOffsetRecord) (st : FileStat) :
    FileChangeKind → Option LogRotationDetected
  | .truncated => some ⟨a.agentId, a.logPath, row.fileInode, row.fileInode, row.fileSizeSeen, st.size⟩
  | .recreated => some ⟨a.agentId, a.logPath, row.fileInode, some st.inode, row.fileSizeSeen, st.size⟩
  | .unchanged | .missing => none

def cycleReset (s : State) (a : LogAttachmentRecord) (io : CycleInput) : Option LogRotationDetected := do
  let f ← s.files a.logPath
  let row ← s.tables.offsets.get (a.agentId, a.logPath)
  let result ← readerCycleOffsetRecovery s.tables a.agentId a.logPath (some f.stat) io.nowIso
  if io.recoveryCommits then handledRotation a row f.stat result.change else none

/-- The reset of an attach that resumes a stale row of another file. -/
def attachReset (s : State) (c : AttachCall) (stat : Option FileStat) : Option LogRotationDetected := do
  let existing ← LogAttachments.selectForAgentPath s.tables.attachments c.agent.agentId c.hostPath
  let row ← s.tables.offsets.get (c.agent.agentId, c.hostPath)
  if existing.status = .stale ∧ fileConsistencyIntact stat row.fileInode row.fileSizeSeen = false then
    some ⟨c.agent.agentId, c.hostPath, row.fileInode, stat.map FileStat.inode, row.fileSizeSeen,
      (stat.map FileStat.size).getD 0⟩
  else none

def succeeds {ε α : Type} : Except ε α → Bool
  | .ok _ => true
  | .error _ => false

/-- The event that a step offers to the log, and whether its reset is committed. -/
def rotationOf (s : State) : Label → Option (LogRotationDetected × Bool)
  | .cycle attachmentId io => do
    let a ← (LogAttachments.listActiveAttachments s.tables.attachments).find? fun a =>
      decide (a.attachmentId = attachmentId)
    let e ← cycleReset s a io
    pure (e, true)
  | .attach c o newInode => do
    let stat := ((ensureFile s c.hostPath newInode).files c.hostPath).map File.stat
    let e ← attachReset s c stat
    -- after the event only the audit entry and the commit can fail
    if succeeds (attachLogLocked s.tables c ⟨o.ensureFile, o.inspect, o.toggleOff, o.attach,
        o.attachmentIds, o.now, stat, none, none⟩) then
      pure (e, succeeds (attachLogLocked s.tables c { o with stat }))
    else none
  | _ => none

def Rotations.after (r : Rotations) : Option (LogRotationDetected × Bool) → Rotations
  | none => r
  | some (e, committed) =>
    let r' := emitLogRotationDetected r e
    { r' with resets := r'.resets ++ if committed then [e.path] else [] }

def stepRotations (env : ReaderEnv) (s : State × Rotations) (l : Label) :
    Option (State × Rotations) :=
  (step env s.1 l).map fun s' =>
    (s', match l with
      | .restart => { s.2 with rotated := [] }
      | l => s.2.after (rotationOf s.1 l))

/-- The daemon stays up, and the step resets no offsets, or commits a reset for a pair of inodes that
was not reported before. -/
def freshRotation (s : State × Rotations) : Label → Bool
  | .restart => false
  | l => (rotationOf s.1 l).all fun r => decide (r.1.key ∉ s.2.rotated) && r.2

/-! ## What is counted are the resets -/

variable {env : ReaderEnv} {s s' : State} {a : LogAttachmentRecord} {io : CycleInput}
  {e : LogRotationDetected}

/-- The offsets of the path are at zero, with the size of the event. -/
def LogRotationDetected.ResetIn (e : LogRotationDetected) (t : LogOffsets) : Prop :=
  ∃ o, t.get e.path = some o ∧ o.byteOffset = 0 ∧ o.lineOffset = 0 ∧ o.lastEventOffset = 0 ∧
    o.fileSizeSeen = e.newSize

theorem cycleReset_resets (env : ReaderEnv)
    (ha : a ∈ LogAttachments.listActiveAttachments s.tables.attachments)
    (h : cycleReset s a io = some e) :
    e.ResetIn (runCycleForAttachment env s a io).tables.offsets := by
  obtain ⟨f, hfile, h⟩ := bind_eq_some_iff.mp h
  obtain ⟨row, hrow, h⟩ := bind_eq_some_iff.mp h
  obtain ⟨result, hrecovery, h⟩ := bind_eq_some_iff.mp h
  obtain ⟨hcommits, hevent⟩ := ite_none_right_eq_some.mp h
  obtain ⟨hmem, hactive⟩ := LogAttachments.mem_listActiveAttachments ha
  have hrotated : Rotated row f.stat := by
    by_contra hnot
    rw [(recovery_unchanged_iff hmem hactive hrow hrecovery).mpr ⟨_, rfl, hnot⟩] at hevent
    cases hevent
  have hholds : recoveryHolds s a io = true := by
    simp [recoveryHolds, hfile, hrecovery, hcommits]
  obtain ⟨tables, heq, hget⟩ := runCycle_restarts env ha hrow hfile hholds hrotated
  obtain ⟨seen, hseen⟩ := runCycleForAttachment_eq env s a io
  rw [hseen, heq]
  cases hchange : result.change with
  | truncated | recreated =>
    rw [hchange] at hevent
    cases hevent
    exact ⟨_, hget, rfl, rfl, rfl, rfl⟩
  | unchanged | missing =>
    rw [hchange] at hevent
    cases hevent

theorem attachReset_resets {c : AttachCall} {o : Outside} {attached : Attached}
    (h : attachReset s c o.stat = some e) (hattach : attachLogLocked s.tables c o = .ok attached) :
    e.ResetIn attached.tables.offsets := by
  obtain ⟨existing, hexisting, h⟩ := bind_eq_some_iff.mp h
  obtain ⟨row, hrow, h⟩ := bind_eq_some_iff.mp h
  obtain ⟨hreset, heq⟩ := ite_none_right_eq_some.mp h
  cases heq
  cases attach_effect hattach with
  | active hexisting' hactive =>
    cases hexisting.symm.trans hexisting'
    cases hreset.1.symm.trans hactive
  | resumed hexisting' _ _ _ hoffsets =>
    cases hexisting.symm.trans hexisting'
    simp only [resumeOffsets, hrow, if_pos hreset] at hoffsets
    obtain ⟨offsets, hupdate, hpure⟩ := bind_eq_ok.mp hoffsets
    cases hpure
    have hget := LogOffsets.get_update_row (execute_eq_ok hupdate) (c.agent.agentId, c.hostPath)
    rw [if_pos rfl, hrow] at hget
    exact ⟨_, hget, rfl, rfl, rfl, rfl⟩
  | inserted _ _ _ hother => exact absurd (.inl hreset.1) (hother existing hexisting)

theorem rotationOf_resets {l : Label} (h : rotationOf s l = some (e, true))
    (hstep : step env s l = some s') : e.ResetIn s'.tables.offsets := by
  cases l with
  | cycle attachmentId io =>
    obtain ⟨a, ha, h⟩ := bind_eq_some_iff.mp h
    obtain ⟨e', hreset, h⟩ := bind_eq_some_iff.mp h
    cases h
    simp only [step, ha, map_some, Option.some.injEq] at hstep
    rw [← hstep]
    exact cycleReset_resets env (List.mem_of_find?_eq_some ha) hreset
  | attach c o newInode =>
    obtain ⟨e', hreset, h⟩ := bind_eq_some_iff.mp h
    obtain ⟨-, h⟩ := ite_none_right_eq_some.mp h
    obtain ⟨rfl, hok⟩ := Prod.mk.inj (Option.some.inj h)
    cases hattach : attachLogLocked s.tables c { o with stat :=
        ((ensureFile s c.hostPath newInode).files c.hostPath).map File.stat } with
    | error err =>
      rw [hattach] at hok
      cases hok
    | ok attached =>
      have hafter := attachReset_resets hreset hattach
      simp only [step, attach, hattach, Option.some.injEq] at hstep
      rw [← hstep]
      split
      · exact hafter
      · exact hafter
  | detach | cascade | restart | append | truncate | delete | create => cases h

theorem Rotations.after_counts {r : Rotations} {o : Option (LogRotationDetected × Bool)}
    (h : r.emitted.map path = r.resets)
    (hfresh : (o.all fun p => decide (p.1.key ∉ r.rotated) && p.2) = true) :
    (r.after o).emitted.map path = (r.after o).resets := by
  cases o with
  | none => exact h
  | some p =>
    obtain ⟨e, committed⟩ := p
    simp only [all_some, Bool.and_eq_true, decide_eq_true_eq] at hfresh
    simp [Rotations.after, emitLogRotationDetected, hfresh.1, hfresh.2, h]

/-- While no pair of inodes of a path comes back and every attach that resets commits: for each path
as many events as resets, in every run of one daemon. -/
theorem rotation_events_match_resets {s₀ : State} {s : State × Rotations}
    (h : Reach (stepRotations env) (fun s l => freshRotation s l = true) (s₀, ⟨[], [], []⟩) s)
    (k : String × String) :
    (s.2.emitted.map path).count k = s.2.resets.count k ∧
      ∀ l s' e, rotationOf s.1 l = some (e, true) → step env s.1 l = some s' →
        e.ResetIn s'.tables.offsets := by
  refine ⟨congrArg (List.count k) ?_, fun l s' e => rotationOf_resets⟩
  refine h.invariant (fun s => s.2.emitted.map path = s.2.resets) rfl ?_
  intro s l s' hinv hfresh hstep
  obtain ⟨t, -, rfl⟩ := map_eq_some_iff.mp hstep
  cases l with
  | restart => cases hfresh
  | _ => exact Rotations.after_counts hinv hfresh

theorem rotation_events_match_resets_once :
    ∃ s, run (stepRotations sampleEnv) (State.init, ⟨[], [], []⟩)
        (observedSample ++ [cycleSample "t6" 4 true]) = some s ∧
      s.2.resets = [sampleKey, sampleKey] ∧
      (s.2.emitted.map path).count sampleKey = s.2.resets.count sampleKey :=
  exists_run_and freshRotation (by decide +kernel) fun _ hs _ =>
    (rotation_events_match_resets hs sampleKey).1

/-- The file is truncated once more: a third reset, and no third event. -/
theorem second_truncation_not_reported :
    ∃ s, run (stepRotations sampleEnv) (State.init, ⟨[], [], []⟩) (observedSample ++
        [cycleSample "t6" 4 true, .truncate "/logs/a" 1, cycleSample "t7" 5 true]) = some s ∧
      s.2.resets = [sampleKey, sampleKey, sampleKey] ∧
      s.2.emitted.map path = [sampleKey, sampleKey] := by decide +kernel

end AgentTower.Events
