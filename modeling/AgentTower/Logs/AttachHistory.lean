import AgentTower.Lib.Run
import AgentTower.Logs.ReaderRecovery

/-!
# Which paths an agent can attach

An agent has at most one row for a path, and the path has an offset row exactly if it has an attachment
row; nothing deletes either.  A row that is superseded stays so: the next attach of its path makes a
new row, and the offset row that is still there refuses it.
-/

namespace AgentTower.Logs

open Transition Sql Fallible List Table
open Routing (PaneKey)
open LogAttachmentRecord (activeLogPath_eq_some)
open LogOffsets (Patch advanceOffset initial insertInitial ofAgentPath reset)

inductive LogOp where
  | attach (c : AttachCall) (o : Outside)
  | detach (agentId : String) (o : Outside)
  | cascade (paneKeys : List PaneKey) (now : String)
  | recovery (agentId logPath : String) (stat : Option FileStat) (timestamp : String)
  | advance (agentId logPath : String) (a : LogOffsets.Advance)
  deriving Repr

def LogOp.apply (t : LogTables) : LogOp → LogTables
  | .attach c o =>
    match attachLogLocked t c o with
    | .ok attached => attached.tables
    | .error _ => t
  | .detach agentId o =>
    match detachLogLocked t agentId o with
    | .ok detached => { t with attachments := detached.attachments }
    | .error _ => t
  | .cascade paneKeys now =>
    match LogAttachments.cascadeToStaleForPanes t.attachments paneKeys now with
    | some attachments => { t with attachments }
    | none => t
  | .recovery agentId logPath stat timestamp =>
    match readerCycleOffsetRecovery t agentId logPath stat timestamp with
    | some result => result.tables
    | none => t
  | .advance agentId logPath a =>
    match advanceOffset t.offsets agentId logPath a with
    | some offsets => { t with offsets }
    | none => t

/-! ## What a transaction does to the paths -/

def LogAttachmentRecord.agentPath (r : LogAttachmentRecord) : String × String :=
  (r.agentId, r.logPath)

open LogAttachmentRecord (active active_iff agentPath)

def LogTables.paths (t : LogTables) : List (String × String) :=
  t.attachments.rows.map agentPath

structure SamePaths (t t' : LogTables) : Prop where
  paths : t'.paths = t.paths
  offsets : ∀ k, (t'.offsets.get k).isSome = (t.offsets.get k).isSome

structure NewPath (t t' : LogTables) (k : String × String) : Prop where
  paths : t'.paths = t.paths ++ [k]
  fresh : t.offsets.get k = none
  offsets : ∀ k', (t'.offsets.get k').isSome = true ↔ k' = k ∨ (t.offsets.get k').isSome = true

theorem SamePaths.refl (t : LogTables) : SamePaths t t := ⟨rfl, fun _ => rfl⟩

open SamePaths (refl)

variable {t : LogTables} {attachments : LogAttachments}
  {attachmentId agentId now newId hostPath : String} {offsets : LogOffsets}
  {target : Option LogAttachmentRecord} {c : AttachCall} {o : Outside}

theorem SamePaths.trans {t' t'' : LogTables} (h : SamePaths t t') (h' : SamePaths t' t'') :
    SamePaths t t'' :=
  ⟨h'.paths.trans h.paths, fun k => (h'.offsets k).trans (h.offsets k)⟩

theorem samePaths_rewrite
    {sel : LogAttachmentRecord → Bool} {p : Rewrite LogAttachmentRecord.attachmentId}
    (h : t.attachments.rewrite sel p = some attachments)
    (hp : ∀ r, (p.set r).agentPath = r.agentPath) :
    SamePaths t { t with attachments } := by
  refine ⟨?_, fun _ => rfl⟩
  unfold LogTables.paths
  rw [rows_rewrite h, map_map]
  refine map_congr_left fun r _ => ?_
  show (Table.rewritten p sel r).agentPath = r.agentPath
  unfold Table.rewritten
  split
  · exact hp r
  · rfl

theorem samePaths_updateStatus {lastStatusAt : String} {newStatus : AttachmentStatus}
    {supersededAt supersededBy : Option String}
    (h : LogAttachments.updateStatus t.attachments attachmentId newStatus lastStatusAt supersededAt
      supersededBy = some attachments) : SamePaths t { t with attachments } :=
  samePaths_rewrite h fun _ => rfl

theorem samePaths_offsets {logPath : String} {p : Patch}
    (h : t.offsets.update (ofAgentPath agentId logPath) p = some offsets) :
    SamePaths t { t with offsets } := by
  refine ⟨rfl, fun k => ?_⟩
  show (offsets.get k).isSome = (t.offsets.get k).isSome
  rw [LogOffsets.get_update_row h]
  split
  · rw [Option.isSome_map]
  · rfl

theorem samePaths_cascade {paneKeys : List PaneKey}
    (h : LogAttachments.cascadeToStaleForPanes t.attachments paneKeys now = some attachments) :
    SamePaths t { t with attachments } := by
  refine ⟨?_, fun _ => rfl⟩
  unfold LogTables.paths
  rw [LogAttachments.rows_cascadeToStaleForPanes h, map_map]
  refine map_congr_left fun r _ => ?_
  simp only [Function.comp]
  split <;> rfl

/-! ## Attaching -/

theorem samePaths_supersede (h : supersede t.attachments target newId now = .ok attachments) :
    SamePaths t { t with attachments } := by
  cases target with
  | none =>
    cases h
    exact refl t
  | some r => exact samePaths_updateStatus (execute_eq_ok h)

theorem samePaths_resumeOffsets {priorStatus : AttachmentStatus} {stat : Option FileStat}
    {byteOffset lineOffset : Nat} (h : resumeOffsets t.offsets priorStatus agentId hostPath stat now
      = .ok (offsets, byteOffset, lineOffset)) : SamePaths t { t with offsets } := by
  rcases resumeOffsets_eq_ok h with rfl | hreset
  · exact refl t
  · exact samePaths_offsets hreset

theorem newPath_insert {priorPipeTarget : Option String}
    (hrow : t.attachments.insert (newRecord c attachmentId now priorPipeTarget) = some attachments)
    (hoffsets : insertInitial t.offsets c.agent.agentId c.hostPath now = some offsets) :
    NewPath t ⟨attachments, offsets⟩ (c.agent.agentId, c.hostPath) := by
  constructor
  · unfold LogTables.paths
    rw [(insert_eq_some hrow).2, map_append]
    rfl
  · exact (insert_eq_some hoffsets).1
  · intro k'
    rw [get_insert hoffsets k']
    by_cases hk : k' = (c.agent.agentId, c.hostPath)
    · simp [hk, initial, LogOffsetRecord.key]
    · simp [hk, initial, LogOffsetRecord.key]

theorem SamePaths.newPath {t' t'' : LogTables} {k : String × String} (h : SamePaths t t')
    (h' : NewPath t' t'' k) : NewPath t t'' k := by
  refine ⟨h'.paths.trans (by rw [h.paths]), ?_, fun k' => ?_⟩
  · have hsome := h.offsets k
    rw [h'.fresh] at hsome
    exact Option.isNone_iff_eq_none.mp (by simpa using hsome)
  · rw [h'.offsets, h.offsets]

theorem paths_attach {attached : Attached} (h : attachLogLocked t c o = .ok attached) :
    SamePaths t attached.tables ∨ NewPath t attached.tables (c.agent.agentId, c.hostPath) := by
  cases attach_effect h with
  | active => exact .inl (refl t)
  | @resumed _ _ attachments attachments' _ _ _ _ _ hexisting hprior hsupersede hstatus hoffsets =>
    have hactive := samePaths_updateStatus (t := { t with attachments }) hstatus
    have hresumed := samePaths_resumeOffsets (t := { t with attachments := attachments' }) hoffsets
    exact .inl ((samePaths_supersede hsupersede).trans (hactive.trans hresumed))
  | @inserted _ _ attachments _ _ _ _ _ hsupersede hrow hoffsets =>
    have hnew := newPath_insert (t := { t with attachments }) hrow hoffsets
    exact .inr ((samePaths_supersede hsupersede).newPath hnew)

theorem samePaths_detach {detached : Detached} (h : detachLogLocked t agentId o = .ok detached) :
    SamePaths t { t with attachments := detached.attachments } := by
  obtain ⟨existing, -, -, -, hstatus⟩ := detach_eq_ok h
  exact samePaths_updateStatus hstatus

theorem samePaths_recovery {logPath timestamp : String}
    {stat : Option FileStat} {result : ReaderCycleResult}
    (h : readerCycleOffsetRecovery t agentId logPath stat timestamp = some result) :
    SamePaths t result.tables := by
  cases recovery_effect h with
  | nothing => exact refl t
  | stale hselect hactive hstat hstatus => exact samePaths_updateStatus hstatus
  | restarted _ _ _ _ _ _ hreset => exact samePaths_offsets hreset

theorem LogOp.paths (t : LogTables) (op : LogOp) :
    SamePaths t (op.apply t) ∨ ∃ k, NewPath t (op.apply t) k := by
  cases op with
  | attach c o =>
    simp only [LogOp.apply]
    split
    · rename_i hattach
      exact (paths_attach hattach).imp_right fun hnew => ⟨_, hnew⟩
    · exact .inl (refl t)
  | detach agentId o =>
    simp only [LogOp.apply]
    split
    · rename_i hdetach
      exact .inl (samePaths_detach hdetach)
    · exact .inl (refl t)
  | cascade paneKeys now =>
    simp only [LogOp.apply]
    split
    · rename_i hcascade
      exact .inl (samePaths_cascade hcascade)
    · exact .inl (refl t)
  | recovery agentId logPath stat timestamp =>
    simp only [LogOp.apply]
    split
    · rename_i hrecovery
      exact .inl (samePaths_recovery hrecovery)
    · exact .inl (refl t)
  | advance agentId logPath a =>
    simp only [LogOp.apply]
    split
    · rename_i hadvance
      unfold advanceOffset at hadvance
      split at hadvance
      · cases hadvance
      · exact .inl (samePaths_offsets hadvance)
    · exact .inl (refl t)

/-- One attachment row to an agent's path, and an offset row for exactly those paths. -/
structure PathsInv (t : LogTables) : Prop where
  nodup : t.paths.Nodup
  offsets : ∀ k, (t.offsets.get k).isSome = true ↔ k ∈ t.paths

namespace PathsInv

theorem empty : PathsInv LogTables.empty :=
  ⟨nodup_nil, fun _ => ⟨fun h => (by cases h), fun h => (by cases h)⟩⟩

variable {t : LogTables}

theorem same {t' : LogTables} (h : PathsInv t) (hsame : SamePaths t t') : PathsInv t' := by
  constructor
  · rw [hsame.paths]
    exact h.nodup
  · intro k
    rw [hsame.offsets, hsame.paths]
    exact h.offsets k

theorem apply (h : PathsInv t) (op : LogOp) : PathsInv (op.apply t) := by
  rcases op.paths t with hsame | ⟨k, hnew⟩
  · exact h.same hsame
  · have hfree : k ∉ t.paths := by
      intro hmem
      have hrow := (h.offsets k).mpr hmem
      rw [hnew.fresh] at hrow
      cases hrow
    constructor
    · rw [hnew.paths]
      exact h.nodup.append (nodup_singleton k) (disjoint_singleton.mpr hfree)
    · intro k'
      rw [hnew.offsets, hnew.paths, mem_append, mem_singleton, h.offsets]
      exact Or.comm

theorem eq_of_path (h : PathsInv t) {r r' : LogAttachmentRecord}
    (hr : r ∈ t.attachments.rows) (hr' : r' ∈ t.attachments.rows)
    (hpath : r.agentPath = r'.agentPath) : r = r' :=
  inj_on_of_nodup_map h.nodup hr hr' hpath

end PathsInv

/-! ## When an attach succeeds -/

def DockerExecResult.succeeded (r : DockerExecResult) : Bool :=
  r.failureKind.isNone && decide (r.returncode = 0) && !stderrMatchesPipePaneFailure r.stderr

/-- Nothing outside the two tables stands in the way of the call. -/
structure Outside.Succeeds (o : Outside) (t : LogTables) : Prop where
  ensureFile : o.ensureFile = none
  inspect : o.inspect.succeeded = true
  toggleOff : o.toggleOff.succeeded = true
  attach : o.attach.succeeded = true
  freshId : ∃ id ∈ o.attachmentIds.take maxAttachmentIdRetries, t.attachments.get id = none
  auditAppend : o.auditAppend = none
  commit : o.commit = none

theorem checkDocker_of_succeeded {r : DockerExecResult} (h : r.succeeded = true) (op : String) :
    checkDocker op r = .ok () := by
  simp only [DockerExecResult.succeeded, Bool.and_eq_true, Option.isNone_iff_eq_none,
    decide_eq_true_eq, Bool.not_eq_true'] at h
  obtain ⟨⟨hkind, hcode⟩, hstderr⟩ := h
  simp [checkDocker, hkind, hcode, hstderr]

theorem drivePipe_succeeds (h : o.Succeeds t) (c : AttachCall) :
    ∃ priorPipeTarget, drivePipe c o = .ok priorPipeTarget := by
  unfold drivePipe
  rw [bind_of_ok (checkDocker_of_succeeded h.inspect _)]
  simp only [checkDocker_of_succeeded h.toggleOff, checkDocker_of_succeeded h.attach]
  -- whichever of the two calls the pane's pipe asks for
  generalize parseListPanesOutput o.inspect.stdout = pane
  generalize classifyPipeTarget pane.pipeCommand c.containerPath = target
  cases pane.pipeActive <;> cases target.isCanonical <;> exact ⟨_, rfl⟩

theorem allocate_succeeds (h : o.Succeeds t) :
    ∃ id, allocateAttachmentId t o = .ok id ∧ t.attachments.get id = none := by
  obtain ⟨id, hmem, hfree⟩ := h.freshId
  unfold allocateAttachmentId
  cases hfind : (o.attachmentIds.take maxAttachmentIdRetries).find? fun id =>
      (t.attachments.get id).isNone with
  | none => exact absurd (Option.isNone_iff_eq_none.mpr hfree) (List.find?_eq_none.mp hfind id hmem)
  | some id' =>
    have hfound := List.find?_some hfind
    exact ⟨id', rfl, Option.isNone_iff_eq_none.mp hfound⟩

theorem updateStatus_active_succeeds {t : LogAttachments}
    (hpath : ∀ r ∈ t.rows, r.attachmentId = attachmentId → r.logPath = hostPath)
    (hfree : ∀ r ∈ t.rows, r.status = .active → r.logPath ≠ hostPath) (lastStatusAt : String) :
    ∃ t', LogAttachments.updateStatus t attachmentId .active lastStatusAt none none = some t' := by
  refine rewrite_succeeds (fun _ _ _ => rfl) fun r hr hsel u hu r' hr' hkey hu' => ?_
  rw [decide_eq_true_eq] at hsel
  have hother : ¬(r'.attachmentId = attachmentId) := fun h => hkey (h.trans hsel.symm)
  have hsame : Table.rewritten (LogAttachments.setStatus .active lastStatusAt none none)
      (fun r => decide (r.attachmentId = attachmentId)) r' = r' := if_neg (by simpa using hother)
  rw [hsame] at hu'
  obtain ⟨hactive, hlog⟩ := activeLogPath_eq_some.mp hu'
  have hu : r.logPath = u := (activeLogPath_eq_some.mp hu).2
  exact hfree r' hr' hactive (by rw [hlog, ← hu, hpath r hr hsel])

theorem supersede_succeeds (t : LogAttachments) (target : Option LogAttachmentRecord)
    (newId now : String) : ∃ t', supersede t target newId now = .ok t' := by
  cases target with
  | none => exact ⟨t, rfl⟩
  | some r =>
    obtain ⟨t', ht'⟩ := LogAttachments.updateStatus_succeeds t r.attachmentId .superseded now (some now)
      (some newId) (by decide)
    refine ⟨t', ?_⟩
    simp only [supersede, ht', execute]

theorem mem_of_supersede {t t' : LogAttachments}
    (h : supersede t target newId now = .ok t') {r : LogAttachmentRecord}
    (hr : r ∈ t'.rows) (hactive : r.status = .active) : r ∈ t.rows := by
  cases target with
  | none =>
    cases h
    exact hr
  | some target =>
    rw [rows_rewrite (execute_eq_ok h)] at hr
    obtain ⟨r₀, hr₀, rfl⟩ := mem_map.mp hr
    unfold Table.rewritten at hactive ⊢
    split at hactive
    · cases hactive
    · rename_i hsel
      rw [if_neg hsel]
      exact hr₀

theorem get_supersede {t t' : LogAttachments}
    {id : String} (h : supersede t target newId now = .ok t') (hid : t.get id = none) :
    t'.get id = none := by
  cases target with
  | none =>
    cases h
    exact hid
  | some target =>
    rw [Table.get_rewrite (execute_eq_ok h), hid]
    rfl

def LogTables.NotOwnedByOther (t : LogTables) (agentId hostPath : String) : Prop :=
  ∀ r ∈ t.attachments.rows, r.status = .active → r.logPath = hostPath → r.agentId = agentId

theorem checkOwner_succeeds
    (h : t.NotOwnedByOther agentId hostPath) : checkOwner t agentId hostPath = .ok () := by
  unfold checkOwner
  split
  · rfl
  · rename_i owner howner
    have hfound := List.find?_some howner
    simp only [Bool.and_eq_true, decide_eq_true_eq, active_iff] at hfound
    rw [if_pos (h owner (mem_of_find?_eq_some howner) hfound.2 hfound.1)]

theorem LogTables.NotOwnedByOther.not_active (h : t.NotOwnedByOther agentId hostPath)
    (hown : ∀ r ∈ t.attachments.rows, r.agentId = agentId → r.logPath = hostPath →
      r.status ≠ .active) :
    ∀ r ∈ t.attachments.rows, r.status = .active → r.logPath ≠ hostPath :=
  fun r hr hactive hlog => hown r hr (h r hr hactive hlog) hlog hactive

namespace PathsInv

variable {t : LogTables} {c : AttachCall}

theorem insertNew_refused (h : PathsInv t) {r : LogAttachmentRecord} (hr : r ∈ t.attachments.rows)
    (hagent : r.agentId = c.agent.agentId) (hlog : r.logPath = c.hostPath)
    (attachments : LogAttachments) (o : Outside) (attachmentId : String)
    (priorPipeTarget : Option String) (superseded : Option LogAttachmentRecord)
    (attached : Attached) :
    insertNew { t with attachments } c o attachmentId priorPipeTarget superseded
      ≠ .ok attached := by
  intro hok
  obtain ⟨-, offsets, -, hoffsets, -, -⟩ := insertNew_eq_ok hok
  have hnone : t.offsets.get (c.agent.agentId, c.hostPath) = none := (insert_eq_some hoffsets).1
  have hmem : (c.agent.agentId, c.hostPath) ∈ t.paths := mem_map.mpr ⟨r, hr, Prod.ext hagent hlog⟩
  have hsome := (h.offsets _).mpr hmem
  rw [hnone] at hsome
  cases hsome

theorem insertNew_succeeds (h : PathsInv t) {o : Outside} (ho : o.Succeeds t)
    (howner : t.NotOwnedByOther c.agent.agentId c.hostPath)
    (hnone : ∀ r ∈ t.attachments.rows, ¬(r.agentId = c.agent.agentId ∧ r.logPath = c.hostPath))
    {target : Option LogAttachmentRecord} {attachmentId : String} {attachments : LogAttachments}
    (hsupersede : supersede t.attachments target attachmentId o.now = .ok attachments)
    (hid : t.attachments.get attachmentId = none) (priorPipeTarget : Option String) :
    ∃ attached, insertNew { t with attachments } c o attachmentId priorPipeTarget
      target = .ok attached := by
  have hfree := howner.not_active fun r hr hagent hlog => absurd ⟨hagent, hlog⟩ (hnone r hr)
  obtain ⟨attachments', hrow⟩ := insert_succeeds (t := attachments)
    (r := newRecord c attachmentId o.now priorPipeTarget) (get_supersede hsupersede hid) rfl (by
      intro u hu r hr hu'
      obtain ⟨-, rfl⟩ := activeLogPath_eq_some.mp hu
      obtain ⟨hactive, hlog⟩ := activeLogPath_eq_some.mp hu'
      exact hfree r (mem_of_supersede hsupersede hr hactive) hactive hlog)
  have hoffset : t.offsets.get (c.agent.agentId, c.hostPath) = none := by
    rw [← Option.not_isSome_iff_eq_none, h.offsets]
    intro hmem
    obtain ⟨r, hr, hpath⟩ := mem_map.mp hmem
    exact hnone r hr ⟨congrArg Prod.fst hpath, congrArg Prod.snd hpath⟩
  obtain ⟨offsets', hinitial⟩ := insert_succeeds (t := t.offsets)
    (r := initial c.agent.agentId c.hostPath o.now) hoffset rfl (fun _ hu => by cases hu)
  unfold insertNew
  simp only [insertInitial, hrow, hinitial, execute, ho.auditAppend, ho.commit, raiseInternal]
  exact ⟨_, rfl⟩

theorem resumeExisting_succeeds (h : PathsInv t) {o : Outside} (ho : o.Succeeds t)
    (howner : t.NotOwnedByOther c.agent.agentId c.hostPath) {existing : LogAttachmentRecord}
    (hexisting : existing ∈ t.attachments.rows) (hagent : existing.agentId = c.agent.agentId)
    (hlog : existing.logPath = c.hostPath) (hstatus : existing.status ≠ .active)
    {target : Option LogAttachmentRecord} {newId : String} {attachments : LogAttachments}
    (hsupersede : supersede t.attachments target newId o.now = .ok attachments)
    (priorPipeTarget : Option String) :
    ∃ attached, resumeExisting { t with attachments } existing c o priorPipeTarget
      = .ok attached := by
  have hfree := howner.not_active fun r hr hagent' hlog' => by
    rw [h.eq_of_path hr hexisting (Prod.ext (hagent'.trans hagent.symm) (hlog'.trans hlog.symm))]
    exact hstatus
  -- superseding keeps the path of every row
  have hpath : ∀ r ∈ attachments.rows, r.attachmentId = existing.attachmentId →
      r.logPath = c.hostPath := by
    intro r hr hid
    have hget := Table.get_of_mem hr
    cases target with
    | none =>
      cases hsupersede
      rw [hid, Table.get_of_mem hexisting] at hget
      rw [← Option.some.inj hget, hlog]
    | some target =>
      rw [Table.get_rewrite (execute_eq_ok hsupersede), hid, Table.get_of_mem hexisting] at hget
      rw [← Option.some.inj hget]
      unfold Table.rewritten
      split <;> exact hlog
  obtain ⟨attachments', hactive⟩ := updateStatus_active_succeeds hpath
    (fun r hr hactive => hfree r (mem_of_supersede hsupersede hr hactive) hactive) o.now
  obtain ⟨resumed, hresume⟩ : ∃ resumed, resumeOffsets t.offsets existing.status c.agent.agentId
      c.hostPath o.stat o.now = .ok resumed := by
    unfold resumeOffsets
    split
    · exact ⟨_, rfl⟩
    · split
      · obtain ⟨offsets', hreset⟩ := LogOffsets.update_row_succeeds t.offsets
          (ofAgentPath c.agent.agentId c.hostPath)
          (LogOffsets.setReset (o.stat.map FileStat.inode) ((o.stat.map FileStat.size).getD 0) o.now)
        simp only [reset, hreset, execute]
        exact ⟨_, rfl⟩
      · exact ⟨_, rfl⟩
  unfold resumeExisting
  simp only [hactive, execute, hresume, ho.auditAppend, ho.commit, raiseInternal]
  exact ⟨_, rfl⟩

end PathsInv

/-! ## The result -/

def logStep (t : LogTables) (op : LogOp) : Option LogTables := some (op.apply t)

theorem PathsInv.of_reach (h : Reach logStep anyStep LogTables.empty t) : PathsInv t := by
  refine h.invariant PathsInv PathsInv.empty ?_
  rintro t op t' hinv - hstep
  cases hstep
  exact hinv.apply op

theorem attachLogLocked_eq (ho : o.Succeeds t)
    (howner : t.NotOwnedByOther c.agent.agentId c.hostPath) :
    ∃ priorPipeTarget, attachLogLocked t c o =
      let existing := LogAttachments.selectForAgentPath t.attachments c.agent.agentId c.hostPath
      match existing.filter active with
      | some r => reattachActive t r o
      | none => writeAttachment t existing (supersedeTarget t c.agent.agentId c.hostPath) c o
          priorPipeTarget := by
  obtain ⟨priorPipeTarget, hpipe⟩ := drivePipe_succeeds ho c
  refine ⟨priorPipeTarget, ?_⟩
  unfold attachLogLocked
  rw [bind_of_ok (checkOwner_succeeds howner), ho.ensureFile]
  simp only [bind_of_ok hpipe]
  rfl

theorem reattachActive_succeeds (ho : o.Succeeds t)
    (r : LogAttachmentRecord) : ∃ attached, reattachActive t r o = .ok attached := by
  unfold reattachActive
  simp only [checkDocker_of_succeeded ho.attach, ho.commit, raiseInternal]
  exact ⟨_, rfl⟩

/-- After any history of the two tables, an attach of a path that no other agent owns, with nothing
outside in its way, succeeds if and only if the agent's own row for the path is not superseded. -/
theorem attach_succeeds_iff {t : LogTables}
    (h : Reach logStep anyStep LogTables.empty t) (c : AttachCall) (o : Outside)
    (ho : o.Succeeds t) (howner : t.NotOwnedByOther c.agent.agentId c.hostPath) :
    (∃ attached, attachLogLocked t c o = .ok attached) ↔
      ∀ r ∈ t.attachments.rows, r.agentId = c.agent.agentId → r.logPath = c.hostPath →
        r.status ≠ .superseded := by
  have hinv := PathsInv.of_reach h
  obtain ⟨priorPipeTarget, heq⟩ := attachLogLocked_eq ho howner
  obtain ⟨attachmentId, hallocate, hid⟩ := allocate_succeeds ho
  obtain ⟨attachments, hsupersede⟩ := supersede_succeeds t.attachments
    (supersedeTarget t c.agent.agentId c.hostPath) attachmentId o.now
  rw [heq]
  cases hexisting : LogAttachments.selectForAgentPath t.attachments c.agent.agentId c.hostPath with
  | none =>
    have hnone : ∀ r ∈ t.attachments.rows, ¬(r.agentId = c.agent.agentId ∧ r.logPath = c.hostPath) :=
      fun _ hr => LogAttachments.selectForAgentPath_eq_none hexisting hr
    refine ⟨fun _ r hr hagent hlog => absurd ⟨hagent, hlog⟩ (hnone r hr), fun _ => ?_⟩
    simp only [Option.filter_none, writeAttachment]
    rw [bind_of_ok hallocate, bind_of_ok hsupersede]
    exact hinv.insertNew_succeeds ho howner hnone hsupersede hid priorPipeTarget
  | some existing =>
    obtain ⟨hmem, hagent, hlog⟩ := LogAttachments.selectForAgentPath_eq_some hexisting
    -- the row that is found is the only one, so its status decides
    have hstatus : (∀ r ∈ t.attachments.rows, r.agentId = c.agent.agentId →
        r.logPath = c.hostPath → r.status ≠ .superseded) ↔ existing.status ≠ .superseded := by
      refine ⟨fun hall => hall existing hmem hagent hlog, fun hne r hr hagent' hlog' => ?_⟩
      rw [hinv.eq_of_path hr hmem (Prod.ext (hagent'.trans hagent.symm) (hlog'.trans hlog.symm))]
      exact hne
    rw [hstatus]
    by_cases hactive : existing.status = .active
    · have hfilter : (some existing).filter active = some existing := by
        simp [Option.filter, active, hactive]
      simp only [hfilter]
      exact ⟨fun _ => by rw [hactive]; decide, fun _ => reattachActive_succeeds ho existing⟩
    · have hfilter : (some existing).filter active = none := by
        simp [Option.filter, active, hactive]
      simp only [hfilter, writeAttachment]
      rw [bind_of_ok hallocate, bind_of_ok hsupersede]
      cases hs : existing.status with
      | active => exact absurd hs hactive
      | stale | detached =>
        refine ⟨fun _ => by decide, fun _ => ?_⟩
        exact hinv.resumeExisting_succeeds ho howner hmem hagent hlog hactive hsupersede
          priorPipeTarget
      | superseded =>
        refine ⟨fun hok => ?_, fun hne => absurd rfl hne⟩
        obtain ⟨attached, hattached⟩ := hok
        rw [if_neg (by decide)] at hattached
        exact absurd hattached (hinv.insertNew_refused hmem hagent hlog attachments o attachmentId
          priorPipeTarget _ attached)

def sampleAgent : Routing.AgentRow :=
  ⟨"agt_00000000000a", ⟨"c1", "/tmp/tmux-1000/default", "main", 0, 0, "%0"⟩, .slave, "codex",
    "worker", true⟩

def sampleCall (hostPath : String) : AttachCall :=
  ⟨sampleAgent, "bench", hostPath, hostPath, .explicit⟩

def sampleDocker : DockerExecResult := ⟨0, "0 \n", "", none⟩

def sampleOutside (attachmentId now : String) : Outside :=
  ⟨none, sampleDocker, sampleDocker, sampleDocker, [attachmentId], now, none, none, none⟩

def twoPaths : LogTables :=
  [LogOp.attach (sampleCall "/logs/a") (sampleOutside "lat_1" "t1"),
    .attach (sampleCall "/logs/b") (sampleOutside "lat_2" "t2")].foldl
    (fun t op => op.apply t) LogTables.empty

/-- A third path is fine; so is the second one, which is active; the first one is not. -/
theorem attach_succeeds_iff_twoPaths :
    (∃ attached, attachLogLocked twoPaths (sampleCall "/logs/c") (sampleOutside "lat_3" "t3")
      = .ok attached) ∧
    (∃ attached, attachLogLocked twoPaths (sampleCall "/logs/b") (sampleOutside "lat_3" "t3")
      = .ok attached) ∧
    ¬∃ attached, attachLogLocked twoPaths (sampleCall "/logs/a") (sampleOutside "lat_3" "t3")
      = .ok attached := by
  have hreach : Reach logStep anyStep LogTables.empty twoPaths :=
    reach_of_run (run_total (fun t (op : LogOp) => op.apply t) _ _)
  have ho : (sampleOutside "lat_3" "t3").Succeeds twoPaths :=
    ⟨rfl, by decide, by decide, by decide, ⟨"lat_3", by decide, by decide +kernel⟩, rfl, rfl⟩
  refine ⟨?_, ?_, ?_⟩
  · exact (attach_succeeds_iff hreach (sampleCall "/logs/c") _ ho
      (by unfold LogTables.NotOwnedByOther; decide +kernel)).mpr (by decide +kernel)
  · exact (attach_succeeds_iff hreach (sampleCall "/logs/b") _ ho
      (by unfold LogTables.NotOwnedByOther; decide +kernel)).mpr (by decide +kernel)
  · intro hok
    have hstatus := (attach_succeeds_iff hreach (sampleCall "/logs/a") _ ho
      (by unfold LogTables.NotOwnedByOther; decide +kernel)).mp hok
    revert hstatus
    decide +kernel

/-- Both attaches succeed, and the way back to the first path fails. -/
theorem superseded_path_refused :
    twoPaths.attachments.rows.map (fun r => (r.logPath, r.status))
      = [("/logs/a", .superseded), ("/logs/b", .active)] ∧
    attachLogLocked twoPaths (sampleCall "/logs/a") (sampleOutside "lat_3" "t3")
      = .error ⟨.internalError,
          "UNIQUE constraint failed: log_offsets.agent_id, log_offsets.log_path"⟩ := by decide +kernel

end AgentTower.Logs
