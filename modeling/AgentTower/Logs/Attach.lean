import AgentTower.Logs.PipePane
import AgentTower.Logs.Tables

/-!
# Attaching and detaching a log

`_attach_log_locked` and `_detach_log_locked` of `LogService`, each one transaction, after the checks
before the locks: a call here has its agent and its resolved path.  What the calls to the outside
return is in `Outside`; whatever they raise, the transaction is rolled back.
-/

namespace AgentTower.Logs

open Fallible
open Routing (AgentRow pyRepr)
open LogAttachments (selectActiveForAgent selectForAgentPath updateStatus)

/-- A call that has passed the checks before the locks. -/
structure AttachCall where
  agent : AgentRow
  containerUser : String
  containerPath : String
  hostPath : String
  source : AttachmentSource
  deriving DecidableEq, Repr

/-- The answers from outside: files, docker, the id generator, the clock and the audit file.  An
`Option String` is the text of an exception. -/
structure Outside where
  ensureFile : Option String
  inspect : DockerExecResult
  toggleOff : DockerExecResult
  attach : DockerExecResult
  attachmentIds : List String
  now : String
  stat : Option FileStat
  auditAppend : Option String
  commit : Option String
  deriving DecidableEq, Repr

structure LogAttachmentChange where
  attachmentId : String
  agentId : String
  priorStatus : Option AttachmentStatus
  newStatus : AttachmentStatus
  priorPath : Option String
  newPath : String
  priorPipeTarget : Option String
  source : AttachmentSource
  deriving DecidableEq, Repr

structure AttachResult where
  agentId : String
  attachmentId : String
  logPath : String
  source : AttachmentSource
  byteOffset : Nat
  lineOffset : Nat
  attachedAt : String
  lastStatusAt : String
  isNew : Bool
  priorStatus : Option AttachmentStatus
  deriving DecidableEq, Repr

structure Attached where
  tables : LogTables
  result : AttachResult
  audit : Option LogAttachmentChange

def internalError (message : String) : RegistrationError := ⟨.internalError, message⟩

/-- A step that raises leaves through the handlers as `internal_error`. -/
def raiseInternal (wrap : String → String) : Option String → Except RegistrationError Unit
  | none => .ok ()
  | some message => .error (internalError (wrap message))

/-- A statement that the table refuses is an `IntegrityError`. -/
def execute {α : Type} (message : String) : Option α → Except RegistrationError α
  | none => .error (internalError message)
  | some a => .ok a

def uniqueFailed (columns : String) : String := "UNIQUE constraint failed: " ++ columns

/-! ## The steps of `_attach_log_locked` -/

def paneShortForm (a : AgentRow) : String :=
  a.key.tmuxSessionName ++ ":" ++ toString a.key.tmuxWindowIndex ++ "." ++
    toString a.key.tmuxPaneIndex

def checkOwner (t : LogTables) (agentId hostPath : String) : Except RegistrationError Unit :=
  match LogAttachments.selectActiveByLogPath t.attachments hostPath with
  | none => .ok ()
  | some owner =>
    if owner.agentId = agentId then .ok ()
    else
      .error ⟨.logPathInUse, "log_path " ++ pyRepr hostPath ++ " is owned by agent_id " ++
        pyRepr owner.agentId⟩

def supersedeTarget (t : LogTables) (agentId hostPath : String) : Option LogAttachmentRecord :=
  (LogAttachments.selectMostRecentForAgent t.attachments agentId).filter fun r =>
    decide (r.status ≠ .superseded ∧ r.logPath ≠ hostPath)

/-- The inspection, the toggle-off of a foreign pipe, and the attach unless the pane is piped to the
path already.  The result is the foreign target for the audit. -/
def drivePipe (c : AttachCall) (o : Outside) : Except RegistrationError (Option String) := do
  checkDocker "tmux list-panes" o.inspect
  let pane := parseListPanesOutput o.inspect.stdout
  let target := classifyPipeTarget pane.pipeCommand c.containerPath
  -- a foreign pipe is closed first; its target goes into the audit record
  if pane.pipeActive && !target.isCanonical then
    checkDocker "tmux pipe-pane toggle-off" o.toggleOff
  if !(pane.pipeActive && target.isCanonical) then
    checkDocker "tmux pipe-pane attach" o.attach
  pure (if pane.pipeActive && !target.isCanonical then
    (target.foreignTarget.filter (· ≠ "")).map sanitizePriorPipeTarget else none)

def maxAttachmentIdRetries : Nat := 5

def allocateAttachmentId (t : LogTables) (o : Outside) : Except RegistrationError String :=
  match (o.attachmentIds.take maxAttachmentIdRetries).find? fun id =>
      (t.attachments.get id).isNone with
  | some id => .ok id
  | none =>
    .error (internalError ("attachment_id allocation exhausted " ++
      toString maxAttachmentIdRetries ++ " attempts"))

def supersede (t : LogAttachments) (target : Option LogAttachmentRecord) (newId now : String) :
    Except RegistrationError LogAttachments :=
  match target with
  | none => .ok t
  | some r =>
    execute (uniqueFailed "log_attachments.log_path")
      (updateStatus t r.attachmentId .superseded now (some now) (some newId))

def fileConsistencyIntact (stat : Option FileStat) (storedInode : Option String)
    (storedSizeSeen : Nat) : Bool :=
  match stat, storedInode with
  | some st, some inode => decide (st.inode = inode ∧ storedSizeSeen ≤ st.size)
  | _, _ => false

/-- The offsets of a row that becomes active again, and the offsets to report: a stale row whose
file is not the one it was starts again from zero. -/
def resumeOffsets (t : LogOffsets) (priorStatus : AttachmentStatus) (agentId hostPath : String)
    (stat : Option FileStat) (now : String) :
    Except RegistrationError (LogOffsets × Nat × Nat) :=
  match t.get (agentId, hostPath) with
  | none => .ok (t, 0, 0)
  | some row =>
    if priorStatus = .stale ∧
        fileConsistencyIntact stat row.fileInode row.fileSizeSeen = false then do
      let t' ← execute "" (LogOffsets.reset t agentId hostPath (stat.map FileStat.inode)
        ((stat.map FileStat.size).getD 0) now)
      pure (t', 0, 0)
    else .ok (t, row.byteOffset, row.lineOffset)

def AttachResult.ofRecord (r : LogAttachmentRecord) (byteOffset lineOffset : Nat) (isNew : Bool)
    (priorStatus : Option AttachmentStatus) (lastStatusAt : String) : AttachResult where
  agentId := r.agentId
  attachmentId := r.attachmentId
  logPath := r.logPath
  source := r.source
  byteOffset := byteOffset
  lineOffset := lineOffset
  attachedAt := r.attachedAt
  lastStatusAt := lastStatusAt
  isNew := isNew
  priorStatus := priorStatus

def reattachActive (t : LogTables) (existing : LogAttachmentRecord) (o : Outside) :
    Except RegistrationError Attached := do
  checkDocker "tmux pipe-pane attach" o.attach
  raiseInternal id o.commit
  let row := t.offsets.get (existing.agentId, existing.logPath)
  pure ⟨t, .ofRecord existing ((row.map LogOffsetRecord.byteOffset).getD 0)
    ((row.map LogOffsetRecord.lineOffset).getD 0) false (some existing.status)
    existing.lastStatusAt, none⟩

def resumeExisting (t : LogTables) (existing : LogAttachmentRecord) (c : AttachCall) (o : Outside)
    (priorPipeTarget : Option String) : Except RegistrationError Attached := do
  let attachments ← execute (uniqueFailed "log_attachments.log_path")
    (updateStatus t.attachments existing.attachmentId .active o.now none none)
  let (offsets, byteOffset, lineOffset) ←
    resumeOffsets t.offsets existing.status c.agent.agentId c.hostPath o.stat o.now
  raiseInternal id o.auditAppend
  raiseInternal id o.commit
  pure ⟨⟨attachments, offsets⟩,
    .ofRecord existing byteOffset lineOffset false (some existing.status) o.now,
    some ⟨existing.attachmentId, c.agent.agentId, some existing.status, .active,
      some existing.logPath, c.hostPath, priorPipeTarget, c.source⟩⟩

def newRecord (c : AttachCall) (attachmentId now : String) (priorPipeTarget : Option String) :
    LogAttachmentRecord where
  attachmentId := attachmentId
  agentId := c.agent.agentId
  key := c.agent.key
  logPath := c.hostPath
  status := .active
  source := c.source
  pipePaneCommand := renderPipeCommandForAudit c.containerUser c.agent.key.containerId
    (paneShortForm c.agent) c.containerPath
  priorPipeTarget := priorPipeTarget
  attachedAt := now
  lastStatusAt := now
  supersededAt := none
  supersededBy := none
  createdAt := now

/-- A row for a path that the agent has none for; or one that was superseded earlier. -/
def insertNew (t : LogTables) (c : AttachCall) (o : Outside) (attachmentId : String)
    (priorPipeTarget : Option String) (superseded : Option LogAttachmentRecord) :
    Except RegistrationError Attached := do
  let record := newRecord c attachmentId o.now priorPipeTarget
  let attachments ← execute (uniqueFailed "log_attachments.log_path") (t.attachments.insert record)
  let offsets ← execute (uniqueFailed "log_offsets.agent_id, log_offsets.log_path")
    (LogOffsets.insertInitial t.offsets c.agent.agentId c.hostPath o.now)
  raiseInternal id o.auditAppend
  raiseInternal id o.commit
  pure ⟨⟨attachments, offsets⟩,
    .ofRecord record 0 0 true (superseded.map LogAttachmentRecord.status) o.now,
    some ⟨attachmentId, c.agent.agentId, superseded.map LogAttachmentRecord.status, .active,
      superseded.map LogAttachmentRecord.logPath, c.hostPath, priorPipeTarget, c.source⟩⟩

/-- What follows the calls to tmux: the older row of another path is superseded, and the row of this
path resumed or made. -/
def writeAttachment (t : LogTables) (existing : Option LogAttachmentRecord)
    (target : Option LogAttachmentRecord) (c : AttachCall) (o : Outside)
    (priorPipeTarget : Option String) : Except RegistrationError Attached := do
  -- the id is taken also for a row that is resumed, and `superseded_by` then names a row that is never made
  let attachmentId ← allocateAttachmentId t o
  let attachments ← supersede t.attachments target attachmentId o.now
  -- a superseded row of this path counts as none
  match existing with
  | some r =>
    if r.status = .stale ∨ r.status = .detached then
      resumeExisting { t with attachments } r c o priorPipeTarget
    else insertNew { t with attachments } c o attachmentId priorPipeTarget target
  | none => insertNew { t with attachments } c o attachmentId priorPipeTarget target

def attachLogLocked (t : LogTables) (c : AttachCall) (o : Outside) :
    Except RegistrationError Attached := do
  checkOwner t c.agent.agentId c.hostPath
  let existing := selectForAgentPath t.attachments c.agent.agentId c.hostPath
  let target := supersedeTarget t c.agent.agentId c.hostPath
  raiseInternal ("failed to ensure host log file mode: " ++ ·) o.ensureFile
  -- an active row is not looked at again: the pipe is issued, and that is all
  match existing.filter LogAttachmentRecord.active with
  | some r => reattachActive t r o
  | none => do
    let priorPipeTarget ← drivePipe c o
    writeAttachment t existing target c o priorPipeTarget

structure Detached where
  attachments : LogAttachments
  attachmentId : String
  logPath : String
  byteOffset : Nat
  lineOffset : Nat

def detachLogLocked (t : LogTables) (agentId : String) (o : Outside) :
    Except RegistrationError Detached := do
  match selectActiveForAgent t.attachments agentId with
  | none =>
    .error ⟨.attachmentNotFound, "agent " ++ pyRepr agentId ++ " has no active log attachment"⟩
  | some existing => do
    checkDocker "pipe-pane toggle-off" o.toggleOff
    let attachments ← execute (uniqueFailed "log_attachments.log_path")
      (updateStatus t.attachments existing.attachmentId .detached o.now none none)
    raiseInternal id o.commit
    let row := t.offsets.get (agentId, existing.logPath)
    pure ⟨attachments, existing.attachmentId, existing.logPath,
      (row.map LogOffsetRecord.byteOffset).getD 0, (row.map LogOffsetRecord.lineOffset).getD 0⟩

/-! ## What a call that succeeds has written -/

theorem execute_eq_ok {α : Type} {message : String} {x : Option α} {a : α}
    (h : execute message x = .ok a) : x = some a := by
  cases x with
  | none => cases h
  | some b =>
    cases h
    rfl

theorem resumeOffsets_eq_ok {t t' : LogOffsets} {priorStatus : AttachmentStatus}
    {agentId hostPath now : String} {stat : Option FileStat} {byteOffset lineOffset : Nat}
    (h : resumeOffsets t priorStatus agentId hostPath stat now = .ok (t', byteOffset, lineOffset)) :
    t' = t ∨ LogOffsets.reset t agentId hostPath (stat.map FileStat.inode)
      ((stat.map FileStat.size).getD 0) now = some t' := by
  unfold resumeOffsets at h
  split at h
  · cases h
    exact .inl rfl
  · split at h
    · obtain ⟨t₁, hreset, hpure⟩ := bind_eq_ok.mp h
      cases hpure
      exact .inr (execute_eq_ok hreset)
    · cases h
      exact .inl rfl

variable {t : LogTables} {c : AttachCall} {o : Outside} {attached : Attached}

theorem insertNew_eq_ok {attachmentId : String}
    {priorPipeTarget : Option String} {superseded : Option LogAttachmentRecord}
    (h : insertNew t c o attachmentId priorPipeTarget superseded = .ok attached) :
    ∃ attachments offsets,
      t.attachments.insert (newRecord c attachmentId o.now priorPipeTarget) = some attachments ∧
      LogOffsets.insertInitial t.offsets c.agent.agentId c.hostPath o.now = some offsets ∧
      attached.tables = ⟨attachments, offsets⟩ ∧
      attached.audit = some ⟨attachmentId, c.agent.agentId,
        superseded.map LogAttachmentRecord.status, .active,
        superseded.map LogAttachmentRecord.logPath, c.hostPath, priorPipeTarget, c.source⟩ := by
  obtain ⟨attachments, hrow, h⟩ := bind_eq_ok.mp h
  obtain ⟨offsets, hoffsets, h⟩ := bind_eq_ok.mp h
  obtain ⟨-, -, h⟩ := bind_eq_ok.mp h
  obtain ⟨-, -, h⟩ := bind_eq_ok.mp h
  cases h
  exact ⟨attachments, offsets, execute_eq_ok hrow, execute_eq_ok hoffsets, rfl, rfl⟩

/-- An attach writes nothing if the row is active; otherwise the row of another path is superseded,
and then the row of this path is resumed, or a new one is made in both tables. -/
inductive AttachEffect (t : LogTables) (c : AttachCall) (o : Outside) : Attached → Prop
  | active {existing : LogAttachmentRecord} {result : AttachResult}
      (hexisting : selectForAgentPath t.attachments c.agent.agentId c.hostPath = some existing)
      (hactive : existing.status = .active) : AttachEffect t c o ⟨t, result, none⟩
  | resumed {existing : LogAttachmentRecord} {newId : String}
      {attachments attachments' : LogAttachments} {offsets : LogOffsets} {byteOffset lineOffset : Nat}
      {result : AttachResult} {priorPipeTarget : Option String}
      (hexisting : selectForAgentPath t.attachments c.agent.agentId c.hostPath = some existing)
      (hprior : existing.status = .stale ∨ existing.status = .detached)
      (hsupersede : supersede t.attachments (supersedeTarget t c.agent.agentId c.hostPath) newId o.now
        = .ok attachments)
      (hstatus : updateStatus attachments existing.attachmentId .active o.now none none
        = some attachments')
      (hoffsets : resumeOffsets t.offsets existing.status c.agent.agentId c.hostPath o.stat o.now
        = .ok (offsets, byteOffset, lineOffset)) :
      AttachEffect t c o ⟨⟨attachments', offsets⟩, result,
        some ⟨existing.attachmentId, c.agent.agentId, some existing.status, .active,
          some existing.logPath, c.hostPath, priorPipeTarget, c.source⟩⟩
  | inserted {attachmentId : String} {priorPipeTarget : Option String}
      {attachments attachments' : LogAttachments} {offsets : LogOffsets} {result : AttachResult}
      {priorStatus : Option AttachmentStatus} {priorPath : Option String}
      (hsupersede : supersede t.attachments (supersedeTarget t c.agent.agentId c.hostPath)
        attachmentId o.now = .ok attachments)
      (hrow : attachments.insert (newRecord c attachmentId o.now priorPipeTarget)
        = some attachments')
      (hoffsets : LogOffsets.insertInitial t.offsets c.agent.agentId c.hostPath o.now
        = some offsets)
      (hexisting : ∀ r, selectForAgentPath t.attachments c.agent.agentId c.hostPath = some r →
        ¬(r.status = .stale ∨ r.status = .detached)) :
      AttachEffect t c o ⟨⟨attachments', offsets⟩, result,
        some ⟨attachmentId, c.agent.agentId, priorStatus, .active, priorPath, c.hostPath,
          priorPipeTarget, c.source⟩⟩

theorem writeAttachment_effect {priorPipeTarget : Option String}
    (h : writeAttachment t (selectForAgentPath t.attachments c.agent.agentId c.hostPath)
      (supersedeTarget t c.agent.agentId c.hostPath) c o priorPipeTarget = .ok attached) :
    AttachEffect t c o attached := by
  obtain ⟨attachmentId, -, h⟩ := bind_eq_ok.mp h
  obtain ⟨attachments, hsupersede, h⟩ := bind_eq_ok.mp h
  have hinserted : (∀ r, selectForAgentPath t.attachments c.agent.agentId c.hostPath = some r →
        ¬(r.status = .stale ∨ r.status = .detached)) →
      insertNew { t with attachments } c o attachmentId priorPipeTarget
        (supersedeTarget t c.agent.agentId c.hostPath) = .ok attached → AttachEffect t c o attached := by
    intro hexisting h
    obtain ⟨tables, result, audit⟩ := attached
    obtain ⟨attachments', offsets, hrow, hoffsets, rfl, rfl⟩ := insertNew_eq_ok h
    exact .inserted hsupersede hrow hoffsets hexisting
  cases hexisting : selectForAgentPath t.attachments c.agent.agentId c.hostPath with
  | none =>
    rw [hexisting] at h
    exact hinserted (fun r hr => by cases hexisting.symm.trans hr) h
  | some existing =>
    rw [hexisting] at h
    simp only at h
    split at h
    · rename_i hprior
      obtain ⟨attachments', hstatus, h⟩ := bind_eq_ok.mp h
      obtain ⟨⟨offsets, byteOffset, lineOffset⟩, hoffsets, h⟩ := bind_eq_ok.mp h
      obtain ⟨-, -, h⟩ := bind_eq_ok.mp h
      obtain ⟨-, -, h⟩ := bind_eq_ok.mp h
      cases h
      exact .resumed hexisting hprior hsupersede (execute_eq_ok hstatus) hoffsets
    · rename_i hprior
      refine hinserted (fun r hr => ?_) h
      cases hexisting.symm.trans hr
      exact hprior

theorem attach_effect (h : attachLogLocked t c o = .ok attached) : AttachEffect t c o attached := by
  obtain ⟨-, -, h⟩ := bind_eq_ok.mp h
  obtain ⟨-, -, h⟩ := bind_eq_ok.mp h
  split at h
  · rename_i r hr
    obtain ⟨hexisting, hactive⟩ := Option.filter_eq_some_iff.mp hr
    obtain ⟨-, -, h⟩ := bind_eq_ok.mp h
    obtain ⟨-, -, h⟩ := bind_eq_ok.mp h
    cases h
    exact .active hexisting (LogAttachmentRecord.active_iff.mp hactive)
  · obtain ⟨priorPipeTarget, -, h⟩ := bind_eq_ok.mp h
    exact writeAttachment_effect h

theorem detach_eq_ok {agentId : String} {detached : Detached}
    (h : detachLogLocked t agentId o = .ok detached) :
    ∃ existing ∈ t.attachments.rows, existing.status = .active ∧
      existing.attachmentId = detached.attachmentId ∧ updateStatus t.attachments
        existing.attachmentId .detached o.now none none = some detached.attachments := by
  unfold detachLogLocked at h
  split at h
  · cases h
  · rename_i existing hexisting
    obtain ⟨-, -, h⟩ := bind_eq_ok.mp h
    obtain ⟨attachments, hstatus, h⟩ := bind_eq_ok.mp h
    obtain ⟨-, -, h⟩ := bind_eq_ok.mp h
    cases h
    obtain ⟨hmem, hactive⟩ := List.mem_filter.mp (LogAttachments.mem_of_firstBy hexisting)
    rw [Bool.and_eq_true, LogAttachmentRecord.active_iff] at hactive
    exact ⟨existing, hmem, hactive.2, rfl, execute_eq_ok hstatus⟩

end AgentTower.Logs
