import AgentTower.Logs.AttachHistory

/-!
# The attachment rows under concurrent writers

`attach_log`, `detach_log` and the cascade of a pane scan read and write in one transaction.  The
recovery of a reader cycle does not: it opens one that writes by id, whatever became of the row that
it has read.  At most one recovery is under way.
-/

namespace AgentTower.Logs

open Transition Sql List Option Table
open Routing (PaneKey)
open LogAttachments (mem_of_firstBy selectForAgentPath setStale updateStatus)

/-- The one statement of the transaction that recovery opens. -/
inductive RecoveryWrite where
  | stale (attachmentId timestamp : String)
  | reset (agentId logPath : String) (fileInode : Option String) (fileSizeSeen : Nat)
      (timestamp : String)
  deriving DecidableEq, Repr

def RecoveryWrite.apply (t : LogTables) : RecoveryWrite → Option LogTables
  | .stale attachmentId timestamp =>
    (updateStatus t.attachments attachmentId .stale timestamp none none).map
      fun attachments => { t with attachments }
  | .reset agentId logPath fileInode fileSizeSeen timestamp =>
    (LogOffsets.reset t.offsets agentId logPath fileInode fileSizeSeen timestamp).map
      fun offsets => { t with offsets }

def decideRecovery (attachment : LogAttachmentRecord) (row : LogOffsetRecord)
    (stat : Option FileStat) (timestamp : String) : Option RecoveryWrite :=
  if attachment.status = .stale ∧ stat.isSome = true then none
  else
    match stat, detectFileChange stat row.fileInode row.fileSizeSeen with
    | none, _ =>
      if attachment.status = .active then some (.stale attachment.attachmentId timestamp) else none
    | some _, .unchanged => none
    | some st, change =>
      if attachment.status ≠ .active then none
      else
        some (.reset attachment.agentId attachment.logPath
          (if change = .truncated then row.fileInode else some st.inode) st.size timestamp)

/-! ## Interleavings -/

/-- What the reader's thread holds between two of its accesses. -/
inductive ReaderPhase where
  | idle
  | selected (attachment : LogAttachmentRecord)
  | writing (w : RecoveryWrite)
  deriving DecidableEq, Repr

structure RaceState where
  tables : LogTables
  reader : ReaderPhase

inductive RaceLabel where
  | transaction (op : LogOp)
  | select (agentId logPath : String)
  | decide (stat : Option FileStat) (timestamp : String)
  | commit
  | abandon
  deriving Repr

/-- A recovery is never one transaction; its parts are the other labels.  Only an active row leads to a
write, and that row is read with one statement. -/
def raceStep (s : RaceState) : RaceLabel → Option RaceState
  | .transaction (.recovery ..) => none
  | .transaction op => some { s with tables := op.apply s.tables }
  | .select agentId logPath =>
    match s.reader with
    | .idle =>
      match selectAttachmentForRecovery s.tables.attachments agentId logPath with
      | some attachment => some { s with reader := .selected attachment }
      | none => some s
    | _ => none
  | .decide stat timestamp =>
    match s.reader with
    | .selected attachment =>
      match (s.tables.offsets.get attachment.agentPath).bind fun row =>
          decideRecovery attachment row stat timestamp with
      | some w => some { s with reader := .writing w }
      | none => some { s with reader := .idle }
    | _ => none
  | .commit =>
    match s.reader with
    | .writing w => (w.apply s.tables).map fun tables => ⟨tables, .idle⟩
    | _ => none
  | .abandon => some { s with reader := .idle }

inductive RaceEffect (s : RaceState) : RaceLabel → RaceState → Prop where
  | transaction {op : LogOp} :
      (∀ agentId logPath stat timestamp, op ≠ .recovery agentId logPath stat timestamp) →
      RaceEffect s (.transaction op) { s with tables := op.apply s.tables }
  | read (l : RaceLabel) (reader : ReaderPhase) : RaceEffect s l { s with reader }
  | committed {w : RecoveryWrite} {tables : LogTables} : s.reader = .writing w →
      w.apply s.tables = some tables → RaceEffect s .commit ⟨tables, .idle⟩

variable {s s' : RaceState} {l : RaceLabel} {t : LogTables} {agentId hostPath newId now : String}
  {attachments : LogAttachments} {r : LogAttachmentRecord}

theorem raceStep_effect (h : raceStep s l = some s') : RaceEffect s l s' := by
  cases l with
  | transaction op =>
    cases op with
    | recovery => cases h
    | attach | detach | cascade | advance =>
      cases h
      exact .transaction (by simp)
  | select agentId logPath | decide stat timestamp =>
    simp only [raceStep] at h
    split at h
    · split at h <;> cases h <;> exact .read _ _
    · cases h
  | commit =>
    simp only [raceStep] at h
    split at h
    · rename_i w hwriting
      obtain ⟨tables, happly, rfl⟩ := map_eq_some_iff.mp h
      exact .committed hwriting happly
    · cases h
  | abandon =>
    cases h
    exact .read _ _

def raceStart : RaceState := ⟨LogTables.empty, .idle⟩

/-! ## What a committed write does to the rows -/

/-- A row goes from a status in `P` to one that is not `superseded`. -/
structure Moves (P : AttachmentStatus → Prop) (r r' : LogAttachmentRecord) : Prop where
  attachmentId : r'.attachmentId = r.attachmentId
  agentId : r'.agentId = r.agentId
  before : P r.status
  after : r'.status ≠ .superseded
  supersededBy : ∀ id, r'.supersededBy = some id → r.supersededBy = some id

def StatusChange (P : AttachmentStatus → Prop) (t t' : LogAttachments) : Prop :=
  ∃ f : LogAttachmentRecord → LogAttachmentRecord, t'.rows = t.rows.map f ∧
    ∀ r ∈ t.rows, f r = r ∨ Moves P r (f r)

namespace StatusChange

variable {P : AttachmentStatus → Prop} {t t' : LogAttachments}

theorem refl (P : AttachmentStatus → Prop) (t : LogAttachments) : StatusChange P t t :=
  ⟨id, (map_id _).symm, fun _ _ => .inl rfl⟩

theorem updateStatus {attachmentId lastStatusAt : String} {newStatus : AttachmentStatus}
    {supersededAt : Option String}
    (h : updateStatus t attachmentId newStatus lastStatusAt supersededAt none = some t')
    (hbefore : ∀ r ∈ t.rows, r.attachmentId = attachmentId → P r.status)
    (hafter : newStatus ≠ .superseded) : StatusChange P t t' := by
  refine ⟨_, rows_rewrite h, fun r hr => ?_⟩
  unfold Table.rewritten
  split
  · rename_i hid
    rw [decide_eq_true_eq] at hid
    exact .inr ⟨rfl, rfl, hbefore r hr hid, hafter, fun _ hby => by cases hby⟩
  · exact .inl rfl

theorem cascade {paneKeys : List PaneKey} {now : String}
    (h : LogAttachments.cascadeToStaleForPanes t paneKeys now = some t') :
    StatusChange (· = .active) t t' := by
  refine ⟨_, LogAttachments.rows_cascadeToStaleForPanes h, fun r _ => ?_⟩
  split
  · rename_i hboth
    exact .inr ⟨rfl, rfl, hboth.2, by simp [setStale], fun _ hby => hby⟩
  · exact .inl rfl

theorem mem (h : StatusChange P t t') {r : LogAttachmentRecord} (hr : r ∈ t.rows)
    (hstatus : ¬P r.status) : r ∈ t'.rows := by
  obtain ⟨f, hrows, hf⟩ := h
  rw [hrows]
  refine mem_map.mpr ⟨r, hr, ?_⟩
  rcases hf r hr with hsame | hmoves
  · exact hsame
  · exact absurd hmoves.before hstatus

end StatusChange

variable {o : Outside} {P : AttachmentStatus → Prop} {t' : LogAttachments}
  {existing : LogAttachmentRecord} {w : RecoveryWrite}

/-- The writers other than `attach_log` move active rows only. -/
theorem statusChange_detach {detached : Detached} (h : detachLogLocked t agentId o = .ok detached) :
    StatusChange (· = .active) t.attachments detached.attachments := by
  obtain ⟨existing, hmem, hactive, -, hstatus⟩ := detach_eq_ok h
  refine StatusChange.updateStatus hstatus (fun r hr hid => ?_) (by decide)
  rw [inj_on_of_nodup_map t.attachments.primary hr hmem hid]
  exact hactive

/-! ## The invariant -/

def AtMostOneOpen (t : LogAttachments) : Prop :=
  ∀ r ∈ t.rows, ∀ r' ∈ t.rows, r.agentId = r'.agentId → r.status ≠ .superseded →
    r'.status ≠ .superseded → r = r'

/-- A superseded row has both of its columns, and `superseded_by` is a row of the same agent. -/
def SupersededNamed (t : LogAttachments) : Prop :=
  ∀ r ∈ t.rows, (r.status = .superseded → r.supersededAt.isSome = true ∧ r.supersededBy.isSome = true) ∧
    ∀ id, r.supersededBy = some id → ∃ r' ∈ t.rows, r'.attachmentId = id ∧ r'.agentId = r.agentId

structure AttachmentsInv (t : LogTables) : Prop where
  paths : PathsInv t
  one : AtMostOneOpen t.attachments
  named : SupersededNamed t.attachments

theorem AtMostOneOpen.statusChange {t : LogAttachments}
    (h : AtMostOneOpen t) (hchange : StatusChange P t t') (hP : ¬P .superseded) :
    AtMostOneOpen t' := by
  obtain ⟨f, hrows, hf⟩ := hchange
  -- a row that is open now was open before, and its agent is the same
  have hback : ∀ r ∈ t.rows, (f r).agentId = r.agentId ∧
      ((f r).status ≠ .superseded → r.status ≠ .superseded) := by
    intro r hr
    rcases hf r hr with hsame | hmoves
    · rw [hsame]
      exact ⟨rfl, id⟩
    · exact ⟨hmoves.agentId, fun _ hstatus => hP (hstatus ▸ hmoves.before)⟩
  unfold AtMostOneOpen
  rw [hrows]
  intro r₁ hr₁ r₂ hr₂ hagent hopen₁ hopen₂
  obtain ⟨r, hr, rfl⟩ := mem_map.mp hr₁
  obtain ⟨r', hr', rfl⟩ := mem_map.mp hr₂
  obtain ⟨hagent₁, hstatus₁⟩ := hback r hr
  obtain ⟨hagent₂, hstatus₂⟩ := hback r' hr'
  have heq := h r hr r' hr' (hagent₁.symm.trans (hagent.trans hagent₂)) (hstatus₁ hopen₁)
    (hstatus₂ hopen₂)
  rw [heq]

theorem SupersededNamed.statusChange {t : LogAttachments}
    (h : SupersededNamed t) (hchange : StatusChange P t t') : SupersededNamed t' := by
  obtain ⟨f, hrows, hf⟩ := hchange
  have hkeep : ∀ r ∈ t.rows, (f r).attachmentId = r.attachmentId ∧ (f r).agentId = r.agentId ∧
      ∀ id, (f r).supersededBy = some id → r.supersededBy = some id := by
    intro r hr
    rcases hf r hr with hsame | hmoves
    · rw [hsame]
      exact ⟨rfl, rfl, fun _ hby => hby⟩
    · exact ⟨hmoves.attachmentId, hmoves.agentId, hmoves.supersededBy⟩
  unfold SupersededNamed
  rw [hrows]
  intro r₁ hr₁
  obtain ⟨r, hr, rfl⟩ := mem_map.mp hr₁
  refine ⟨fun hsuperseded => ?_, fun id hby => ?_⟩
  · rcases hf r hr with hsame | hmoves
    · rw [hsame] at hsuperseded ⊢
      exact (h r hr).1 hsuperseded
    · exact absurd hsuperseded hmoves.after
  · obtain ⟨-, hagent, hback⟩ := hkeep r hr
    obtain ⟨r', hr', hid, hagent'⟩ := (h r hr).2 id (hback id hby)
    obtain ⟨hid₂, hagent₂, -⟩ := hkeep r' hr'
    exact ⟨f r', mem_map.mpr ⟨r', hr', rfl⟩, hid₂.trans hid,
      hagent₂.trans (hagent'.trans hagent.symm)⟩

/-! ## Attaching -/

/-- What `attach_log` counts on when it looks for the row to supersede: the row that is not superseded
is the most recent one. -/
def FindsOpenRow (t : LogAttachments) (agentId : String) : Prop :=
  ∀ r ∈ t.rows, r.agentId = agentId → r.status ≠ .superseded →
    LogAttachments.selectMostRecentForAgent t agentId = some r

instance (t : LogAttachments) (agentId : String) : Decidable (FindsOpenRow t agentId) :=
  inferInstanceAs (Decidable (∀ r ∈ t.rows, _))

theorem supersedeTarget_of_resumed (hfinds : FindsOpenRow t.attachments agentId)
    (hexisting : selectForAgentPath t.attachments agentId hostPath = some existing)
    (hopen : existing.status ≠ .superseded) : supersedeTarget t agentId hostPath = none := by
  obtain ⟨hmem, hagent, hlog⟩ := LogAttachments.selectForAgentPath_eq_some hexisting
  unfold supersedeTarget
  rw [hfinds existing hmem hagent hopen]
  simp [hlog]

theorem statusChange_resumed (hfinds : FindsOpenRow t.attachments agentId)
    (hexisting : selectForAgentPath t.attachments agentId hostPath = some existing)
    (hopen : existing.status ≠ .superseded) {attachments' : LogAttachments}
    (hsupersede : supersede t.attachments (supersedeTarget t agentId hostPath) newId now
      = .ok attachments)
    (hstatus : updateStatus attachments existing.attachmentId .active now none none
      = some attachments') :
    StatusChange (· ≠ .superseded) t.attachments attachments' := by
  rw [supersedeTarget_of_resumed hfinds hexisting hopen] at hsupersede
  cases hsupersede
  have hmem := (LogAttachments.selectForAgentPath_eq_some hexisting).1
  refine StatusChange.updateStatus hstatus (fun r hr hid => ?_) (by decide)
  rw [inj_on_of_nodup_map t.attachments.primary hr hmem hid]
  exact hopen

/-- What superseding leaves: a row is as it was, or it was open and is now superseded by `newId`. -/
theorem rows_supersede
    (h : supersede t.attachments (supersedeTarget t agentId hostPath) newId now = .ok attachments)
    (hr : r ∈ attachments.rows) :
    (r ∈ t.attachments.rows ∧ ∀ x, supersedeTarget t agentId hostPath = some x →
        r.attachmentId ≠ x.attachmentId) ∨
      (r.agentId = agentId ∧ r.status = .superseded ∧ r.supersededAt = some now ∧
        r.supersededBy = some newId) := by
  cases htarget : supersedeTarget t agentId hostPath with
  | none =>
    rw [htarget] at h
    cases h
    exact .inl ⟨hr, fun x hx => by cases hx⟩
  | some x =>
    rw [htarget] at h
    have hx := (mem_filter.mp (mem_of_firstBy (filter_eq_some_iff.mp htarget).1))
    rw [decide_eq_true_eq] at hx
    rw [rows_rewrite (execute_eq_ok h)] at hr
    obtain ⟨r₀, hr₀, rfl⟩ := mem_map.mp hr
    unfold Table.rewritten
    split
    · -- the row with the target's id is the target
      rename_i hid
      rw [decide_eq_true_eq] at hid
      rw [inj_on_of_nodup_map t.attachments.primary hr₀ hx.1 hid]
      exact .inr ⟨hx.2, rfl, rfl, rfl⟩
    · rename_i hid
      rw [decide_eq_true_eq] at hid
      refine .inl ⟨hr₀, fun y hy => ?_⟩
      cases hy
      exact hid

theorem mem_supersede
    (h : supersede t.attachments (supersedeTarget t agentId hostPath) newId now = .ok attachments)
    (hr : r ∈ t.attachments.rows) :
    (∃ r' ∈ attachments.rows, r'.attachmentId = r.attachmentId ∧ r'.agentId = r.agentId) ∧
      (r.status = .superseded → r ∈ attachments.rows) := by
  cases htarget : supersedeTarget t agentId hostPath with
  | none =>
    rw [htarget] at h
    cases h
    exact ⟨⟨r, hr, rfl, rfl⟩, fun _ => hr⟩
  | some x =>
    rw [htarget] at h
    obtain ⟨hrecent, hopen⟩ := filter_eq_some_iff.mp htarget
    have hx := (mem_filter.mp (mem_of_firstBy hrecent)).1
    rw [decide_eq_true_eq] at hopen
    rw [rows_rewrite (execute_eq_ok h)]
    refine ⟨⟨_, mem_map.mpr ⟨r, hr, rfl⟩, key_rewritten _ _ r, ?_⟩, fun hstatus => ?_⟩
    · unfold Table.rewritten
      split <;> rfl
    · refine mem_map.mpr ⟨r, hr, ?_⟩
      unfold Table.rewritten
      refine if_neg fun hid => ?_
      rw [decide_eq_true_eq] at hid
      rw [inj_on_of_nodup_map t.attachments.primary hr hx hid] at hstatus
      exact hopen.1 hstatus

theorem closed_of_supersede (hfinds : FindsOpenRow t.attachments agentId)
    (hfresh : ∀ r ∈ t.attachments.rows, ¬(r.agentId = agentId ∧ r.logPath = hostPath))
    (h : supersede t.attachments (supersedeTarget t agentId hostPath) newId now = .ok attachments)
    (hr : r ∈ attachments.rows) (hagent : r.agentId = agentId) :
    r.status = .superseded := by
  rcases rows_supersede h hr with ⟨hold, hother⟩ | ⟨-, hstatus, -⟩
  · -- an open row would be the most recent one, for another path: the target
    by_contra hopen
    refine hother r ?_ rfl
    unfold supersedeTarget
    rw [hfinds r hold hagent hopen]
    have hlog : r.logPath ≠ hostPath := fun hlog => hfresh r hold ⟨hagent, hlog⟩
    simp [hopen, hlog]
  · exact hstatus

section Inserted

variable {t : LogTables} {c : AttachCall} {attachmentId now : String}
  {priorPipeTarget : Option String} {attachments attachments' : LogAttachments}
  (hsupersede : supersede t.attachments (supersedeTarget t c.agent.agentId c.hostPath) attachmentId now
    = .ok attachments)
  (hrow : attachments.insert (newRecord c attachmentId now priorPipeTarget) = some attachments')

include hsupersede hrow

theorem AtMostOneOpen.inserted (h : AtMostOneOpen t.attachments)
    (hfinds : FindsOpenRow t.attachments c.agent.agentId)
    (hfresh : ∀ r ∈ t.attachments.rows, ¬(r.agentId = c.agent.agentId ∧ r.logPath = c.hostPath)) :
    AtMostOneOpen attachments' := by
  have hclosed : ∀ r ∈ attachments.rows, r.agentId = c.agent.agentId → r.status = .superseded :=
    fun r hr => closed_of_supersede hfinds hfresh hsupersede hr
  unfold AtMostOneOpen
  rw [(insert_eq_some hrow).2]
  intro r hr r' hr' hagent hopen hopen'
  -- two old rows, or a row of the agent beside the new one, which is closed, or the new row twice
  rcases mem_append.mp hr with hr | hr
  · rcases mem_append.mp hr' with hr' | hr'
    · rcases rows_supersede hsupersede hr with ⟨hold, -⟩ | ⟨-, hstatus, -⟩
      · rcases rows_supersede hsupersede hr' with ⟨hold', -⟩ | ⟨-, hstatus', -⟩
        · exact h r hold r' hold' hagent hopen hopen'
        · exact absurd hstatus' hopen'
      · exact absurd hstatus hopen
    · rw [mem_singleton.mp hr'] at hagent
      exact absurd (hclosed r hr hagent) hopen
  · rcases mem_append.mp hr' with hr' | hr'
    · rw [mem_singleton.mp hr] at hagent
      exact absurd (hclosed r' hr' hagent.symm) hopen'
    · rw [mem_singleton.mp hr, mem_singleton.mp hr']

theorem SupersededNamed.inserted (h : SupersededNamed t.attachments) :
    SupersededNamed attachments' := by
  unfold SupersededNamed
  rw [(insert_eq_some hrow).2]
  intro r hr
  rcases mem_append.mp hr with hr | hr
  · rcases rows_supersede hsupersede hr with ⟨hold, -⟩ | ⟨hagent, hstatus, hat, hby⟩
    · refine ⟨(h r hold).1, fun id hid => ?_⟩
      obtain ⟨r', hr', hid', hagent'⟩ := (h r hold).2 id hid
      obtain ⟨⟨r₂, hr₂, hid₂, hagent₂⟩, -⟩ := mem_supersede hsupersede hr'
      exact ⟨r₂, mem_append_left _ hr₂, hid₂.trans hid', hagent₂.trans hagent'⟩
    · -- the successor is the row that is inserted last
      rw [hat, hby]
      refine ⟨fun _ => ⟨rfl, rfl⟩, fun id hid => ?_⟩
      cases hid
      exact ⟨_, mem_append_right _ (mem_singleton_self _), rfl, hagent.symm⟩
  · rw [mem_singleton.mp hr]
    refine ⟨fun hstatus => ?_, fun id hid => ?_⟩
    · cases hstatus
    · cases hid

end Inserted

/-! ## One step -/

/-- The two things that keep the rows in order.  A recovery that is about to make a row stale finds it
active still, and an attach finds the agent's open row as its most recent one. -/
def RaceAllowed (s : RaceState) : RaceLabel → Bool
  | .transaction (.attach c _) => decide (FindsOpenRow s.tables.attachments c.agent.agentId)
  | .commit =>
    match s.reader with
    | .writing (.stale attachmentId _) =>
      (s.tables.attachments.get attachmentId).any LogAttachmentRecord.active
    | _ => true
  | _ => true

inductive RowsEffect (t : LogTables) : LogTables → Prop
  | moved {t' : LogTables} (h : StatusChange (· ≠ .superseded) t.attachments t'.attachments) :
      RowsEffect t t'
  | added {c : AttachCall} {attachmentId now : String} {priorPipeTarget : Option String}
      {attachments : LogAttachments} {t' : LogTables}
      (hfinds : FindsOpenRow t.attachments c.agent.agentId)
      (hfresh : t.offsets.get (c.agent.agentId, c.hostPath) = none)
      (hsupersede : supersede t.attachments (supersedeTarget t c.agent.agentId c.hostPath)
        attachmentId now = .ok attachments)
      (hrow : attachments.insert (newRecord c attachmentId now priorPipeTarget)
        = some t'.attachments) : RowsEffect t t'

theorem rowsEffect_attach {c : AttachCall} {attached : Attached}
    (hfinds : FindsOpenRow t.attachments c.agent.agentId)
    (h : attachLogLocked t c o = .ok attached) : RowsEffect t attached.tables := by
  cases attach_effect h with
  | active => exact .moved (.refl _ _)
  | resumed hexisting hprior hsupersede hstatus hoffsets =>
    refine .moved (statusChange_resumed hfinds hexisting ?_ hsupersede hstatus)
    rcases hprior with hprior | hprior <;> rw [hprior] <;> decide
  | inserted hsupersede hrow hoffsets =>
    exact .added hfinds (insert_eq_some hoffsets).1 hsupersede hrow

theorem statusChange_apply {op : LogOp} (hattach : ∀ c o, op ≠ .attach c o)
    (hrecovery : ∀ agentId logPath stat timestamp, op ≠ .recovery agentId logPath stat timestamp) :
    StatusChange (· = .active) t.attachments (op.apply t).attachments := by
  cases op with
  | attach c o => exact absurd rfl (hattach c o)
  | detach agentId o =>
    simp only [LogOp.apply]
    split
    · rename_i hdetach
      exact statusChange_detach hdetach
    · exact .refl _ _
  | cascade paneKeys now =>
    simp only [LogOp.apply]
    split
    · rename_i hcascade
      exact .cascade hcascade
    · exact .refl _ _
  | recovery agentId logPath stat timestamp => exact absurd rfl (hrecovery _ _ _ _)
  | advance agentId logPath a =>
    simp only [LogOp.apply]
    split <;> exact .refl _ _

theorem statusChange_commit {t' : LogTables}
    (hactive : ∀ attachmentId timestamp, w = .stale attachmentId timestamp →
      (t.attachments.get attachmentId).any LogAttachmentRecord.active = true)
    (h : w.apply t = some t') : StatusChange (· = .active) t.attachments t'.attachments := by
  cases w with
  | stale attachmentId timestamp =>
    obtain ⟨attachments, hstatus, rfl⟩ := map_eq_some_iff.mp h
    obtain ⟨r₀, hget, hr₀⟩ := (any_eq_true _ _).mp (hactive _ _ rfl)
    refine StatusChange.updateStatus hstatus (fun r hr hid => ?_) (by decide)
    rw [← hid, Table.get_of_mem hr] at hget
    rw [Option.some.inj hget]
    exact LogAttachmentRecord.active_iff.mp hr₀
  | reset agentId logPath fileInode fileSizeSeen timestamp =>
    obtain ⟨offsets, -, rfl⟩ := map_eq_some_iff.mp h
    exact .refl _ _

theorem raceStep_rows (hok : RaceAllowed s l = true) (h : raceStep s l = some s') :
    StatusChange (· = .active) s.tables.attachments s'.tables.attachments ∨
      ((∃ c o, l = .transaction (.attach c o)) ∧ RowsEffect s.tables s'.tables) := by
  cases raceStep_effect h with
  | @transaction op hop =>
    by_cases hattach : ∃ c o, op = .attach c o
    · obtain ⟨c, o, rfl⟩ := hattach
      refine .inr ⟨⟨c, o, rfl⟩, ?_⟩
      have hfinds := of_decide_eq_true hok
      simp only [LogOp.apply]
      split
      · rename_i hattached
        exact rowsEffect_attach hfinds hattached
      · -- an attach that fails leaves the rows as they are
        exact .moved (.refl _ _)
    · exact .inl (statusChange_apply (fun c o heq => hattach ⟨c, o, heq⟩) hop)
  | read => exact .inl (.refl _ _)
  | @committed w tables hwriting happly =>
    refine .inl (statusChange_commit (fun attachmentId timestamp hw => ?_) happly)
    simpa only [RaceAllowed, hwriting, hw] using hok

theorem samePaths_commit {t' : LogTables} (h : w.apply t = some t') : SamePaths t t' := by
  cases w with
  | stale attachmentId timestamp =>
    obtain ⟨attachments, hstatus, rfl⟩ := map_eq_some_iff.mp h
    exact samePaths_updateStatus hstatus
  | reset agentId logPath fileInode fileSizeSeen timestamp =>
    obtain ⟨offsets, hreset, rfl⟩ := map_eq_some_iff.mp h
    exact samePaths_offsets hreset

theorem PathsInv.raceStep (hinv : PathsInv s.tables)
    (h : raceStep s l = some s') : PathsInv s'.tables := by
  cases raceStep_effect h with
  | @transaction op _ => exact hinv.apply op
  | read => exact hinv
  | committed _ happly => exact hinv.same (samePaths_commit happly)

theorem PathsInv.fresh (h : PathsInv t) {logPath : String}
    (hnone : t.offsets.get (agentId, logPath) = none) :
    ∀ r ∈ t.attachments.rows, ¬(r.agentId = agentId ∧ r.logPath = logPath) := by
  rintro r hr ⟨rfl, rfl⟩
  have hsome := (h.offsets (r.agentId, r.logPath)).mpr (mem_map.mpr ⟨r, hr, rfl⟩)
  rw [hnone] at hsome
  cases hsome

theorem AttachmentsInv.raceStep (hinv : AttachmentsInv s.tables)
    (hok : RaceAllowed s l = true) (h : raceStep s l = some s') : AttachmentsInv s'.tables := by
  have hpaths := hinv.paths.raceStep h
  rcases raceStep_rows hok h with hmoved | ⟨-, heffect⟩
  · exact ⟨hpaths, hinv.one.statusChange hmoved (by simp), hinv.named.statusChange hmoved⟩
  · cases heffect with
    | moved hmoved =>
      exact ⟨hpaths, hinv.one.statusChange hmoved (by simp), hinv.named.statusChange hmoved⟩
    | added hfinds hfresh hsupersede hrow =>
      exact ⟨hpaths, hinv.one.inserted hsupersede hrow hfinds (hinv.paths.fresh hfresh),
        hinv.named.inserted hsupersede hrow⟩

theorem superseded_kept (hok : RaceAllowed s l = true)
    (h : raceStep s l = some s') (hr : r ∈ s.tables.attachments.rows)
    (hstatus : r.status = .superseded) : r ∈ s'.tables.attachments.rows := by
  rcases raceStep_rows hok h with hmoved | ⟨-, heffect⟩
  · exact hmoved.mem hr (by rw [hstatus]; decide)
  · cases heffect with
    | moved hmoved => exact hmoved.mem hr (not_not.mpr hstatus)
    | added hfinds hfresh hsupersede hrow =>
      rw [(insert_eq_some hrow).2]
      exact mem_append_left _ ((mem_supersede hsupersede hr).2 hstatus)

/-! ## The result -/

abbrev RaceReach := Reach raceStep fun s l => RaceAllowed s l = true

theorem AttachmentsInv.of_reach (h : RaceReach raceStart s) : AttachmentsInv s.tables := by
  refine h.invariant (fun s => AttachmentsInv s.tables) ?_ fun _ _ _ hinv hok hstep =>
    hinv.raceStep hok hstep
  exact ⟨.empty, fun r hr => (by cases hr), fun r hr => (by cases hr)⟩

/-- As long as recovery finds its row active and attach its open row as the most recent one, an agent
has at most one row that is not superseded; a superseded row stays as it is for good, with both of its
columns set and `superseded_by` a row of the agent; and a detached row stays as it is until an
attach. -/
theorem attachments_stay_ordered {s : RaceState} (h : RaceReach raceStart s) :
    (∀ r ∈ s.tables.attachments.rows, ∀ r' ∈ s.tables.attachments.rows, r.agentId = r'.agentId →
      r.status ≠ .superseded → r'.status ≠ .superseded → r = r') ∧
    (∀ r ∈ s.tables.attachments.rows, r.status = .superseded →
      (r.supersededAt.isSome = true ∧ r.supersededBy.isSome = true) ∧
      ∀ s', RaceReach s s' → r ∈ s'.tables.attachments.rows) ∧
    (∀ r ∈ s.tables.attachments.rows, ∀ id, r.supersededBy = some id →
      ∃ r' ∈ s.tables.attachments.rows, r'.attachmentId = id ∧ r'.agentId = r.agentId) ∧
    (∀ r ∈ s.tables.attachments.rows, r.status = .detached →
      ∀ l s', RaceAllowed s l = true → raceStep s l = some s' →
        (∀ c o, l ≠ .transaction (.attach c o)) → r ∈ s'.tables.attachments.rows) := by
  have hinv := AttachmentsInv.of_reach h
  refine ⟨hinv.one, fun r hr hstatus => ⟨(hinv.named r hr).1 hstatus, fun s' hreach => ?_⟩,
    fun r hr => (hinv.named r hr).2, fun r hr hstatus l s' hok hstep hattach => ?_⟩
  · exact hreach.invariant (fun s => r ∈ s.tables.attachments.rows) hr fun _ _ _ hmem hok hstep =>
      superseded_kept hok hstep hmem hstatus
  · rcases raceStep_rows hok hstep with hmoved | ⟨⟨c, o, hl⟩, -⟩
    · exact hmoved.mem hr (by rw [hstatus]; decide)
    · exact absurd hl (hattach c o)

/-- The file of the first path is lost, the agent moves to a second path and detaches. -/
def orderedLabels : List RaceLabel :=
  [.transaction (.attach (sampleCall "/logs/a") (sampleOutside "lat_1" "t1")),
    .select "agt_00000000000a" "/logs/a", .decide none "t2", .commit,
    .transaction (.attach (sampleCall "/logs/b") (sampleOutside "lat_2" "t3")),
    .transaction (.detach "agt_00000000000a" (sampleOutside "lat_3" "t4"))]

/-- A run that meets the condition, with a superseded row and a detached one. -/
theorem attachments_stay_ordered_twoPaths :
    ∃ s, RaceReach raceStart s ∧
      s.tables.attachments.rows.map (fun r => (r.attachmentId, r.status, r.supersededBy))
        = [("lat_1", .superseded, some "lat_2"), ("lat_2", .detached, none)] ∧
      ∀ s', RaceReach s s' → ∃ r ∈ s'.tables.attachments.rows, r.attachmentId = "lat_1" ∧
        r.status = .superseded := by
  obtain ⟨s, hrun, hrows, r, hr, hrow⟩ :
      ∃ s, runWhile raceStep RaceAllowed raceStart orderedLabels = some s ∧
      s.tables.attachments.rows.map (fun r => (r.attachmentId, r.status, r.supersededBy))
        = [("lat_1", .superseded, some "lat_2"), ("lat_2", .detached, none)] ∧
      ∃ r ∈ s.tables.attachments.rows, r.attachmentId = "lat_1" ∧ r.status = .superseded := by
    decide +kernel
  have hreach : RaceReach raceStart s := reach_of_runWhile .start hrun
  refine ⟨s, hreach, hrows, fun s' hs' => ?_⟩
  have hkept := (attachments_stay_ordered hreach).2.1 r hr hrow.2
  exact ⟨r, hkept.2 s' hs', hrow⟩

/-- The reader has seen the file of `lat_1` missing when the agent moves to another path. -/
def revivedLabels : List RaceLabel :=
  [.transaction (.attach (sampleCall "/logs/a") (sampleOutside "lat_1" "t1")),
    .select "agt_00000000000a" "/logs/a", .decide none "t2",
    .transaction (.attach (sampleCall "/logs/b") (sampleOutside "lat_2" "t3")), .commit]

/-- The write by id takes a superseded row back to stale and clears both of its columns; the agent then
has two open rows.  The next attach of the first path resumes `lat_1` and names as the successor of
`lat_2` a row that is never made.  A row that is detached in the same window becomes stale with no
attach. -/
theorem recovery_revives_superseded :
    ((run raceStep raceStart (revivedLabels.take 4)).map fun s =>
      s.tables.attachments.rows.map fun r => (r.attachmentId, r.status, r.supersededBy))
        = some [("lat_1", .superseded, some "lat_2"), ("lat_2", .active, none)] ∧
    ((run raceStep raceStart revivedLabels).map fun s =>
      s.tables.attachments.rows.map fun r => (r.attachmentId, r.status, r.supersededBy))
        = some [("lat_1", .stale, none), ("lat_2", .active, none)] ∧
    ((run raceStep raceStart (revivedLabels ++
        [.transaction (.attach (sampleCall "/logs/a") (sampleOutside "lat_3" "t4"))])).map fun s =>
      s.tables.attachments.rows.map fun r => (r.attachmentId, r.status, r.supersededBy))
        = some [("lat_1", .active, none), ("lat_2", .superseded, some "lat_3")] ∧
    ((run raceStep raceStart (revivedLabels.take 3 ++
        [.transaction (.detach "agt_00000000000a" (sampleOutside "lat_2" "t3"))])).map fun s =>
      s.tables.attachments.rows.map fun r => (r.attachmentId, r.status))
        = some [("lat_1", .detached)] ∧
    ((run raceStep raceStart (revivedLabels.take 3 ++
        [.transaction (.detach "agt_00000000000a" (sampleOutside "lat_2" "t3")), .commit])).map fun s =>
      s.tables.attachments.rows.map fun r => (r.attachmentId, r.status))
        = some [("lat_1", .stale)] := by decide +kernel

/-- The races too leave an agent and a path one attachment row, and the offsets row beside it. -/
theorem offsets_beside_attachments {s : RaceState} (h : Reach raceStep anyStep raceStart s) :
    s.tables.paths.Nodup ∧ ∀ k, (s.tables.offsets.get k).isSome = true ↔ k ∈ s.tables.paths := by
  have hinv := h.invariant (fun s => PathsInv s.tables) .empty fun _ _ _ h _ hstep => h.raceStep hstep
  exact ⟨hinv.nodup, hinv.offsets⟩

theorem offsets_beside_attachments_revived :
    ∃ s, run raceStep raceStart revivedLabels = some s ∧ s.tables.paths.Nodup := by
  obtain ⟨s, hs, -⟩ : ∃ s, run raceStep raceStart revivedLabels = some s ∧ True := by decide +kernel
  exact ⟨s, hs, (offsets_beside_attachments (reach_of_run hs)).1⟩

end AgentTower.Logs
