import AgentTower.Routing.Registry

/-!
# The log tables

`log_attachments` and `log_offsets` with their helpers, which run inside the transaction of the caller;
`none` is a statement that the table refuses.  Timestamps are compared as texts.
-/

namespace AgentTower.Logs

open Sql List Table
open Routing (PaneKey)

/-! ## Attachments -/

inductive AttachmentStatus where
  | active | superseded | stale | detached
  deriving DecidableEq, Repr

inductive AttachmentSource where
  | explicit | registerSelf
  deriving DecidableEq, Repr

structure LogAttachmentRecord where
  attachmentId : String
  agentId : String
  key : PaneKey
  logPath : String
  status : AttachmentStatus
  source : AttachmentSource
  pipePaneCommand : String
  priorPipeTarget : Option String
  attachedAt : String
  lastStatusAt : String
  supersededAt : Option String
  supersededBy : Option String
  createdAt : String
  deriving DecidableEq, Repr

namespace LogAttachmentRecord

def active (r : LogAttachmentRecord) : Bool := decide (r.status = .active)

/-- The index `log_attachments_active_log_path`. -/
def activeLogPath (r : LogAttachmentRecord) : Option String :=
  if r.active then some r.logPath else none

def ofAgentPath (agentId logPath : String) (r : LogAttachmentRecord) : Bool :=
  decide (r.agentId = agentId ∧ r.logPath = logPath)

variable {r : LogAttachmentRecord}

theorem ofAgentPath_iff {agentId logPath : String} :
    r.ofAgentPath agentId logPath = true ↔ r.agentId = agentId ∧ r.logPath = logPath :=
  decide_eq_true_iff

theorem active_iff : r.active = true ↔ r.status = .active :=
  decide_eq_true_iff

theorem activeLogPath_eq_some {p : String} :
    r.activeLogPath = some p ↔ r.status = .active ∧ r.logPath = p := by
  unfold activeLogPath
  by_cases h : r.status = .active <;> simp [active, h]

end LogAttachmentRecord

open LogAttachmentRecord (active activeLogPath activeLogPath_eq_some active_iff attachmentId ofAgentPath_iff)

abbrev LogAttachments :=
  Table attachmentId activeLogPath Table.noCheck

namespace LogAttachments

/-- `SET status = ?, last_status_at = ?, superseded_at = ?, superseded_by = ?`. -/
def setStatus (newStatus : AttachmentStatus) (lastStatusAt : String)
    (supersededAt supersededBy : Option String) : Rewrite attachmentId where
  set r :=
    { r with
      status := newStatus
      lastStatusAt
      supersededAt
      supersededBy }
  key_set _ := rfl

/-- The last two arguments are `None` by default, which clears both columns. -/
def updateStatus (t : LogAttachments) (attachmentId : String) (newStatus : AttachmentStatus)
    (lastStatusAt : String) (supersededAt supersededBy : Option String) : Option LogAttachments :=
  t.rewrite (fun r => decide (r.attachmentId = attachmentId))
    (setStatus newStatus lastStatusAt supersededAt supersededBy)

def selectActiveForAgentPath (t : LogAttachments) (agentId logPath : String) :
    Option LogAttachmentRecord :=
  t.rows.find? fun r => r.ofAgentPath agentId logPath && r.active

/-- The first row that no other row comes before: `ORDER BY … LIMIT 1`. -/
def firstBy (before : LogAttachmentRecord → LogAttachmentRecord → Bool)
    (rows : List LogAttachmentRecord) : Option LogAttachmentRecord :=
  rows.foldl
    (fun best r =>
      match best with
      | none => some r
      | some b => if before r b then some r else some b)
    none

def selectForAgentPath (t : LogAttachments) (agentId logPath : String) :
    Option LogAttachmentRecord :=
  firstBy (fun a b => decide (b.lastStatusAt < a.lastStatusAt))
    (t.rows.filter fun r => r.ofAgentPath agentId logPath)

def selectActiveByLogPath (t : LogAttachments) (logPath : String) : Option LogAttachmentRecord :=
  t.rows.find? fun r => decide (r.logPath = logPath) && r.active

def selectActiveForAgent (t : LogAttachments) (agentId : String) : Option LogAttachmentRecord :=
  firstBy (fun a b => decide (b.lastStatusAt < a.lastStatusAt))
    (t.rows.filter fun r => decide (r.agentId = agentId) && r.active)

/-- `ORDER BY last_status_at DESC, created_at DESC, attachment_id DESC`. -/
def moreRecent (a b : LogAttachmentRecord) : Bool :=
  decide (b.lastStatusAt < a.lastStatusAt) || (decide (a.lastStatusAt = b.lastStatusAt) &&
      (decide (b.createdAt < a.createdAt) ||
        (decide (a.createdAt = b.createdAt) && decide (b.attachmentId < a.attachmentId))))

def selectMostRecentForAgent (t : LogAttachments) (agentId : String) :
    Option LogAttachmentRecord :=
  firstBy moreRecent (t.rows.filter fun r => decide (r.agentId = agentId))

def setStale (lastStatusAt : String) : Rewrite attachmentId where
  set r := { r with status := .stale, lastStatusAt }
  key_set _ := rfl

/-- One `UPDATE` for each active row that is bound to one of the panes. -/
def cascadeToStaleForPanes (t : LogAttachments) (paneKeys : List PaneKey) (now : String) :
    Option LogAttachments :=
  (paneKeys.flatMap fun key => t.rows.filter fun r => decide (r.key = key) && r.active).foldlM
    (fun t affected =>
      t.rewrite (fun r => decide (r.attachmentId = affected.attachmentId)) (setStale now)) t

/-- `_list_active_attachments` of the reader. -/
def listActiveAttachments (t : LogAttachments) : List LogAttachmentRecord :=
  (t.rows.filter active).filterMap fun r =>
    (selectForAgentPath t r.agentId r.logPath).filter active

variable {t : LogAttachments} {r : LogAttachmentRecord}

variable {t' : LogAttachments} {now agentId logPath : String}
  {before : LogAttachmentRecord → LogAttachmentRecord → Bool} {rows : List LogAttachmentRecord}

/-- What `UPDATE`s by id, one after the other, leave in the table. -/
theorem rows_foldlM_setStale
    {affected : List LogAttachmentRecord} (h : affected.foldlM (fun t (r : LogAttachmentRecord) =>
      t.rewrite (fun r' => decide (r'.attachmentId = r.attachmentId)) (setStale now)) t = some t') :
    t'.rows = t.rows.map fun r =>
      if r.attachmentId ∈ affected.map attachmentId then (setStale now).set r
      else r := by
  induction affected generalizing t with
  | nil =>
    cases h
    simp
  | cons a affected ih =>
    rw [foldlM_cons] at h
    obtain ⟨t₁, hfirst, hrest⟩ := Option.bind_eq_some_iff.mp h
    rw [ih hrest, rows_rewrite hfirst, map_map]
    refine map_congr_left fun r _ => ?_
    -- setting a row stale twice with one time is setting it once
    by_cases ha : r.attachmentId = a.attachmentId
    · by_cases hlater : a.attachmentId ∈ affected.map attachmentId
      · simp [Table.rewritten, setStale, ha, hlater]
      · simp [Table.rewritten, setStale, ha, hlater]
    · simp [Table.rewritten, ha]

theorem rows_cascadeToStaleForPanes {paneKeys : List PaneKey}
    (h : cascadeToStaleForPanes t paneKeys now = some t') :
    t'.rows = t.rows.map fun r =>
      if r.key ∈ paneKeys ∧ r.status = .active then (setStale now).set r else r := by
  unfold cascadeToStaleForPanes at h
  rw [rows_foldlM_setStale h]
  refine map_congr_left fun r hr => ?_
  have hiff : (r.attachmentId ∈ (paneKeys.flatMap fun key =>
      t.rows.filter fun r => decide (r.key = key) && r.active).map
        attachmentId) ↔ r.key ∈ paneKeys ∧ r.status = .active := by
    rw [mem_map]
    constructor
    · rintro ⟨a, ha, hid⟩
      obtain ⟨key, hkey, ha⟩ := mem_flatMap.mp ha
      obtain ⟨hmem, ha⟩ := mem_filter.mp ha
      rw [Bool.and_eq_true, decide_eq_true_eq, active_iff] at ha
      have hsame : a = r := inj_on_of_nodup_map t.primary hmem hr hid
      rw [← hsame, ha.1]
      exact ⟨hkey, ha.2⟩
    · rintro ⟨hkey, hactive⟩
      refine ⟨r, mem_flatMap.mpr ⟨r.key, hkey, mem_filter.mpr ⟨hr, ?_⟩⟩, rfl⟩
      rw [Bool.and_eq_true, decide_eq_true_eq, active_iff]
      exact ⟨rfl, hactive⟩
  by_cases hboth : r.key ∈ paneKeys ∧ r.status = .active
  · rw [if_pos hboth, if_pos (hiff.mpr hboth)]
  · rw [if_neg hboth, if_neg (mt hiff.mp hboth)]

theorem updateStatus_succeeds (t : LogAttachments) (attachmentId : String)
    (newStatus : AttachmentStatus) (lastStatusAt : String)
    (supersededAt supersededBy : Option String) (h : newStatus ≠ .active) :
    ∃ t', updateStatus t attachmentId newStatus lastStatusAt supersededAt supersededBy
      = some t' := by
  refine rewrite_succeeds (fun _ _ _ => rfl) fun r _ _ u hu => ?_
  exact absurd (activeLogPath_eq_some.mp hu).1 h

theorem mem_of_firstBy (h : firstBy before rows = some r) : r ∈ rows := by
  revert r
  -- what the fold has found so far is one of the rows
  refine List.foldlRecOn (motive := fun best => ∀ {r}, best = some r → r ∈ rows) rows _
    (fun h => by cases h) ?_
  intro best hbest x hx r h
  cases best with
  | none =>
    cases h
    exact hx
  | some b =>
    simp only at h
    split at h
    · cases h
      exact hx
    · exact hbest h

theorem firstBy_isSome (h : r ∈ rows) : (firstBy before rows).isSome = true := by
  cases rows with
  | nil => cases h
  | cons x rows =>
    refine List.foldlRecOn (motive := fun best => Option.isSome best = true) rows _ rfl ?_
    intro best hbest y hy
    cases best with
    | none => rfl
    | some b =>
      simp only
      split
      · rfl
      · rfl

theorem selectForAgentPath_eq_some (h : selectForAgentPath t agentId logPath = some r) :
    r ∈ t.rows ∧ r.agentId = agentId ∧ r.logPath = logPath := by
  obtain ⟨hmem, hpath⟩ := mem_filter.mp (mem_of_firstBy h)
  exact ⟨hmem, ofAgentPath_iff.mp hpath⟩

theorem selectForAgentPath_eq_none
    (h : selectForAgentPath t agentId logPath = none) (hr : r ∈ t.rows) :
    ¬(r.agentId = agentId ∧ r.logPath = logPath) := by
  intro hpath
  have hmem : r ∈ t.rows.filter fun r => r.ofAgentPath agentId logPath :=
    mem_filter.mpr ⟨hr, ofAgentPath_iff.mpr hpath⟩
  have hsome : (selectForAgentPath t agentId logPath).isSome = true := firstBy_isSome hmem
  rw [h] at hsome
  cases hsome

theorem mem_listActiveAttachments
    (h : r ∈ listActiveAttachments t) : r ∈ t.rows ∧ r.status = .active := by
  obtain ⟨r₀, -, hselect⟩ := mem_filterMap.mp h
  obtain ⟨hfound, hactive⟩ := Option.filter_eq_some_iff.mp hselect
  exact ⟨(selectForAgentPath_eq_some hfound).1, active_iff.mp hactive⟩

theorem nodup_listActiveAttachments (t : LogAttachments) :
    ((listActiveAttachments t).map attachmentId).Nodup := by
  refine List.Nodup.map_on (fun x hx y hy hid => ?_) (pairwise_filterMap.mpr ?_)
  · exact inj_on_of_nodup_map t.primary (mem_listActiveAttachments hx).1
      (mem_listActiveAttachments hy).1 hid
  · refine ((pairwise_filterMap.mp t.unique).filter _).imp_of_mem ?_
    rintro a b ha hb hdistinct x hx _ hy rfl
    obtain ⟨-, -, hxa⟩ := selectForAgentPath_eq_some (Option.filter_eq_some_iff.mp hx).1
    obtain ⟨-, -, hxb⟩ := selectForAgentPath_eq_some (Option.filter_eq_some_iff.mp hy).1
    have hactive := active_iff.mp (mem_filter.mp ha).2
    have hactive' := active_iff.mp (mem_filter.mp hb).2
    exact hdistinct a.logPath (activeLogPath_eq_some.mpr ⟨hactive, rfl⟩)
      b.logPath (activeLogPath_eq_some.mpr ⟨hactive', rfl⟩)
      (hxa.symm.trans hxb)

end LogAttachments

/-! ## Offsets -/

/-- What `stat_log_file` sees; `inode` is `<dev>:<ino>`. -/
structure FileStat where
  inode : String
  size : Nat
  deriving DecidableEq, Repr

inductive FileChangeKind where
  | unchanged | truncated | recreated | missing
  deriving DecidableEq, Repr

/-- `detect_file_change`, and `_classify_from_stat` with the stat already taken. -/
def detectFileChange (stat : Option FileStat) (storedInode : Option String)
    (storedSizeSeen : Nat) : FileChangeKind :=
  match stat, storedInode with
  | none, _ => .missing
  -- nothing is stored of the file, so there is nothing to compare
  | some _, none => .unchanged
  | some st, some inode =>
    if st.inode ≠ inode then .recreated
    else if st.size < storedSizeSeen then .truncated
    else .unchanged

structure LogOffsetRecord where
  agentId : String
  logPath : String
  byteOffset : Nat
  lineOffset : Nat
  lastEventOffset : Nat
  lastOutputAt : Option String
  fileInode : Option String
  fileSizeSeen : Nat
  createdAt : String
  updatedAt : String
  deriving DecidableEq, Repr

def LogOffsetRecord.key (o : LogOffsetRecord) : String × String := (o.agentId, o.logPath)

abbrev LogOffsets := Table LogOffsetRecord.key Table.noIndex Table.noCheck

namespace LogOffsets

abbrev Patch := Sql.Patch LogOffsetRecord.key (Table.noIndex (ρ := LogOffsetRecord))

def initial (agentId logPath timestamp : String) : LogOffsetRecord where
  agentId := agentId
  logPath := logPath
  byteOffset := 0
  lineOffset := 0
  lastEventOffset := 0
  lastOutputAt := none
  fileInode := none
  fileSizeSeen := 0
  createdAt := timestamp
  updatedAt := timestamp

def insertInitial (t : LogOffsets) (agentId logPath timestamp : String) : Option LogOffsets :=
  t.insert (initial agentId logPath timestamp)

def ofAgentPath (agentId logPath : String) (o : LogOffsetRecord) : Bool :=
  decide (o.key = (agentId, logPath))

def setReset (fileInode : Option String) (fileSizeSeen : Nat) (timestamp : String) : Patch where
  set o :=
    { o with
      byteOffset := 0
      lineOffset := 0
      lastEventOffset := 0
      fileInode
      fileSizeSeen
      updatedAt := timestamp }
  key_set _ := rfl
  index_set _ := rfl

def reset (t : LogOffsets) (agentId logPath : String) (fileInode : Option String)
    (fileSizeSeen : Nat) (timestamp : String) : Option LogOffsets :=
  t.update (ofAgentPath agentId logPath) (setReset fileInode fileSizeSeen timestamp)

structure Advance where
  byteOffset : Nat
  lineOffset : Nat
  lastEventOffset : Nat
  fileInode : Option String
  fileSizeSeen : Nat
  lastOutputAt : Option String
  timestamp : String
  deriving DecidableEq, Repr

def setAdvance (a : Advance) : Patch where
  set o :=
    { o with
      byteOffset := a.byteOffset
      lineOffset := a.lineOffset
      lastEventOffset := a.lastEventOffset
      fileInode := a.fileInode
      fileSizeSeen := a.fileSizeSeen
      lastOutputAt := a.lastOutputAt
      updatedAt := a.timestamp }
  key_set _ := rfl
  index_set _ := rfl

/-- `_require_row_exists` raises for a key that has no row. -/
def advanceOffset (t : LogOffsets) (agentId logPath : String) (a : Advance) : Option LogOffsets :=
  match t.get (agentId, logPath) with
  | none => none
  | some _ => t.update (ofAgentPath agentId logPath) (setAdvance a)

variable {t t' : LogOffsets} {agentId logPath : String}

theorem get_update_row {p : Patch}
    (h : t.update (ofAgentPath agentId logPath) p = some t') (k : String × String) :
    t'.get k = if k = (agentId, logPath) then (t.get k).map p.set else t.get k := by
  rw [get_update h]
  cases hget : t.get k with
  | none => simp
  | some o =>
    have hkey := key_of_get hget
    by_cases hk : k = (agentId, logPath)
    · simp [Table.patched, ofAgentPath, hkey, hk]
    · simp [Table.patched, ofAgentPath, hkey, hk]

theorem get_advanceOffset {a : Advance}
    (h : advanceOffset t agentId logPath a = some t') (k : String × String) :
    t'.get k = if k = (agentId, logPath) then (t.get k).map (setAdvance a).set
      else t.get k := by
  unfold advanceOffset at h
  split at h
  · cases h
  · exact get_update_row h k

theorem update_row_succeeds (t : LogOffsets) (sel : LogOffsetRecord → Bool) (p : Patch) :
    ∃ t', t.update sel p = some t' :=
  update_succeeds fun _ _ _ => rfl

end LogOffsets

structure LogTables where
  attachments : LogAttachments
  offsets : LogOffsets

def LogTables.empty : LogTables := ⟨Table.empty, Table.empty⟩

end AgentTower.Logs
