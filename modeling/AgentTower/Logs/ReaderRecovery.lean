import AgentTower.Logs.Attach

/-!
# What a reader cycle makes of its file

`reader_cycle_offset_recovery`: one `stat` against what the offset row has stored, and one transaction
if something has changed.
-/

namespace AgentTower.Logs

open Option

/-- The active row of the path; or the agent's most recent row, if that is a stale one of the path. -/
def selectAttachmentForRecovery (t : LogAttachments) (agentId logPath : String) :
    Option LogAttachmentRecord :=
  match LogAttachments.selectActiveForAgentPath t agentId logPath with
  | some r => some r
  | none =>
    (LogAttachments.selectMostRecentForAgent t agentId).filter fun r =>
      decide (r.logPath = logPath ∧ r.status = .stale)

structure ReaderCycleResult where
  change : FileChangeKind
  tables : LogTables
  audit : Option LogAttachmentChange

/-- `_handle_rotation`; a truncated file keeps its inode. -/
def handleRotation (t : LogTables) (attachment : LogAttachmentRecord) (row : LogOffsetRecord)
    (stat : FileStat) (change : FileChangeKind) (timestamp : String) : Option ReaderCycleResult :=
  let newInode := if change = .truncated then row.fileInode else some stat.inode
  (LogOffsets.reset t.offsets attachment.agentId attachment.logPath newInode stat.size
    timestamp).map fun offsets => ⟨change, { t with offsets }, none⟩

/-- `_handle_missing`; the offsets stay as they are. -/
def handleMissing (t : LogTables) (attachment : LogAttachmentRecord) (timestamp : String) :
    Option ReaderCycleResult :=
  if attachment.status = .active then
    (LogAttachments.updateStatus t.attachments attachment.attachmentId .stale timestamp none
      none).map fun attachments =>
        ⟨.missing, { t with attachments },
          some ⟨attachment.attachmentId, attachment.agentId, some .active, .stale,
            some attachment.logPath, attachment.logPath, none, .explicit⟩⟩
  else some ⟨.missing, t, none⟩

/-- `none` is a transaction that was rolled back. -/
def readerCycleOffsetRecovery (t : LogTables) (agentId logPath : String) (stat : Option FileStat)
    (timestamp : String) : Option ReaderCycleResult :=
  match selectAttachmentForRecovery t.attachments agentId logPath,
      t.offsets.get (agentId, logPath) with
  | some attachment, some row =>
    -- the file of a stale row is back: the row stays stale
    if attachment.status = .stale ∧ stat.isSome = true then some ⟨.unchanged, t, none⟩
    else
      match stat, detectFileChange stat row.fileInode row.fileSizeSeen with
      -- only an active row goes stale
      | none, _ => handleMissing t attachment timestamp
      | some _, .unchanged => some ⟨.unchanged, t, none⟩
      | some st, change =>
        if attachment.status ≠ .active then some ⟨change, t, none⟩
        else handleRotation t attachment row st change timestamp
  | _, _ => some ⟨.missing, t, none⟩

/-! ## When the offsets are set to zero -/

def Rotated (row : LogOffsetRecord) (st : FileStat) : Prop :=
  ∃ inode, row.fileInode = some inode ∧ (st.inode ≠ inode ∨ st.size < row.fileSizeSeen)

variable {row : LogOffsetRecord} {st : FileStat} {t : LogTables}
  {agentId logPath timestamp : String} {r : LogAttachmentRecord} {result : ReaderCycleResult}

theorem detectFileChange_unchanged_iff :
    detectFileChange (some st) row.fileInode row.fileSizeSeen = .unchanged ↔ ¬Rotated row st := by
  unfold detectFileChange Rotated
  cases row.fileInode with
  | none => simp
  | some inode =>
    by_cases hinode : st.inode = inode
    · by_cases hsize : st.size < row.fileSizeSeen <;> simp [hinode, hsize]
    · simp [hinode]

theorem selectAttachmentForRecovery_eq_some {t : LogAttachments}
    (h : selectAttachmentForRecovery t agentId logPath = some r) :
    r ∈ t.rows ∧ r.agentId = agentId ∧ r.logPath = logPath ∧
      (r.status = .active ∨ r.status = .stale) := by
  unfold selectAttachmentForRecovery at h
  split at h
  · rename_i hactive
    cases h
    have hfound := List.find?_some hactive
    rw [Bool.and_eq_true, LogAttachmentRecord.ofAgentPath_iff, LogAttachmentRecord.active_iff] at hfound
    exact ⟨List.mem_of_find?_eq_some hactive, hfound.1.1, hfound.1.2, .inl hfound.2⟩
  · obtain ⟨hrecent, hstale⟩ := filter_eq_some_iff.mp h
    obtain ⟨hmem, hagent⟩ := List.mem_filter.mp (LogAttachments.mem_of_firstBy hrecent)
    rw [decide_eq_true_eq] at hagent hstale
    exact ⟨hmem, hagent, hstale.1, .inr hstale.2⟩

theorem selectAttachmentForRecovery_active {t : LogAttachments}
    (hr : r ∈ t.rows) (hactive : r.status = .active) :
    ∃ r', selectAttachmentForRecovery t r.agentId r.logPath = some r' ∧ r'.status = .active := by
  unfold selectAttachmentForRecovery
  cases hfind : LogAttachments.selectActiveForAgentPath t r.agentId r.logPath with
  | none =>
    have hnot := List.find?_eq_none.mp hfind r hr
    simp [LogAttachmentRecord.ofAgentPath, LogAttachmentRecord.active, hactive] at hnot
  | some r' =>
    have hfound := List.find?_some hfind
    rw [Bool.and_eq_true, LogAttachmentRecord.active_iff] at hfound
    exact ⟨r', rfl, hfound.2⟩

/-- The row after a rotation: at zero, with what the `stat` saw. -/
def LogOffsetRecord.restarted (row : LogOffsetRecord) (st : FileStat) (timestamp : String) :
    LogOffsetRecord :=
  (LogOffsets.setReset (some st.inode) st.size timestamp).set row

theorem handleRotation_eq_some
    (hchange : detectFileChange (some st) row.fileInode row.fileSizeSeen ≠ .unchanged)
    (h : handleRotation t r row st (detectFileChange (some st) row.fileInode row.fileSizeSeen)
      timestamp = some result) :
    ∃ offsets, LogOffsets.reset t.offsets r.agentId r.logPath (some st.inode) st.size timestamp
      = some offsets ∧ result = ⟨detectFileChange (some st) row.fileInode row.fileSizeSeen,
        { t with offsets }, none⟩ := by
  have hinode : (if detectFileChange (some st) row.fileInode row.fileSizeSeen = .truncated
      then row.fileInode else some st.inode) = some st.inode := by
    obtain ⟨inode, hstored, -⟩ := not_not.mp (mt detectFileChange_unchanged_iff.mpr hchange)
    rw [hstored]
    by_cases hsame : st.inode = inode
    · simp [hsame]
    · simp [detectFileChange, hsame]
  unfold handleRotation at h
  obtain ⟨offsets, hreset, rfl⟩ := map_eq_some_iff.mp h
  rw [hinode] at hreset
  exact ⟨offsets, hreset, rfl⟩

theorem get_reset {t t' : LogOffsets} (hrow : t.get (agentId, logPath) = some row)
    (h : LogOffsets.reset t agentId logPath (some st.inode) st.size timestamp = some t')
    (k : String × String) :
    t'.get k = if k = (agentId, logPath) then some (row.restarted st timestamp) else t.get k := by
  rw [LogOffsets.get_update_row h]
  by_cases hk : k = (agentId, logPath)
  · rw [if_pos hk, if_pos hk, hk, hrow]
    rfl
  · rw [if_neg hk, if_neg hk]

/-- Recovery writes nothing, or makes the row stale because its file is missing, or sets the offsets
of its path to zero because the file is not the one that the row knows. -/
inductive RecoveryEffect (t : LogTables) (agentId logPath : String) (stat : Option FileStat)
    (timestamp : String) : ReaderCycleResult → Prop
  | nothing {change : FileChangeKind}
      (hunchanged : ∀ r row, selectAttachmentForRecovery t.attachments agentId logPath = some r →
        t.offsets.get (agentId, logPath) = some row → r.status = .active →
        change = .unchanged ∧ ∃ st, stat = some st ∧ ¬Rotated row st) :
      RecoveryEffect t agentId logPath stat timestamp ⟨change, t, none⟩
  | stale {r : LogAttachmentRecord} {attachments : LogAttachments}
      (hselect : selectAttachmentForRecovery t.attachments agentId logPath = some r)
      (hactive : r.status = .active) (hstat : stat = none)
      (hstatus : LogAttachments.updateStatus t.attachments r.attachmentId .stale timestamp none none
        = some attachments) :
      RecoveryEffect t agentId logPath stat timestamp ⟨.missing, { t with attachments },
        some ⟨r.attachmentId, r.agentId, some .active, .stale, some r.logPath, r.logPath, none,
          .explicit⟩⟩
  | restarted {change : FileChangeKind} {r : LogAttachmentRecord} {row : LogOffsetRecord}
      {st : FileStat} {offsets : LogOffsets}
      (hselect : selectAttachmentForRecovery t.attachments agentId logPath = some r)
      (hactive : r.status = .active) (hchange : change ≠ .unchanged)
      (hrow : t.offsets.get (agentId, logPath) = some row) (hstat : stat = some st)
      (hrotated : Rotated row st)
      (hreset : LogOffsets.reset t.offsets agentId logPath (some st.inode) st.size timestamp
        = some offsets) :
      RecoveryEffect t agentId logPath stat timestamp ⟨change, { t with offsets }, none⟩

theorem recovery_effect {stat : Option FileStat}
    (h : readerCycleOffsetRecovery t agentId logPath stat timestamp = some result) :
    RecoveryEffect t agentId logPath stat timestamp result := by
  unfold readerCycleOffsetRecovery at h
  split at h
  · rename_i r row hselect hrow
    have hnothing : ∀ {change : FileChangeKind}, (r.status = .active →
        change = .unchanged ∧ ∃ st, stat = some st ∧ ¬Rotated row st) →
        RecoveryEffect t agentId logPath stat timestamp ⟨change, t, none⟩ := by
      refine fun h => .nothing fun r' row' hr' hrow' => ?_
      cases hselect.symm.trans hr'
      cases hrow.symm.trans hrow'
      exact h
    split at h
    · rename_i hstale
      cases h
      exact hnothing fun hactive => by cases hstale.1.symm.trans hactive
    · split at h
      · unfold handleMissing at h
        split at h
        · rename_i hactive
          obtain ⟨attachments, hstatus, rfl⟩ := map_eq_some_iff.mp h
          exact .stale hselect hactive rfl hstatus
        · rename_i hinactive
          cases h
          exact hnothing fun hactive => absurd hactive hinactive
      · rename_i st _ hchange
        cases h
        exact hnothing fun _ => ⟨rfl, st, rfl, detectFileChange_unchanged_iff.mp hchange⟩
      · rename_i st _ hchange
        split at h
        · rename_i hinactive
          cases h
          exact hnothing fun hactive => absurd hactive hinactive
        · rename_i hactive
          obtain ⟨-, rfl, rfl, -⟩ := selectAttachmentForRecovery_eq_some hselect
          obtain ⟨offsets, hreset, rfl⟩ := handleRotation_eq_some hchange h
          exact .restarted hselect (not_not.mp hactive) hchange hrow rfl
            (not_not.mp (mt detectFileChange_unchanged_iff.mpr hchange)) hreset
  · rename_i hnone
    cases h
    exact .nothing fun r row hselect hrow => absurd hrow (hnone r row hselect)

theorem recovery_unchanged_iff (hr : r ∈ t.attachments.rows) (hactive : r.status = .active)
    (hrow : t.offsets.get (r.agentId, r.logPath) = some row) {stat : Option FileStat}
    (h : readerCycleOffsetRecovery t r.agentId r.logPath stat timestamp = some result) :
    result.change = .unchanged ↔ ∃ st, stat = some st ∧ ¬Rotated row st := by
  obtain ⟨r', hselect, hactive'⟩ := selectAttachmentForRecovery_active hr hactive
  cases recovery_effect h with
  | nothing hunchanged => simp [hunchanged r' row hselect hrow hactive']
  | stale _ _ hstat => simp [hstat]
  | restarted _ _ hchange hrow' hstat hrotated =>
    cases hrow.symm.trans hrow'
    simp [hstat, hrotated, hchange]

theorem recovery_rotated (hr : r ∈ t.attachments.rows) (hactive : r.status = .active)
    (hrow : t.offsets.get (r.agentId, r.logPath) = some row) (hrotated : Rotated row st)
    (h : readerCycleOffsetRecovery t r.agentId r.logPath (some st) timestamp = some result) :
    result.tables.offsets.get (r.agentId, r.logPath) = some (row.restarted st timestamp) := by
  obtain ⟨r', hselect, hactive'⟩ := selectAttachmentForRecovery_active hr hactive
  cases recovery_effect h with
  | nothing hunchanged =>
    obtain ⟨-, st', hst, hnot⟩ := hunchanged r' row hselect hrow hactive'
    cases hst
    exact absurd hrotated hnot
  | stale _ _ hstat => cases hstat
  | restarted _ _ _ hrow' hstat _ hreset =>
    cases hrow.symm.trans hrow'
    cases hstat
    exact (get_reset hrow hreset _).trans (if_pos rfl)

theorem recovery_succeeds (t : LogTables) (agentId logPath : String) (stat : Option FileStat)
    (timestamp : String) :
    ∃ result, readerCycleOffsetRecovery t agentId logPath stat timestamp = some result := by
  unfold readerCycleOffsetRecovery
  split
  · split
    · exact ⟨_, rfl⟩
    · split
      · unfold handleMissing
        split
        · obtain ⟨attachments, hstatus⟩ := LogAttachments.updateStatus_succeeds t.attachments _ .stale
            timestamp none none (by decide)
          rw [hstatus]
          exact ⟨_, rfl⟩
        · exact ⟨_, rfl⟩
      · exact ⟨_, rfl⟩
      · split
        · exact ⟨_, rfl⟩
        · unfold handleRotation LogOffsets.reset
          rw [← isSome_iff_exists, isSome_map, isSome_iff_exists]
          exact LogOffsets.update_row_succeeds t.offsets _ _
  · exact ⟨_, rfl⟩

end AgentTower.Logs
