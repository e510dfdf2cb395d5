import AgentTower.Logs.Rows

/-!
# Audit records of the status changes

The operations that change the status of an attachment, with the `log_attachment_change` records they
append, in any order and with a failure at any statement or at the `COMMIT`.  `attach_log` appends
before its `COMMIT`, and the row that an attach supersedes has no record.
-/

namespace AgentTower.Logs

open Transition Sql Fallible List
open Routing (PaneKey)

/-- Where a transaction fails: at a statement before the append, or at its `COMMIT`. -/
inductive Fault where
  | none | statement | commit
  deriving DecidableEq, Repr

/-- `registerAttach` is the attach of `register_agent`, in the transaction of the caller. -/
inductive AuditedOp where
  | attach (c : AttachCall) (o : Outside)
  | registerAttach (c : AttachCall) (o : Outside)
  | detach (agentId : String) (o : Outside)
  | recovery (agentId logPath : String) (stat : Option FileStat) (timestamp : String)
  | cascade (paneKeys : List PaneKey) (now : String)

/-- The rows that `cascade_to_stale_for_panes` returns. -/
def cascadeAffected (t : LogAttachments) (paneKeys : List PaneKey) : List LogAttachmentRecord :=
  paneKeys.flatMap fun key => t.rows.filter fun r => decide (r.key = key) && r.active

def staleRecord (r : LogAttachmentRecord) : LogAttachmentChange :=
  ⟨r.attachmentId, r.agentId, some .active, .stale, some r.logPath, r.logPath, r.priorPipeTarget,
    r.source⟩

/-- The tables to be committed and the records that go with them; `none` if the operation fails by
itself. -/
def AuditedOp.transact (t : LogTables) : AuditedOp → Option (LogTables × List LogAttachmentChange)
  | .attach c o | .registerAttach c o =>
    match attachLogLocked t c { o with auditAppend := none, commit := none } with
    | .ok attached => some (attached.tables, attached.audit.toList)
    | .error _ => none
  | .detach agentId o =>
    match detachLogLocked t agentId { o with commit := none } with
    | .ok d =>
      some ({ t with attachments := d.attachments },
        [⟨d.attachmentId, agentId, some .active, .detached, some d.logPath, d.logPath, none, .explicit⟩])
    | .error _ => none
  | .recovery agentId logPath stat timestamp =>
    (readerCycleOffsetRecovery t agentId logPath stat timestamp).map fun result =>
      (result.tables, result.audit.toList)
  | .cascade paneKeys now =>
    (LogAttachments.cascadeToStaleForPanes t.attachments paneKeys now).map fun attachments =>
      ({ t with attachments }, (cascadeAffected t.attachments paneKeys).map staleRecord)

def statusChanges (t t' : LogAttachments) : List (String × AttachmentStatus) :=
  t'.rows.filterMap fun r =>
    if (t.get r.attachmentId).map LogAttachmentRecord.status = some r.status then none
    else some (r.attachmentId, r.status)

def LogAttachmentChange.change (r : LogAttachmentChange) : String × AttachmentStatus :=
  (r.attachmentId, r.newStatus)

open LogAttachmentChange (change)

structure AuditState where
  tables : LogTables
  journal : List LogAttachmentChange
  /-- The status changes that were committed. -/
  committed : List (String × AttachmentStatus)

def AuditedOp.appendsFirst : AuditedOp → Bool
  | .attach _ _ => true
  | _ => false

def auditStep (s : AuditState) (l : AuditedOp × Fault) : Option AuditState :=
  match l.1.transact s.tables with
  | none => some s
  | some (t, records) =>
    if l.2 = .none then
      some ⟨t, s.journal ++ records, s.committed ++ statusChanges s.tables.attachments t.attachments⟩
    else if l.2 = .commit ∧ l.1.appendsFirst = true then
      some { s with journal := s.journal ++ records }
    else some s

/-- No row of another path is superseded, the `COMMIT` of `attach_log` does not fail, and a scan names
no pane twice. -/
def recordsItself (s : AuditState) (l : AuditedOp × Fault) : Bool :=
  !(decide (l.2 = .commit) && l.1.appendsFirst) &&
  match l.1 with
  | .attach c _ | .registerAttach c _ =>
    (supersedeTarget s.tables c.agent.agentId c.hostPath).isNone
  | .cascade paneKeys _ => decide paneKeys.Nodup
  | _ => true

section Changes

variable {t t' : LogAttachments} {r : LogAttachmentRecord}

theorem statusChanges_self (t : LogAttachments) : statusChanges t t = [] := by
  refine filterMap_eq_nil_iff.mpr fun r hr => ?_
  rw [Table.get_of_mem hr]
  exact if_pos rfl

theorem statusChanges_map {f : LogAttachmentRecord → LogAttachmentRecord} (hrows : t'.rows = t.rows.map f)
    (hid : ∀ r, (f r).attachmentId = r.attachmentId) :
    statusChanges t t' = t.rows.filterMap fun r =>
      if r.status = (f r).status then none else some (r.attachmentId, (f r).status) := by
  rw [statusChanges, hrows, filterMap_map]
  refine filterMap_congr fun r hr => ?_
  simp only [Function.comp, hid, Table.get_of_mem hr, Option.map_some, Option.some.injEq]

theorem statusChanges_updateStatus {newStatus : AttachmentStatus} {now : String}
    {supersededAt supersededBy : Option String} (hr : r ∈ t.rows) (hne : r.status ≠ newStatus)
    (h : LogAttachments.updateStatus t r.attachmentId newStatus now supersededAt supersededBy = some t') :
    statusChanges t t' = [(r.attachmentId, newStatus)] := by
  rw [statusChanges_map (Table.rows_rewrite h) (Table.key_rewritten _ _)]
  have hone := Table.filter_key t r.attachmentId
  rw [Table.get_of_mem hr] at hone
  trans (t.rows.filter fun r' => decide (r'.attachmentId = r.attachmentId)).filterMap fun r' =>
    if r'.status = newStatus then none else some (r'.attachmentId, newStatus)
  · rw [filterMap_filter]
    refine filterMap_congr fun r' _ => ?_
    unfold Table.rewritten
    by_cases hsel : r'.attachmentId = r.attachmentId <;> simp [hsel, LogAttachments.setStatus]
  · rw [hone]
    simp [hne]

theorem statusChanges_insert (h : t.insert r = some t') :
    statusChanges t t' = [(r.attachmentId, r.status)] := by
  obtain ⟨hfree, hrows⟩ := Table.insert_eq_some h
  have hold := statusChanges_self t
  unfold statusChanges at hold ⊢
  rw [hrows, filterMap_append, hold, nil_append]
  simp [hfree]

end Changes

/-! ## Every operation -/

section Operations

variable {t : LogTables} {c : AttachCall} {o : Outside}

def Recorded (t : LogTables) (result : LogTables × List LogAttachmentChange) : Prop :=
  (result.2.map change).Perm (statusChanges t.attachments result.1.attachments)

theorem recorded_attach {attached : Attached}
    (htarget : supersedeTarget t c.agent.agentId c.hostPath = none)
    (h : attachLogLocked t c o = .ok attached) :
    Recorded t (attached.tables, attached.audit.toList) := by
  cases attach_effect h with
  | active =>
    rw [Recorded, statusChanges_self]
    rfl
  | resumed hexisting hprior hsupersede hstatus =>
    -- the row was not active, so that its resumption is a change
    rw [htarget] at hsupersede
    cases hsupersede
    have hmem := (LogAttachments.selectForAgentPath_eq_some hexisting).1
    rw [Recorded, statusChanges_updateStatus hmem (by rcases hprior with h | h <;> rw [h] <;> decide)
      hstatus]
    rfl
  | inserted hsupersede hrow =>
    rw [htarget] at hsupersede
    cases hsupersede
    rw [Recorded, statusChanges_insert hrow]
    rfl

theorem recorded_detach {agentId : String} {d : Detached} {r : LogAttachmentChange}
    (h : detachLogLocked t agentId o = .ok d) (hr : r.change = (d.attachmentId, .detached)) :
    Recorded t ({ t with attachments := d.attachments }, [r]) := by
  obtain ⟨existing, hmem, hactive, hid, hstatus⟩ := detach_eq_ok h
  rw [Recorded, statusChanges_updateStatus hmem (by rw [hactive]; decide) hstatus, map_singleton, hr,
    hid]

theorem recorded_recovery {agentId logPath timestamp : String} {stat : Option FileStat}
    {result : ReaderCycleResult}
    (h : readerCycleOffsetRecovery t agentId logPath stat timestamp = some result) :
    Recorded t (result.tables, result.audit.toList) := by
  have hsame : ∀ {offsets}, Recorded t ({ t with offsets }, []) := by
    intro offsets
    rw [Recorded, statusChanges_self]
    rfl
  cases recovery_effect h with
  | nothing | restarted => exact hsame
  | stale hselect hactive _ hstatus =>
    rw [Recorded, statusChanges_updateStatus (selectAttachmentForRecovery_eq_some hselect).1
      (by rw [hactive]; decide) hstatus]
    rfl

theorem recorded_cascade {paneKeys : List PaneKey} {now : String} {attachments : LogAttachments}
    (hnodup : paneKeys.Nodup)
    (h : LogAttachments.cascadeToStaleForPanes t.attachments paneKeys now = some attachments) :
    Recorded t ({ t with attachments },
      (cascadeAffected t.attachments paneKeys).map staleRecord) := by
  have hperm : (cascadeAffected t.attachments paneKeys).Perm
      (t.attachments.rows.filter fun r => decide (r.key ∈ paneKeys ∧ r.status = .active)) := by
    have hrows := List.Nodup.of_map _ t.attachments.primary
    refine (perm_ext_iff_of_nodup (nodup_flatMap.mpr ⟨fun _ _ => hrows.filter _, ?_⟩)
      (hrows.filter _)).mpr fun r => ?_
    · refine hnodup.imp fun {k k'} hne r hr hr' => hne ?_
      simp only [mem_filter, Bool.and_eq_true, decide_eq_true_eq] at hr hr'
      exact hr.2.1.symm.trans hr'.2.1
    · simp only [mem_flatMap, mem_filter, Bool.and_eq_true, decide_eq_true_eq,
        LogAttachmentRecord.active_iff]
      constructor
      · rintro ⟨key, hkey, hr, rfl, hactive⟩
        exact ⟨hr, hkey, hactive⟩
      · rintro ⟨hr, hkey, hactive⟩
        exact ⟨r.key, hkey, hr, rfl, hactive⟩
  rw [Recorded, statusChanges_map (LogAttachments.rows_cascadeToStaleForPanes h)
    (fun r => by split_ifs <;> rfl), map_map]
  refine (hperm.map _).trans (List.Perm.of_eq ?_)
  rw [← filterMap_eq_map, filterMap_filter]
  refine filterMap_congr fun r _ => ?_
  by_cases hsel : r.key ∈ paneKeys ∧ r.status = .active
  · simp [hsel, LogAttachments.setStale, staleRecord, change]
  · simp [hsel]

theorem recorded_transact {s : AuditState} {op : AuditedOp} {fault : Fault}
    {result : LogTables × List LogAttachmentChange} (hok : recordsItself s (op, fault) = true)
    (h : op.transact s.tables = some result) : Recorded s.tables result := by
  replace hok := (Bool.and_eq_true_iff.mp hok).2
  cases op with
  | attach c o | registerAttach c o =>
    simp only [AuditedOp.transact] at h
    split at h
    · rename_i hattach
      rw [← Option.some.inj h]
      exact recorded_attach (Option.isNone_iff_eq_none.mp hok) hattach
    · cases h
  | detach agentId o =>
    simp only [AuditedOp.transact] at h
    split at h
    · rename_i hdetach
      rw [← Option.some.inj h]
      exact recorded_detach hdetach rfl
    · cases h
  | recovery agentId logPath stat timestamp =>
    obtain ⟨result, hresult, rfl⟩ := Option.map_eq_some_iff.mp h
    exact recorded_recovery hresult
  | cascade paneKeys now =>
    obtain ⟨attachments, hcascade, rfl⟩ := Option.map_eq_some_iff.mp h
    exact recorded_cascade (of_decide_eq_true hok) hcascade

end Operations

def AuditState.Matched (s : AuditState) : Prop :=
  (s.journal.map change).Perm s.committed

theorem AuditState.Matched.step {s s' : AuditState} {l : AuditedOp × Fault} (h : s.Matched)
    (hok : recordsItself s l = true) (hstep : auditStep s l = some s') : s'.Matched := by
  obtain ⟨op, fault⟩ := l
  unfold auditStep at hstep
  cases htransact : op.transact s.tables with
  | none =>
    simp only [htransact] at hstep
    cases hstep
    exact h
  | some result =>
    have hrecorded := recorded_transact hok htransact
    have hcommit := (Bool.and_eq_true_iff.mp hok).1
    simp only [htransact] at hstep
    split_ifs at hstep with hnone hlost
    · cases hstep
      unfold AuditState.Matched
      rw [map_append]
      exact h.append hrecorded
    · simp [hlost] at hcommit
    · cases hstep
      exact h

/-- Over every run of the operations in which no attach supersedes a row of another path, no `COMMIT`
of `attach_log` fails after its append and no scan names a pane twice: the records in the file are, one
for one, the status changes that were committed. -/
theorem audit_records_committed_changes {t : LogTables} {s : AuditState}
    (h : Reach auditStep (fun s l => recordsItself s l = true) ⟨t, [], []⟩ s) :
    (s.journal.map change).Perm s.committed := by
  have hinit : AuditState.Matched ⟨t, [], []⟩ := List.Perm.refl []
  exact h.invariant AuditState.Matched hinit fun _ _ _ hmatched hok hstep => hmatched.step hok hstep

def auditStart : AuditState := ⟨LogTables.empty, [], []⟩

def attachPath (path attachmentId now : String) : AuditedOp :=
  .attach (sampleCall path) (sampleOutside attachmentId now)

theorem audit_records_committed_changes_sample :
    ∃ s, run auditStep auditStart [(attachPath "/logs/a" "lat_1" "t1", .none),
        (.detach "agt_00000000000a" (sampleOutside "" "t2"), .commit),
        (.detach "agt_00000000000a" (sampleOutside "" "t3"), .none)] = some s ∧
      s.committed = [("lat_1", .active), ("lat_1", .detached)] ∧
      (s.journal.map change).Perm s.committed :=
  exists_run_and recordsItself (by decide +kernel) fun _ hs _ => audit_records_committed_changes hs

/-- A failed `COMMIT` leaves the record of a change that was not made, and a superseded row has no
record. -/
theorem audit_record_without_change :
    (∃ s, run auditStep auditStart [(attachPath "/logs/a" "lat_1" "t1", .commit)] = some s ∧
      s.journal.map change = [("lat_1", .active)] ∧ s.committed = []) ∧
    ∃ s, run auditStep auditStart [(attachPath "/logs/a" "lat_1" "t1", .none),
        (attachPath "/logs/b" "lat_2" "t2", .none)] = some s ∧
      ("lat_1", .superseded) ∈ s.committed ∧
      ("lat_1", .superseded) ∉ s.journal.map change := by decide +kernel

end AgentTower.Logs
