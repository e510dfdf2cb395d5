import AgentTower.Logs.AttachHistory

/-!
# What becomes of an attachment row

No statement deletes an attachment row or changes its id, its agent, its path or its pane.  A row that
is not active becomes active only by an attach of its own path.
-/

namespace AgentTower.Logs

open Sql List Table
open Routing (PaneKey)

structure SameRow (r r' : LogAttachmentRecord) : Prop where
  attachmentId : r'.attachmentId = r.attachmentId
  agentPath : r'.agentPath = r.agentPath
  key : r'.key = r.key

theorem SameRow.refl (r : LogAttachmentRecord) : SameRow r r := ⟨rfl, rfl, rfl⟩

variable {r : LogAttachmentRecord} {P : LogAttachmentRecord → Prop} {t : LogTables} {o : Outside}
  {agentId logPath : String}

theorem SameRow.trans {r' r'' : LogAttachmentRecord} (h : SameRow r r') (h' : SameRow r' r'') :
    SameRow r r'' :=
  ⟨h'.attachmentId.trans h.attachmentId, h'.agentPath.trans h.agentPath, h'.key.trans h.key⟩

/-- Every row of `t` is in `t'`; one that is active there was active before, or is one of `P`. -/
def Follows (P : LogAttachmentRecord → Prop) (t t' : LogAttachments) : Prop :=
  ∀ r ∈ t.rows, ∃ r' ∈ t'.rows, SameRow r r' ∧ (r'.status = .active → r.status = .active ∨ P r)

namespace Follows

variable {P : LogAttachmentRecord → Prop} {t t' t'' : LogAttachments}

theorem refl (P : LogAttachmentRecord → Prop) (t : LogAttachments) : Follows P t t :=
  fun r hr => ⟨r, hr, SameRow.refl r, .inl⟩

theorem trans (h : Follows P t t') (h' : Follows P t' t'')
    (hP : ∀ r r', SameRow r r' → P r' → P r) : Follows P t t'' := by
  intro r hr
  obtain ⟨r', hr', hsame, hactive⟩ := h r hr
  obtain ⟨r'', hr'', hsame', hactive'⟩ := h' r' hr'
  refine ⟨r'', hr'', hsame.trans hsame', fun hr => ?_⟩
  rcases hactive' hr with hbefore | hp
  · exact hactive hbefore
  · exact .inr (hP r r' hsame hp)

theorem map {f : LogAttachmentRecord → LogAttachmentRecord} (h : t'.rows = t.rows.map f)
    (hf : ∀ r ∈ t.rows, SameRow r (f r) ∧ ((f r).status = .active → r.status = .active ∨ P r)) :
    Follows P t t' := by
  intro r hr
  refine ⟨f r, ?_, hf r hr⟩
  rw [h]
  exact mem_map_of_mem hr

variable {attachmentId lastStatusAt : String} {newStatus : AttachmentStatus}
  {supersededAt supersededBy : Option String}

theorem updateStatus
    (h : LogAttachments.updateStatus t attachmentId newStatus lastStatusAt supersededAt supersededBy
      = some t') (hP : newStatus = .active → ∀ r ∈ t.rows, r.attachmentId = attachmentId → P r) :
    Follows P t t' := by
  refine map (rows_rewrite h) fun r hr => ?_
  unfold Table.rewritten
  split
  · rename_i hid
    rw [decide_eq_true_eq] at hid
    exact ⟨⟨rfl, rfl, rfl⟩, fun hactive => .inr (hP hactive r hr hid)⟩
  · exact ⟨SameRow.refl r, .inl⟩

theorem deactivate
    (h : LogAttachments.updateStatus t attachmentId newStatus lastStatusAt supersededAt supersededBy
      = some t') (hstatus : newStatus ≠ .active) : Follows P t t' :=
  updateStatus h fun hactive => absurd hactive hstatus

theorem supersede {target : Option LogAttachmentRecord} {newId now : String}
    (h : Logs.supersede t target newId now = .ok t') : Follows P t t' := by
  cases target with
  | none =>
    cases h
    exact refl P t
  | some r => exact deactivate (execute_eq_ok h) (by decide)

theorem sameRow (h : Follows P t t') {r r' : LogAttachmentRecord} (hr : r ∈ t.rows)
    (hr' : r' ∈ t'.rows) (hid : r'.attachmentId = r.attachmentId) : SameRow r r' := by
  obtain ⟨r'', hr'', hsame, -⟩ := h r hr
  have heq : r' = r'' := inj_on_of_nodup_map t'.primary hr' hr'' (hid.trans hsame.attachmentId.symm)
  rw [heq]
  exact hsame

end Follows

theorem follows_cascade {t t' : LogAttachments} {paneKeys : List PaneKey} {now : String}
    (h : LogAttachments.cascadeToStaleForPanes t paneKeys now = some t') :
    Follows P t t' ∧ ∀ r ∈ t'.rows, r.key ∈ paneKeys → r.status ≠ .active := by
  have hrows := LogAttachments.rows_cascadeToStaleForPanes h
  constructor
  · refine Follows.map hrows fun r hr => ?_
    split
    · exact ⟨⟨rfl, rfl, rfl⟩, fun hactive => by cases hactive⟩
    · exact ⟨SameRow.refl r, .inl⟩
  · intro r hr hkey
    rw [hrows] at hr
    obtain ⟨r₀, hr₀, rfl⟩ := mem_map.mp hr
    by_cases hgone : r₀.key ∈ paneKeys ∧ r₀.status = .active
    · rw [if_pos hgone]
      show AttachmentStatus.stale ≠ .active
      decide
    · rw [if_neg hgone] at hkey ⊢
      exact fun hactive => hgone ⟨hkey, hactive⟩

variable {c : AttachCall} {attached : Attached} {timestamp : String} {stat : Option FileStat}
  {result : ReaderCycleResult}

theorem follows_attach (h : attachLogLocked t c o = .ok attached) :
    Follows (fun r => r.agentPath = (c.agent.agentId, c.hostPath)) t.attachments
      attached.tables.attachments := by
  have hP : ∀ r r' : LogAttachmentRecord, SameRow r r' →
      r'.agentPath = (c.agent.agentId, c.hostPath) → r.agentPath = (c.agent.agentId, c.hostPath) :=
    fun r r' hsame hpath => hsame.agentPath.symm.trans hpath
  cases attach_effect h with
  | active => exact .refl _ _
  | @resumed existing _ attachments _ _ _ _ _ _ hexisting hprior hsupersede hstatus hoffsets =>
    have hsuperseded : Follows (fun r => r.agentPath = (c.agent.agentId, c.hostPath)) t.attachments
      attachments := .supersede hsupersede
    obtain ⟨hmem, hagent, hlog⟩ := LogAttachments.selectForAgentPath_eq_some hexisting
    refine hsuperseded.trans (.updateStatus hstatus fun _ r hr hid => ?_) hP
    -- the row with the id is the one that was found, whether superseding has touched it or not
    rw [(hsuperseded.sameRow hmem hr hid).agentPath]
    exact Prod.ext hagent hlog
  | @inserted _ _ attachments _ _ _ _ _ hsupersede hrow hoffsets =>
    have hsuperseded : Follows (fun r => r.agentPath = (c.agent.agentId, c.hostPath)) t.attachments
      attachments := .supersede hsupersede
    refine hsuperseded.trans (fun r hr => ⟨r, ?_, SameRow.refl r, .inl⟩) hP
    rw [(insert_eq_some hrow).2]
    exact mem_append_left _ hr

theorem follows_detach {detached : Detached} (h : detachLogLocked t agentId o = .ok detached) :
    Follows P t.attachments detached.attachments := by
  obtain ⟨existing, -, -, -, hstatus⟩ := detach_eq_ok h
  exact .deactivate hstatus (by decide)

theorem follows_recovery
    (h : readerCycleOffsetRecovery t agentId logPath stat timestamp = some result) :
    Follows P t.attachments result.tables.attachments := by
  cases recovery_effect h with
  | nothing | restarted => exact .refl _ _
  | stale hselect hactive hstat hstatus => exact .deactivate hstatus (by decide)

theorem follows_logOp (t : LogTables) (op : LogOp) :
    Follows (fun _ => True) t.attachments (op.apply t).attachments := by
  cases op with
  | attach c o =>
    simp only [LogOp.apply]
    split
    · rename_i attached hattach
      intro r hr
      obtain ⟨r', hr', hsame, -⟩ := follows_attach hattach r hr
      exact ⟨r', hr', hsame, fun _ => .inr trivial⟩
    · exact .refl _ _
  | detach agentId o =>
    simp only [LogOp.apply]
    split
    · rename_i hdetach
      exact follows_detach hdetach
    · exact .refl _ _
  | cascade paneKeys now =>
    simp only [LogOp.apply]
    split
    · rename_i hcascade
      exact (follows_cascade hcascade).1
    · exact .refl _ _
  | recovery agentId logPath stat timestamp =>
    simp only [LogOp.apply]
    split
    · rename_i hrecovery
      exact follows_recovery hrecovery
    · exact .refl _ _
  | advance agentId logPath a =>
    simp only [LogOp.apply]
    split
    · exact .refl _ _
    · exact .refl _ _

/-! ## The offsets of a row that is not active -/

theorem recovery_offsets
    (h : readerCycleOffsetRecovery t agentId logPath stat timestamp = some result) :
    result.tables.offsets = t.offsets ∨
      ∃ r ∈ t.attachments.rows, r.agentPath = (agentId, logPath) ∧ r.status = .active ∧
        ∀ k, k ≠ (agentId, logPath) → result.tables.offsets.get k = t.offsets.get k := by
  cases recovery_effect h with
  | nothing | stale => exact .inl rfl
  | restarted hselect hactive _ _ _ _ hreset =>
    obtain ⟨hmem, hagent, hlog, -⟩ := selectAttachmentForRecovery_eq_some hselect
    refine .inr ⟨_, hmem, Prod.ext hagent hlog, hactive, fun k hk => ?_⟩
    exact (LogOffsets.get_update_row hreset k).trans (if_neg hk)

theorem attach_offsets (hinv : PathsInv t)
    (h : attachLogLocked t c o = .ok attached) (hr : r ∈ t.attachments.rows)
    (hafter : ∀ r' ∈ attached.tables.attachments.rows, r'.attachmentId = r.attachmentId →
      r'.status ≠ .active) :
    attached.tables.offsets.get r.agentPath = t.offsets.get r.agentPath := by
  cases attach_effect h with
  | active => rfl
  | @resumed existing newId attachments attachments' offsets _ _ _ _ hexisting hprior hsupersede hstatus hoffsets =>
    obtain ⟨hmem, hagent, hlog⟩ := LogAttachments.selectForAgentPath_eq_some hexisting
    by_cases hpath : r.agentPath = (c.agent.agentId, c.hostPath)
    · -- the row itself has been resumed
      exfalso
      have heq : r = existing := hinv.eq_of_path hr hmem (hpath.trans (Prod.ext hagent hlog).symm)
      have hsuperseded : Follows (fun _ => True) t.attachments attachments := .supersede hsupersede
      obtain ⟨r', hr', hsame, -⟩ := hsuperseded r hr
      refine hafter ((LogAttachments.setStatus .active o.now none none).set r') ?_ hsame.attachmentId
        rfl
      show _ ∈ attachments'.rows
      rw [rows_rewrite hstatus]
      refine mem_map.mpr ⟨r', hr', ?_⟩
      unfold Table.rewritten
      rw [if_pos]
      rw [decide_eq_true_eq, hsame.attachmentId, heq]
    · rcases resumeOffsets_eq_ok hoffsets with hsame | hreset
      · rw [hsame]
      · show offsets.get _ = _
        rw [LogOffsets.get_update_row hreset, if_neg hpath]
  | @inserted _ _ attachments _ offsets _ _ _ hsupersede hrow hoffsets =>
    -- the path of the row has offsets, so it is not the new one
    have hrowOffsets := (hinv.offsets r.agentPath).mpr (mem_map_of_mem hr)
    have hpath : r.agentPath ≠ (LogOffsets.initial c.agent.agentId c.hostPath o.now).key := by
      intro hpath
      rw [hpath, (insert_eq_some hoffsets).1] at hrowOffsets
      cases hrowOffsets
    show offsets.get _ = _
    rw [get_insert hoffsets, if_neg hpath]

theorem advance_offsets {a : LogOffsets.Advance}
    {k : String × String} (hk : k ≠ (agentId, logPath)) :
    ((LogOp.advance agentId logPath a).apply t).offsets.get k = t.offsets.get k := by
  simp only [LogOp.apply]
  split
  · rename_i offsets hadvance
    show offsets.get _ = _
    rw [LogOffsets.get_advanceOffset hadvance, if_neg hk]
  · rfl

def LogOp.advances (k : String × String) : LogOp → Prop
  | .advance agentId logPath _ => (agentId, logPath) = k
  | _ => False

theorem LogOp.offsets_inactive (hinv : PathsInv t) {op : LogOp}
    (hr : r ∈ t.attachments.rows) (hinactive : r.status ≠ .active)
    (hafter : ∀ r' ∈ (op.apply t).attachments.rows, r'.attachmentId = r.attachmentId →
      r'.status ≠ .active) (hop : ¬op.advances r.agentPath) :
    (op.apply t).offsets.get r.agentPath = t.offsets.get r.agentPath := by
  cases op with
  | attach c o =>
    simp only [LogOp.apply] at hafter ⊢
    split at hafter
    · rename_i attached hattach
      exact attach_offsets hinv hattach hr hafter
    · rfl
  | detach agentId o | cascade paneKeys now =>
    simp only [LogOp.apply]
    split
    · rfl
    · rfl
  | recovery agentId logPath stat timestamp =>
    simp only [LogOp.apply]
    split
    · rename_i result hrecovery
      rcases recovery_offsets hrecovery with hsame | ⟨r', hr', hpath, hactive, hothers⟩
      · rw [hsame]
      · refine hothers _ fun hk => hinactive ?_
        rw [hinv.eq_of_path hr hr' (hk.trans hpath.symm)]
        exact hactive
    · rfl
  | advance agentId logPath a => exact advance_offsets (Ne.symm hop)

end AgentTower.Logs
