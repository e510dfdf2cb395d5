import AgentTower.Events.Reader
import AgentTower.Logs.AttachRace
import AgentTower.Logs.Rows

/-!
# Reader cycles and changes of status

A cycle lists the active attachments and then takes them one by one, with several accesses for each.
Between any two of these the attachment may be detached, superseded or made stale.  Recovery takes a
stale row whose file is there for an unchanged one, and no later write looks at the status again.
-/

namespace AgentTower.Events

open Transition Sql List Option Table
open Logs

/-! ## Cycles in steps -/

/-- Where the reader's thread is; `todo` are the attachments of its list still to be looked at. -/
inductive CyclePhase where
  | idle
  | listed (todo : List LogAttachmentRecord)
  /-- Recovery of `a` has found the row `r`. -/
  | selected (a r : LogAttachmentRecord) (todo : List LogAttachmentRecord)
  /-- Recovery of `a` is about to write. -/
  | writing (a : LogAttachmentRecord) (w : RecoveryWrite) (todo : List LogAttachmentRecord)
  /-- Recovery has found the file of `a` unchanged. -/
  | recovered (a : LogAttachmentRecord) (todo : List LogAttachmentRecord)
  /-- The bytes of `a` have been read and its events made. -/
  | prepared (a : LogAttachmentRecord) (row : LogOffsetRecord) (b : Batch)
      (todo : List LogAttachmentRecord)

namespace CyclePhase

def attachments : CyclePhase → List LogAttachmentRecord
  | .idle => []
  | .listed todo => todo
  | .selected a _ todo | .writing a _ todo | .recovered a todo | .prepared a _ _ todo => a :: todo

def reading : CyclePhase → Option LogAttachmentRecord
  | .idle | .listed _ => none
  | .selected a _ _ | .writing a _ _ | .recovered a _ | .prepared a _ _ _ => some a

theorem mem_of_reading {p : CyclePhase} {a : LogAttachmentRecord} (h : p.reading = some a) :
    a ∈ p.attachments := by
  cases p with
  | idle | listed => cases h
  | selected | writing | recovered | prepared =>
    cases h
    exact mem_cons_self

end CyclePhase

structure CycleState where
  log : State
  phase : CyclePhase

def CycleState.init : CycleState := ⟨State.init, .idle⟩

open CycleState (init)

/-- `other` is a step beside the reader. -/
inductive CycleLabel where
  | other (l : Label)
  | list
  | select
  | decide (io : CycleInput)
  | write (io : CycleInput)
  | prepare (io : CycleInput)
  | commit (io : CycleInput)

/-- The two cases in which recovery answers `UNCHANGED`. -/
def recoveryUnchanged (r : LogAttachmentRecord) (row : LogOffsetRecord) (stat : Option FileStat) :
    Bool :=
  stat.isSome && (decide (r.status = .stale) ||
    decide (detectFileChange stat row.fileInode row.fileSizeSeen = .unchanged))

/-- Each access of the reader to the database is a step, with the look at the file that follows it.
The debounce windows change when the events are made; only the reader knows them, so here they change
with the transaction that follows. -/
def cycleStep (env : ReaderEnv) (s : CycleState) : CycleLabel → Option CycleState
  | .other (.cycle _ _) => none
  | .other .restart => (step env s.log .restart).map fun log => ⟨log, .idle⟩
  | .other l => (step env s.log l).map fun log => { s with log }
  | .list =>
    match s.phase with
    | .idle | .listed [] =>
      some { s with phase := .listed (LogAttachments.listActiveAttachments s.log.tables.attachments) }
    | _ => none
  | .select =>
    match s.phase with
    | .listed (a :: todo) =>
      match selectAttachmentForRecovery s.log.tables.attachments a.agentId a.logPath with
      | none => some { s with phase := .listed todo }
      | some r => some { s with phase := .selected a r todo }
    | _ => none
  | .decide io =>
    match s.phase with
    | .selected a r todo =>
      match s.log.tables.offsets.get (a.agentId, a.logPath) with
      | none => some { s with phase := .listed todo }
      | some row =>
        let stat := (s.log.files a.logPath).map File.stat
        if recoveryUnchanged r row stat then some { s with phase := .recovered a todo }
        else
          match decideRecovery r row stat io.nowIso with
          | none => some { s with phase := .listed todo }
          | some w => some { s with phase := .writing a w todo }
    | _ => none
  | .write io =>
    match s.phase with
    | .writing _ w todo =>
      match w.apply s.log.tables with
      | none => some { s with phase := .listed todo }
      | some tables =>
        some ⟨if io.recoveryCommits then { s.log with tables } else s.log, .listed todo⟩
    | _ => none
  | .prepare io =>
    match s.phase with
    | .recovered a todo =>
      match cycleBatch env s.log a io with
      | none => some { s with phase := .listed todo }
      | some (row, b) => some { s with phase := .prepared a row b todo }
    | _ => none
  | .commit io =>
    match s.phase with
    | .prepared a row b todo => some ⟨finishCycle s.log a row b io, .listed todo⟩
    | _ => none

variable {env : ReaderEnv} {s s' : CycleState} {a r : LogAttachmentRecord} {l : CycleLabel}
  {t : LogTables}

def activeIn (t : LogTables) (a : LogAttachmentRecord) : Bool :=
  (t.attachments.get a.attachmentId).any LogAttachmentRecord.active

/-- Recovery does not find the row stale, and nothing takes the row out of `active` between the read of
recovery and the last transaction. -/
def steady (env : ReaderEnv) (s : CycleState) : CycleLabel → Bool
  | .select =>
    s.phase.attachments.head?.all fun a =>
      (s.log.tables.attachments.get a.attachmentId).all fun r => decide (r.status ≠ .stale)
  | .other l =>
    (cycleStep env s (.other l)).all fun s' =>
      s'.phase.reading.all fun a => activeIn s'.log.tables a
  | _ => true

/-! ## What a step does -/

theorem step_tables {s s' : State} {l : Label} (h : step env s l = some s')
    (hcycle : ∀ id io, l ≠ .cycle id io) :
    s'.events = s.events ∧ (s'.tables = s.tables ∨
      ∃ op : LogOp, s'.tables = op.apply s.tables ∧ ∀ k, ¬op.advances k) := by
  cases l with
  | cycle id io => exact absurd rfl (hcycle id io)
  | attach c o newInode =>
    cases h
    rcases attach_cases s c o newInode with hsame | ⟨f, attached, -, hattach, heq⟩
    · rw [hsame]
      exact ⟨rfl, .inl rfl⟩
    · rw [heq]
      refine ⟨rfl, .inr ⟨.attach c { o with stat := some f.stat }, ?_, fun _ => id⟩⟩
      simp only [LogOp.apply, hattach]
  | detach agentId o =>
    simp only [step] at h
    split at h
    · cases h
      exact ⟨rfl, .inl rfl⟩
    · rename_i detached hdetach
      cases h
      refine ⟨rfl, .inr ⟨.detach agentId o, ?_, fun _ => id⟩⟩
      simp only [LogOp.apply, hdetach]
  | cascade paneKeys now =>
    obtain ⟨attachments, hcascade, rfl⟩ := map_eq_some_iff.mp h
    refine ⟨rfl, .inr ⟨.cascade paneKeys now, ?_, fun _ => id⟩⟩
    simp only [LogOp.apply, hcascade]
  | restart =>
    cases h
    exact ⟨rfl, .inl rfl⟩
  | append path bytes | truncate path size | delete path =>
    obtain ⟨f, -, rfl⟩ := map_eq_some_iff.mp h
    exact ⟨rfl, .inl rfl⟩
  | create path f =>
    simp only [step] at h
    split at h <;> cases h
    exact ⟨rfl, .inl rfl⟩

theorem finishCycle_tables (s : State) (a : LogAttachmentRecord) (row : LogOffsetRecord) (b : Batch)
    (io : CycleInput) :
    (finishCycle s a row b io).tables = s.tables ∧ (finishCycle s a row b io).events = s.events ∨
      ∃ advance, (finishCycle s a row b io).tables =
          (LogOp.advance a.agentId a.logPath advance).apply s.tables ∧
        (finishCycle s a row b io).events = s.events ++ b.events.map (PendingEvent.row a) := by
  unfold finishCycle commitEventsAndAdvance
  simp only
  split
  · exact .inl ⟨rfl, rfl⟩
  · rename_i tables events hcommit
    split at hcommit
    · obtain ⟨offsets, hadvance, heq⟩ := map_eq_some_iff.mp hcommit
      cases heq
      refine .inr ⟨b.advance row io.nowIso, ?_, rfl⟩
      simp only [LogOp.apply, hadvance]
    · cases hcommit

inductive CyclePartEffect (env : ReaderEnv) (s : CycleState) : CycleLabel → CycleState → Prop
  | other {l : Label} {log : State} {phase : CyclePhase} (hstep : step env s.log l = some log)
      (hcycle : ∀ id io, l ≠ .cycle id io) (hphase : phase = s.phase ∨ phase = .idle) :
      CyclePartEffect env s (.other l) ⟨log, phase⟩
  | listed :
      CyclePartEffect env s .list
        ⟨s.log, .listed (LogAttachments.listActiveAttachments s.log.tables.attachments)⟩
  | skipped {l : CycleLabel} {a : LogAttachmentRecord} {todo : List LogAttachmentRecord}
      (hphase : s.phase.attachments = a :: todo) : CyclePartEffect env s l ⟨s.log, .listed todo⟩
  | selected {a r : LogAttachmentRecord} {todo : List LogAttachmentRecord}
      (hphase : s.phase = .listed (a :: todo))
      (hselect : selectAttachmentForRecovery s.log.tables.attachments a.agentId a.logPath = some r) :
      CyclePartEffect env s .select ⟨s.log, .selected a r todo⟩
  | recovered {a r : LogAttachmentRecord} {todo : List LogAttachmentRecord} {io : CycleInput}
      (hphase : s.phase = .selected a r todo) :
      CyclePartEffect env s (.decide io) ⟨s.log, .recovered a todo⟩
  | writing {a r : LogAttachmentRecord} {todo : List LogAttachmentRecord} {io : CycleInput}
      {row : LogOffsetRecord} {stat : Option FileStat} {w : RecoveryWrite}
      (hphase : s.phase = .selected a r todo) (hw : decideRecovery r row stat io.nowIso = some w) :
      CyclePartEffect env s (.decide io) ⟨s.log, .writing a w todo⟩
  | written {a : LogAttachmentRecord} {w : RecoveryWrite} {todo : List LogAttachmentRecord}
      {io : CycleInput} {tables : LogTables} (hphase : s.phase = .writing a w todo)
      (happly : w.apply s.log.tables = some tables) :
      CyclePartEffect env s (.write io) ⟨{ s.log with tables }, .listed todo⟩
  | prepared {a : LogAttachmentRecord} {row : LogOffsetRecord} {b : Batch}
      {todo : List LogAttachmentRecord} {io : CycleInput} (hphase : s.phase = .recovered a todo) :
      CyclePartEffect env s (.prepare io) ⟨s.log, .prepared a row b todo⟩
  | committed {a : LogAttachmentRecord} {row : LogOffsetRecord} {b : Batch}
      {todo : List LogAttachmentRecord} {io : CycleInput}
      (hphase : s.phase = .prepared a row b todo) :
      CyclePartEffect env s (.commit io) ⟨finishCycle s.log a row b io, .listed todo⟩

theorem cycleStep_effect (h : cycleStep env s l = some s') : CyclePartEffect env s l s' := by
  cases l with
  | other l =>
    cases l with
    | cycle id io => simp only [cycleStep, reduceCtorEq] at h
    | restart =>
      simp only [cycleStep] at h
      obtain ⟨log, hlog, rfl⟩ := map_eq_some_iff.mp h
      exact .other hlog nofun (.inr rfl)
    | attach | detach | cascade | append | truncate | delete | create =>
      simp only [cycleStep] at h
      obtain ⟨log, hlog, rfl⟩ := map_eq_some_iff.mp h
      exact .other hlog nofun (.inl rfl)
  | list =>
    simp only [cycleStep] at h
    split at h <;> cases h
    · exact .listed
    · exact .listed
  | select =>
    simp only [cycleStep] at h
    split at h
    · rename_i a todo hphase
      cases hselect : selectAttachmentForRecovery s.log.tables.attachments a.agentId a.logPath with
      | none =>
        rw [hselect] at h
        cases h
        exact .skipped (a := a) (by rw [hphase]; rfl)
      | some r =>
        rw [hselect] at h
        cases h
        exact .selected hphase hselect
    · cases h
  | decide io =>
    simp only [cycleStep] at h
    split at h
    · rename_i a r todo hphase
      have hskip : s.phase.attachments = a :: todo := by rw [hphase]; rfl
      split at h
      · cases h
        exact .skipped hskip
      · split_ifs at h
        · cases h
          exact .recovered hphase
        · split at h
          · cases h
            exact .skipped hskip
          · rename_i hw
            cases h
            exact .writing hphase hw
    · cases h
  | write io =>
    simp only [cycleStep] at h
    split at h
    · rename_i a w todo hphase
      have hskip : s.phase.attachments = a :: todo := by rw [hphase]; rfl
      split at h
      · cases h
        exact .skipped hskip
      · rename_i happly
        split_ifs at h
        · cases h
          exact .written hphase happly
        · cases h
          exact .skipped hskip
    · cases h
  | prepare io =>
    simp only [cycleStep] at h
    split at h
    · rename_i a todo hphase
      split at h
      · cases h
        exact .skipped (a := a) (by rw [hphase]; rfl)
      · cases h
        exact .prepared hphase
    · cases h
  | commit io =>
    simp only [cycleStep] at h
    split at h <;> cases h
    rename_i hphase
    exact .committed hphase

/-! ## The invariant -/

variable {t' : LogTables} {w : RecoveryWrite} {log : State} {todo : List LogAttachmentRecord}

theorem follows_recoveryWrite (h : w.apply t = some t') :
    Follows (fun _ => True) t.attachments t'.attachments := by
  cases w with
  | stale attachmentId timestamp =>
    obtain ⟨attachments, hstatus, rfl⟩ := map_eq_some_iff.mp h
    exact .deactivate hstatus (by decide)
  | reset agentId logPath fileInode fileSizeSeen timestamp =>
    obtain ⟨offsets, -, rfl⟩ := map_eq_some_iff.mp h
    exact .refl _ _

theorem CyclePartEffect.rows (h : CyclePartEffect env s l s') (hpaths : PathsInv s.log.tables) :
    PathsInv s'.log.tables ∧
      Follows (fun _ => True) s.log.tables.attachments s'.log.tables.attachments := by
  cases h with
  | other hstep hcycle hphase =>
    rcases (step_tables hstep hcycle).2 with hsame | ⟨op, happly, -⟩
    · rw [hsame]
      exact ⟨hpaths, .refl _ _⟩
    · rw [happly]
      exact ⟨hpaths.apply op, follows_logOp _ op⟩
  | written hphase happly =>
    exact ⟨hpaths.same (samePaths_commit happly), follows_recoveryWrite happly⟩
  | @committed a row b todo io hphase =>
    rcases finishCycle_tables s.log a row b io with ⟨hsame, -⟩ | ⟨advance, happly, -⟩
    · rw [hsame]
      exact ⟨hpaths, .refl _ _⟩
    · rw [happly]
      exact ⟨hpaths.apply _, follows_logOp _ _⟩
  | listed | skipped | selected | recovered | writing | prepared => exact ⟨hpaths, .refl _ _⟩

def CyclePhase.Aims : CyclePhase → Prop
  | .selected a r _ => r.agentPath = a.agentPath
  | .writing a w _ => ∀ agentId logPath fileInode fileSizeSeen timestamp,
      w = .reset agentId logPath fileInode fileSizeSeen timestamp → (agentId, logPath) = a.agentPath
  | _ => True

structure CycleInv (s : CycleState) : Prop where
  paths : PathsInv s.log.tables
  known : ∀ a ∈ s.phase.attachments, ∃ r ∈ s.log.tables.attachments.rows, SameRow a r
  active : ∀ a, s.phase.reading = some a →
    ∃ r ∈ s.log.tables.attachments.rows, SameRow a r ∧ r.status = .active
  aims : s.phase.Aims

theorem CycleInv.of_idle (hpaths : PathsInv log.tables) : CycleInv ⟨log, .idle⟩ where
  paths := hpaths
  known _ ha := by cases ha
  active _ ha := by cases ha
  aims := trivial

theorem CycleInv.of_listed (hpaths : PathsInv log.tables)
    (hknown : ∀ a ∈ todo, ∃ r ∈ log.tables.attachments.rows, SameRow a r) :
    CycleInv ⟨log, .listed todo⟩ where
  paths := hpaths
  known := hknown
  active _ ha := by cases ha
  aims := trivial

theorem exists_of_activeIn (h : activeIn t a = true) :
    ∃ r ∈ t.attachments.rows, r.attachmentId = a.attachmentId ∧ r.status = .active := by
  obtain ⟨r, hget, hactive⟩ := (any_eq_true _ _).mp h
  exact ⟨r, mem_of_get hget, key_of_get hget, LogAttachmentRecord.active_iff.mp hactive⟩

theorem decideRecovery_reset {row : LogOffsetRecord}
    {stat : Option FileStat} {agentId logPath timestamp timestamp' : String}
    {fileInode : Option String} {fileSizeSeen : Nat} (h : decideRecovery r row stat timestamp =
      some (.reset agentId logPath fileInode fileSizeSeen timestamp')) :
    (agentId, logPath) = r.agentPath := by
  unfold decideRecovery at h
  split at h
  · cases h
  · split at h
    · split at h <;> cases h
    · cases h
    · split at h <;> cases h
      rfl

theorem CycleInv.row_after (hinv : CycleInv s)
    (hfollows : Follows (fun _ => True) s.log.tables.attachments s'.log.tables.attachments)
    (ha : a ∈ s.phase.attachments) :
    ∃ r ∈ s'.log.tables.attachments.rows, SameRow a r := by
  obtain ⟨r, hr, hsame⟩ := hinv.known a ha
  obtain ⟨r', hr', hsame', -⟩ := hfollows r hr
  exact ⟨r', hr', hsame.trans hsame'⟩

theorem CycleInv.selected_active (hinv : CycleInv s)
    (hphase : s.phase = .listed (a :: todo)) (hok : steady env s .select = true)
    (hselect : selectAttachmentForRecovery s.log.tables.attachments a.agentId a.logPath = some r) :
    r ∈ s.log.tables.attachments.rows ∧ SameRow a r ∧ r.status = .active := by
  obtain ⟨hr, hagent, hlog, hstatus⟩ := selectAttachmentForRecovery_eq_some hselect
  obtain ⟨r₀, hr₀, hsame⟩ := hinv.known a (by rw [hphase]; exact mem_cons_self)
  have heq : r = r₀ :=
    hinv.paths.eq_of_path hr hr₀ ((Prod.ext hagent hlog).trans hsame.agentPath.symm)
  rw [← heq] at hsame
  have hget : s.log.tables.attachments.get a.attachmentId = some r := by
    rw [← hsame.attachmentId]
    exact get_of_mem hr
  have hstale : r.status ≠ .stale := by
    simpa [steady, hphase, CyclePhase.attachments, hget] using hok
  exact ⟨hr, hsame, hstatus.resolve_right hstale⟩

theorem CycleInv.step (hinv : CycleInv s)
    (hok : steady env s l = true) (h : cycleStep env s l = some s') : CycleInv s' := by
  have heffect := cycleStep_effect h
  obtain ⟨hpaths, hfollows⟩ := heffect.rows hinv.paths
  have hknown : ∀ a ∈ s.phase.attachments, ∃ r ∈ s'.log.tables.attachments.rows, SameRow a r :=
    fun a ha => hinv.row_after hfollows ha
  cases heffect with
  | @other l log phase hstep hcycle hphase =>
    rcases hphase with rfl | rfl
    · refine ⟨hpaths, hknown, fun a ha => ?_, hinv.aims⟩
      have hactive : activeIn log.tables a = true := by
        simpa only [steady, h, all_some, ha] using hok
      obtain ⟨r, hr, hid, hstatus⟩ := exists_of_activeIn hactive
      obtain ⟨r', hr', hsame⟩ := hknown a (CyclePhase.mem_of_reading ha)
      have heq : r = r' := inj_on_of_nodup_map log.tables.attachments.primary hr hr'
        (hid.trans hsame.attachmentId.symm)
      exact ⟨r, hr, heq ▸ hsame, hstatus⟩
    · exact .of_idle hpaths
  | listed =>
    refine .of_listed hpaths fun a ha => ?_
    exact ⟨a, (LogAttachments.mem_listActiveAttachments ha).1, SameRow.refl a⟩
  | skipped hphase | written hphase happly | committed hphase =>
    rw [hphase] at hknown
    exact .of_listed hpaths fun a ha => hknown a (mem_cons_of_mem _ ha)
  | selected hphase hselect =>
    obtain ⟨hr, hsame, hactive⟩ := hinv.selected_active hphase hok hselect
    rw [hphase] at hknown
    refine ⟨hpaths, hknown, fun a ha => ?_, hsame.agentPath⟩
    cases ha
    exact ⟨_, hr, hsame, hactive⟩
  | recovered hphase | prepared hphase =>
    have hactive := hinv.active
    rw [hphase] at hknown hactive
    exact ⟨hpaths, hknown, hactive, trivial⟩
  | writing hphase hw =>
    have hactive := hinv.active
    have haims := hinv.aims
    rw [hphase] at hknown hactive haims
    refine ⟨hpaths, hknown, hactive, fun agentId logPath fileInode size timestamp heq => ?_⟩
    rw [heq] at hw
    exact (decideRecovery_reset hw).trans haims

abbrev CycleReach (env : ReaderEnv) :=
  Reach (cycleStep env) fun s l => steady env s l = true

theorem CycleInv.of_reach (h : CycleReach env init s) : CycleInv s :=
  h.invariant CycleInv (.of_idle .empty) fun _ _ _ hinv hok hstep => hinv.step hok hstep

/-! ## The rows that are not active -/

theorem recoveryWrite_offsets (h : w.apply t = some t')
    {k : String × String} (hk : ∀ agentId logPath fileInode fileSizeSeen timestamp,
      w = .reset agentId logPath fileInode fileSizeSeen timestamp → k ≠ (agentId, logPath)) :
    t'.offsets.get k = t.offsets.get k := by
  cases w with
  | stale attachmentId timestamp =>
    obtain ⟨attachments, -, rfl⟩ := map_eq_some_iff.mp h
    rfl
  | reset agentId logPath fileInode fileSizeSeen timestamp =>
    obtain ⟨offsets, hreset, rfl⟩ := map_eq_some_iff.mp h
    show offsets.get k = _
    rw [LogOffsets.get_update_row hreset, if_neg (hk _ _ _ _ _ rfl)]

theorem CycleInv.reading_ne (hinv : CycleInv s)
    (ha : s.phase.reading = some a) (hr : r ∈ s.log.tables.attachments.rows)
    (hinactive : r.status ≠ .active) :
    r.agentPath ≠ a.agentPath ∧ a.attachmentId ≠ r.attachmentId := by
  obtain ⟨r', hr', hsame, hactive⟩ := hinv.active a ha
  constructor
  · intro hpath
    have heq : r = r' := hinv.paths.eq_of_path hr hr' (hpath.trans hsame.agentPath.symm)
    exact hinactive (heq ▸ hactive)
  · intro hid
    have heq : r = r' := inj_on_of_nodup_map s.log.tables.attachments.primary hr hr'
      (hid.symm.trans hsame.attachmentId.symm)
    exact hinactive (heq ▸ hactive)

def eventsOf (s : State) (attachmentId : String) : List EventRow :=
  s.events.filter fun e => decide (e.attachmentId = attachmentId)

def inactiveAfter (env : ReaderEnv) (r : LogAttachmentRecord) (s : CycleState) (l : CycleLabel) :
    Bool :=
  (cycleStep env s l).all fun s' => !activeIn s'.log.tables r

structure Untouched (s s' : State) (r : LogAttachmentRecord) : Prop where
  offsets : s'.tables.offsets.get r.agentPath = s.tables.offsets.get r.agentPath
  events : eventsOf s' r.attachmentId = eventsOf s r.attachmentId

theorem CycleInv.untouched (hinv : CycleInv s) (h : cycleStep env s l = some s')
    (hr : r ∈ s.log.tables.attachments.rows) (hinactive : r.status ≠ .active)
    (hafter : (∃ l', l = .other l') → activeIn s'.log.tables r = false) :
    Untouched s.log s'.log r := by
  cases cycleStep_effect h with
  | @other l log phase hstep hcycle hphase =>
    obtain ⟨hevents, htables⟩ := step_tables hstep hcycle
    refine ⟨?_, by unfold eventsOf; rw [hevents]⟩
    rcases htables with hsame | ⟨op, happly, hadvance⟩
    · show log.tables.offsets.get _ = _
      rw [hsame]
    · have hstays : activeIn log.tables r = false := hafter ⟨l, rfl⟩
      show log.tables.offsets.get _ = _
      rw [happly] at hstays ⊢
      refine LogOp.offsets_inactive hinv.paths hr hinactive (fun r' hr' hid hactive => ?_)
        (hadvance _)
      have hget : (op.apply s.log.tables).attachments.get r.attachmentId = some r' := by
        rw [← hid]
        exact get_of_mem hr'
      rw [activeIn, hget, any_some, LogAttachmentRecord.active_iff.mpr hactive] at hstays
      cases hstays
  | @written a w todo io tables hphase happly =>
    have hreading : s.phase.reading = some a := by rw [hphase]; rfl
    have haims := hinv.aims
    rw [hphase] at haims
    refine ⟨recoveryWrite_offsets happly fun agentId logPath fileInode size timestamp hw => ?_, rfl⟩
    rw [haims _ _ _ _ _ hw]
    exact (hinv.reading_ne hreading hr hinactive).1
  | @committed a row b todo io hphase =>
    have hreading : s.phase.reading = some a := by rw [hphase]; rfl
    obtain ⟨hpath, hid⟩ := hinv.reading_ne hreading hr hinactive
    rcases finishCycle_tables s.log a row b io with ⟨hsame, hevents⟩ | ⟨advance, happly, hevents⟩
    · exact ⟨by rw [hsame], by unfold eventsOf; rw [hevents]⟩
    · constructor
      · rw [happly]
        exact advance_offsets hpath
      · unfold eventsOf
        rw [hevents, filter_append, append_right_eq_self, filter_eq_nil_iff]
        simp [PendingEvent.row, hid]
  | listed | skipped | selected | recovered | writing | prepared => exact ⟨rfl, rfl⟩

theorem Untouched.trans {s s' s'' : State} {r' : LogAttachmentRecord} (h : Untouched s s' r)
    (hsame : SameRow r r') (h' : Untouched s' s'' r') : Untouched s s'' r where
  offsets := by rw [← h.offsets, ← hsame.agentPath, h'.offsets]
  events := by rw [← h.events, ← hsame.attachmentId, h'.events]

/-- If recovery finds no listed row stale, and the row of the attachment being read stays active until
its cycle is done, the reader writes nothing for a row that is not active; and until such a row is
active again its offsets and events stay as they are. -/
theorem inactive_attachment_untouched {env : ReaderEnv} {s : CycleState}
    (h : CycleReach env init s) {r : LogAttachmentRecord}
    (hr : r ∈ s.log.tables.attachments.rows) (hinactive : r.status ≠ .active) :
    (∀ l s', (∀ l', l ≠ .other l') → cycleStep env s l = some s' → Untouched s.log s'.log r) ∧
    ∀ s', Reach (cycleStep env)
      (fun s l => steady env s l = true ∧ inactiveAfter env r s l = true) s s' →
        Untouched s.log s'.log r := by
  have hinv := CycleInv.of_reach h
  refine ⟨fun l s' hreader hstep => ?_, fun s' hrun => ?_⟩
  · exact hinv.untouched hstep hr hinactive fun ⟨l', hl'⟩ => absurd hl' (hreader l')
  · -- along the run: the row is there, it is not active, and nothing has been written for it
    refine (hrun.invariant (fun s' => CycleInv s' ∧ Untouched s.log s'.log r ∧
      ∃ r' ∈ s'.log.tables.attachments.rows, SameRow r r' ∧ r'.status ≠ .active)
      ⟨hinv, ⟨rfl, rfl⟩, r, hr, SameRow.refl r, hinactive⟩ ?_).2.1
    rintro s₁ l s₂ ⟨hinv₁, hkept, r₁, hr₁, hsame, hinactive₁⟩ ⟨hok, hafter⟩ hstep
    have hgone : activeIn s₂.log.tables r = false := by
      simpa only [inactiveAfter, hstep, all_some, Bool.not_eq_true'] using hafter
    obtain ⟨r₂, hr₂, hsame₂, -⟩ := ((cycleStep_effect hstep).rows hinv₁.paths).2 r₁ hr₁
    have hkept₁ := hinv₁.untouched hstep hr₁ hinactive₁ fun _ => by
      rw [activeIn, hsame.attachmentId]
      exact hgone
    refine ⟨hinv₁.step hok hstep, hkept.trans hsame hkept₁, r₂, hr₂, hsame.trans hsame₂,
      fun hactive => ?_⟩
    have hget : s₂.log.tables.attachments.get r.attachmentId = some r₂ := by
      rw [← (hsame.trans hsame₂).attachmentId]
      exact get_of_mem hr₂
    rw [activeIn, hget, any_some, LogAttachmentRecord.active_iff.mpr hactive] at hgone
    cases hgone

/-! ## Runs -/

def completedEnv : ReaderEnv := ⟨6, 5, fun _ => ⟨.completed, "completed.v1", "x"⟩⟩

def cycleInputSample (now : String) : CycleInput := ⟨now, 1, [], true, true, true⟩

def detachedSample : List CycleLabel :=
  [.other (.attach (sampleCall "/logs/a") (sampleOutside "lat_1" "t1") "8:1"),
    .other (.append "/logs/a" [97, 10]), .list, .select, .decide (cycleInputSample "t2"),
    .prepare (cycleInputSample "t2"), .commit (cycleInputSample "t2"),
    .other (.detach "agt_00000000000a" (sampleOutside "lat_2" "t3"))]

/-- A second line is not read as long as the row is detached. -/
theorem inactive_attachment_untouched_detached :
    ∃ s s' r, CycleReach completedEnv init s ∧ r ∈ s.log.tables.attachments.rows ∧
      r.status = .detached ∧ (s.log.tables.offsets.get r.agentPath).map LogOffsetRecord.byteOffset =
        some 2 ∧
      run (cycleStep completedEnv) s [.other (.append "/logs/a" [98, 10]), .list] =
        some s' ∧ Untouched s.log s'.log r := by
  obtain ⟨s, hs, r, hr, hdetached, hoffset, hlater⟩ :
      ∃ s, runWhile (cycleStep completedEnv) (steady completedEnv) init detachedSample = some s ∧
      ∃ r ∈ s.log.tables.attachments.rows, r.status = .detached ∧
        (s.log.tables.offsets.get r.agentPath).map LogOffsetRecord.byteOffset = some 2 ∧
        (runWhile (cycleStep completedEnv) (fun s l => steady completedEnv s l &&
          inactiveAfter completedEnv r s l) s
            [.other (.append "/logs/a" [98, 10]), .list]).isSome = true := by decide +kernel
  obtain ⟨s', hs'⟩ := isSome_iff_exists.mp hlater
  have hreach : CycleReach completedEnv init s := reach_of_runWhile .start hs
  refine ⟨s, s', r, hreach, hr, hdetached, hoffset, run_of_runWhile hs', ?_⟩
  refine (inactive_attachment_untouched hreach hr (by rw [hdetached]; decide)).2 s' ?_
  exact (reach_of_runWhile .start hs').weaken fun s l hok => Bool.and_eq_true_iff.mp hok

def lateDetachSample : List CycleLabel :=
  [.other (.attach (sampleCall "/logs/a") (sampleOutside "lat_1" "t1") "8:1"),
    .other (.append "/logs/a" [97, 10]), .list, .select, .decide (cycleInputSample "t2"),
    .prepare (cycleInputSample "t2"),
    .other (.detach "agt_00000000000a" (sampleOutside "lat_2" "t3"))]

def lateStaleSample : List CycleLabel :=
  [.other (.attach (sampleCall "/logs/a") (sampleOutside "lat_1" "t1") "8:1"),
    .other (.append "/logs/a" [97, 10]), .list, .other (.cascade [sampleAgent.key] "t2"), .select,
    .decide (cycleInputSample "t3"), .prepare (cycleInputSample "t3")]

/-- The reader's next transaction advances the offsets of a row of the status, and inserts events. -/
def writesFor (status : AttachmentStatus) (s : CycleState) : Bool :=
  s.log.tables.attachments.rows.any fun r =>
    decide (r.status = status) &&
      (cycleStep completedEnv s (.commit (cycleInputSample "t4"))).any fun s' =>
        decide (s'.log.tables.offsets.get r.agentPath ≠ s.log.tables.offsets.get r.agentPath ∧
          eventsOf s'.log r.attachmentId ≠ eventsOf s.log r.attachmentId)

theorem reader_writes_inactive :
    (∃ s, run (cycleStep completedEnv) init lateDetachSample = some s ∧
      writesFor .detached s = true) ∧
    ∃ s, run (cycleStep completedEnv) init lateStaleSample = some s ∧
      writesFor .stale s = true :=
  ⟨(any_eq_true _ _).mp (by decide +kernel), (any_eq_true _ _).mp (by decide +kernel)⟩

end AgentTower.Events
