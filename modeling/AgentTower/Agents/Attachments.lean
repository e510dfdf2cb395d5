import AgentTower.Agents.Invariants
import AgentTower.Logs.AttachRace
import AgentTower.Logs.Rows

/-!
# Active attachments and the panes they are bound to

`attach_log` reads the agent, its container and its pane one after the other and only then opens its
transaction, which looks at none of them again; `register_agent` attaches inside its own.  A pane scan
makes the agents and the attachments of the panes that are gone inactive, in one transaction.
-/

namespace AgentTower.Agents

open Transition Sql Fallible List Table
open Routing (PaneKey PaneRow ContainerRow pyRepr)
open Logs (LogAttachmentRecord LogTables)

/-- What `_resolve_attach_target` comes to: the user in the container and the path on both sides. -/
structure AttachTarget where
  containerUser : String
  containerPath : String
  hostPath : String
  deriving DecidableEq, Repr

/-- The `attach_log` object of a registration, and what it meets outside. -/
structure RegisterAttach where
  target : Except RegistrationError AttachTarget
  outside : Logs.Outside

def attachCall (a : AgentRecord) (target : AttachTarget) (source : Logs.AttachmentSource) :
    Logs.AttachCall :=
  ⟨a.row, target.containerUser, target.containerPath, target.hostPath, source⟩

def ofLogError (e : Logs.RegistrationError) : RegistrationError := ⟨.log e.code, e.message⟩

def ofAttached : Except Logs.RegistrationError Logs.Attached → Except RegistrationError LogTables
  | .ok attached => .ok attached.tables
  | .error e => .error (ofLogError e)

def selectActiveContainerForAttach (t : Tables) (containerId : String) :
    Except RegistrationError Unit :=
  if (t.containers.get containerId).any ContainerRow.active then .ok ()
  else .error ⟨.agentInactive, "container " ++ pyRepr containerId ++ " is inactive"⟩

/-- `attach_log_in_transaction`; the caller appends the audit row after its commit. -/
def attachLogInTransaction (t : Tables) (logs : LogTables) (a : AgentRecord) (x : RegisterAttach) :
    Except RegistrationError LogTables := do
  selectActiveContainerForAttach t a.key.containerId
  let target ← x.target
  ofAttached (Logs.attachLogLocked logs (attachCall a target .registerSelf)
    { x.outside with auditAppend := none })

/-- `register_agent` on all the tables: one transaction. -/
def registerAndAttach (v : AgentService) (t : Tables) (logs : LogTables) (params : RegisterParams)
    (o : RegisterOutside) (attach : Option RegisterAttach) :
    Except RegistrationError (Tables × LogTables) := do
  let registered ← registerAgent v t params { o with attachLog := none }
  match attach with
  | none => pure (registered.tables, logs)
  | some x => do
    let logs' ← attachLogInTransaction registered.tables logs registered.agent x
    pure (registered.tables, logs')

/-! ## The system -/

inductive AttachStage where
  | agentResolved (agent : AgentRecord)
  | containerResolved (agent : AgentRecord)
  | paneChecked (agent : AgentRecord)
  deriving DecidableEq, Repr

def AttachStage.agent : AttachStage → AgentRecord
  | .agentResolved a => a
  | .containerResolved a => a
  | .paneChecked a => a

/-- The tables, and the calls of `attach_log` that have passed their first check. -/
structure LogState where
  tables : Tables
  logs : LogTables
  calls : List AttachStage

def LogState.start : LogState := ⟨Tables.empty, LogTables.empty, []⟩

inductive AttachLabel where
  | registry (l : Label)
  | registerAgent (params : RegisterParams) (o : RegisterOutside) (attach : Option RegisterAttach)
  | scanPanes (scan : PaneScan)
  | resolveAgent (agentId : String)
  | resolveContainer (i : Nat)
  | requirePane (i : Nat)
  | attach (i : Nat) (target : AttachTarget) (o : Logs.Outside)
  | abandon (i : Nat)
  | logs (op : Logs.LogOp)
  | recovery (w : Logs.RecoveryWrite)

/-- The call goes on with `next` if the row it reads is active, and raises otherwise. -/
def LogState.check (s : LogState) (i : Nat) (active : Bool) (next : AttachStage) : LogState :=
  if active then { s with calls := s.calls.set i next } else { s with calls := s.calls.eraseIdx i }

def attachStep (v : AgentService) (s : LogState) : AttachLabel → Option LogState
  | .registry (.registerAgent ..) => none
  | .registry (.scanPanes _) => none
  | .registry l => (step v s.tables l).map fun t => { s with tables := t }
  | .registerAgent params o attach =>
    match registerAndAttach v s.tables s.logs params o attach with
    | .ok (t, logs) => some { s with tables := t, logs }
    | .error _ => some s
  | .scanPanes scan => do
    let t ← commitScan s.tables scan
    let attachments ← Logs.LogAttachments.cascadeToStaleForPanes s.logs.attachments scan.inactivate
      scan.startedAt
    pure { s with tables := t, logs := { s.logs with attachments } }
  | .resolveAgent agentId =>
    match s.tables.agents.get agentId with
    | some a => if a.active then some { s with calls := s.calls ++ [.agentResolved a] } else some s
    | none => some s
  | .resolveContainer i =>
    match s.calls[i]? with
    | some (.agentResolved a) =>
      some (s.check i ((s.tables.containers.get a.key.containerId).any ContainerRow.active)
        (.containerResolved a))
    | _ => none
  | .requirePane i =>
    match s.calls[i]? with
    | some (.containerResolved a) =>
      some (s.check i ((s.tables.panes.get a.key).any PaneRow.active) (.paneChecked a))
    | _ => none
  | .attach i target o =>
    match s.calls[i]? with
    | some (.paneChecked a) =>
      match Logs.attachLogLocked s.logs (attachCall a target .explicit) o with
      | .ok attached => some { s with logs := attached.tables, calls := s.calls.eraseIdx i }
      | .error _ => some { s with calls := s.calls.eraseIdx i }
    | _ => none
  | .abandon i => some { s with calls := s.calls.eraseIdx i }
  | .logs (.detach agentId o) => some { s with logs := (Logs.LogOp.detach agentId o).apply s.logs }
  | .logs (.advance agentId logPath a) =>
    some { s with logs := (Logs.LogOp.advance agentId logPath a).apply s.logs }
  | .logs _ => none
  | .recovery w => (w.apply s.logs).map fun logs => { s with logs }

/-! ## What a step does to the agents -/

variable {v : AgentService} {t t' : Tables} {logs : LogTables} {params : RegisterParams}
  {o : RegisterOutside} {a : AgentRecord} {s : LogState}

variable {logs' : LogTables} {l : Label} {target : AttachTarget} {attachments : Logs.LogAttachments}
  {attached : Logs.Attached} {i : Nat}

theorem registerAndAttach_effect {attach : Option RegisterAttach}
    (h : registerAndAttach v t logs params o attach = .ok (t', logs')) :
    ∃ registered, registerAgent v t params { o with attachLog := none } = .ok registered ∧
      registered.tables = t' ∧
      (attach = none ∧ logs' = logs ∨
        ∃ x, attach = some x ∧ attachLogInTransaction t' logs registered.agent x = .ok logs') := by
  obtain ⟨registered, hregister, h⟩ := bind_eq_ok.mp h
  refine ⟨registered, hregister, ?_⟩
  cases attach with
  | none =>
    cases h
    exact ⟨rfl, .inl ⟨rfl, rfl⟩⟩
  | some x =>
    obtain ⟨logs₁, hattach, h⟩ := bind_eq_ok.mp h
    cases h
    exact ⟨rfl, .inr ⟨x, rfl, hattach⟩⟩

/-- An agent keeps its id and its pane, and stays active unless a scan takes its pane away. -/
def AgentsKept (t t' : Tables) (gone : List PaneKey) : Prop :=
  ∀ a ∈ t.agents.rows, ∃ b ∈ t'.agents.rows, b.agentId = a.agentId ∧ b.key = a.key ∧
    (a.active = true → a.key ∉ gone → b.active = true)

theorem AgentsKept.refl (t : Tables) : AgentsKept t t [] := fun a ha => ⟨a, ha, rfl, rfl, fun h _ => h⟩

theorem agentsKept_updateAll {sel : AgentRecord → Bool} {p : AgentPatch}
    (hp : ∀ a, (p.set a).agentId = a.agentId ∧ (p.set a).key = a.key ∧
      (a.active = true → (p.set a).active = true)) :
    AgentsKept t { t with agents := t.agents.updateAll sel p } [] := by
  intro a ha
  refine ⟨Table.patched p sel a, ?_, ?_⟩
  · rw [rows_updateAll]
    exact mem_map.mpr ⟨a, ha, rfl⟩
  · unfold Table.patched
    split
    · exact ⟨(hp a).1, (hp a).2.1, fun h _ => (hp a).2.2 h⟩
    · exact ⟨rfl, rfl, fun h _ => h⟩

theorem agentsKept_commitScan {scan : PaneScan} (h : commitScan t scan = some t') :
    AgentsKept t t' scan.inactivate := by
  intro a ha
  rw [commitScan_agents h, rows_updateAll, rows_updateAll, map_map]
  refine ⟨_, mem_map.mpr ⟨a, ha, rfl⟩, ?_⟩
  by_cases hseen : a.key ∈ scan.upserts
  · by_cases hgone : a.key ∈ scan.inactivate
    · simp [Table.patched, updateLastSeenAt, cascadeInactive, hseen, hgone]
    · simp [Table.patched, updateLastSeenAt, hseen, hgone]
  · by_cases hgone : a.key ∈ scan.inactivate
    · simp [Table.patched, cascadeInactive, hseen, hgone]
    · simp [Table.patched, hseen, hgone]

def Label.gone : Label → List PaneKey
  | .scanPanes scan => scan.inactivate
  | _ => []

theorem Effect.agentsKept (h : Effect t l t') : AgentsKept t t' l.gone := by
  cases h with
  | same => exact fun a ha => ⟨a, ha, rfl, rfl, fun h _ => h⟩
  | created hpane hnew hparent hinsert =>
    intro a ha
    refine ⟨a, ?_, rfl, rfl, fun h _ => h⟩
    show a ∈ Table.rows _
    rw [(insert_eq_some hinsert).2]
    exact mem_append_left _ ha
  | reRegistered => exact agentsKept_updateAll fun a => ⟨rfl, rfl, fun _ => rfl⟩
  | roleSet | labelSet | capabilitySet => exact agentsKept_updateAll fun a => ⟨rfl, rfl, id⟩
  | scanned hscan => exact agentsKept_commitScan hscan
  | containers hscan =>
    obtain ⟨g, -, rfl⟩ := Option.map_eq_some_iff.mp hscan
    exact AgentsKept.refl t

theorem registerAgent_active {registered : Registered}
    (h : registerAgent v t params { o with attachLog := none } = .ok registered) :
    registered.agent ∈ registered.tables.agents.rows ∧ registered.agent.active = true := by
  obtain ⟨args, -, h⟩ := bind_eq_ok.mp h
  obtain ⟨registered', hrow, h⟩ := bind_eq_ok.mp h
  cases h
  obtain ⟨-, -, hrow⟩ := bind_eq_ok.mp hrow
  split at hrow
  · obtain ⟨-, -, hrow⟩ := bind_eq_ok.mp hrow
    obtain ⟨⟨agents, a⟩, hinsert, hrow⟩ := bind_eq_ok.mp hrow
    cases hrow
    obtain ⟨⟨agentId, rfl⟩, hinsert⟩ := insertWithSavepointRetry_eq_ok hinsert
    refine ⟨?_, rfl⟩
    rw [(insert_eq_some hinsert).2]
    exact mem_append_right _ (mem_singleton_self _)
  · rename_i existing hexisting
    have hmem := (selected_key hexisting).1
    unfold reRegisterAgent at hrow
    simp only at hrow
    split_ifs at hrow
    cases hrow
    refine ⟨?_, rfl⟩
    simp only [reRegistered, rows_updateAll]
    refine mem_map.mpr ⟨existing, hmem, ?_⟩
    unfold Table.patched
    rw [if_pos (by simp [ofAgentId])]

/-! ## What a step does to the attachments -/

def Deactivates (t t' : Logs.LogAttachments) : Prop :=
  ∀ r' ∈ t'.rows, ∃ r ∈ t.rows, r.agentId = r'.agentId ∧ r.key = r'.key ∧
    (r'.status = .active → r.status = .active)

theorem Deactivates.refl (t : Logs.LogAttachments) : Deactivates t t :=
  fun r hr => ⟨r, hr, rfl, rfl, id⟩

theorem deactivates_updateStatus {t t' : Logs.LogAttachments} {attachmentId lastStatusAt : String}
    {newStatus : Logs.AttachmentStatus} {supersededAt supersededBy : Option String}
    (h : Logs.LogAttachments.updateStatus t attachmentId newStatus lastStatusAt supersededAt
      supersededBy = some t') (hstatus : newStatus ≠ .active) : Deactivates t t' := by
  intro r' hr'
  rw [rows_rewrite h] at hr'
  obtain ⟨r, hr, rfl⟩ := mem_map.mp hr'
  refine ⟨r, hr, ?_⟩
  unfold Table.rewritten
  split
  · exact ⟨rfl, rfl, fun hactive => absurd hactive hstatus⟩
  · exact ⟨rfl, rfl, id⟩

theorem deactivates_supersede {t t' : Logs.LogAttachments} {target : Option LogAttachmentRecord}
    {newId now : String} (h : Logs.supersede t target newId now = .ok t') : Deactivates t t' := by
  cases target with
  | none =>
    cases h
    exact Deactivates.refl t
  | some r => exact deactivates_updateStatus (Logs.execute_eq_ok h) (by decide)

theorem deactivates_recovery {t t' : LogTables} {w : Logs.RecoveryWrite}
    (h : w.apply t = some t') : Deactivates t.attachments t'.attachments := by
  cases w with
  | stale attachmentId timestamp =>
    obtain ⟨attachments, hstatus, rfl⟩ := Option.map_eq_some_iff.mp h
    exact deactivates_updateStatus hstatus (by decide)
  | reset agentId logPath fileInode fileSizeSeen timestamp =>
    obtain ⟨offsets, -, rfl⟩ := Option.map_eq_some_iff.mp h
    exact Deactivates.refl _

theorem deactivates_detach (t : LogTables) (agentId : String) (o : Logs.Outside) :
    Deactivates t.attachments ((Logs.LogOp.detach agentId o).apply t).attachments := by
  simp only [Logs.LogOp.apply]
  split
  · rename_i hdetach
    obtain ⟨existing, -, -, -, hstatus⟩ := Logs.detach_eq_ok hdetach
    exact deactivates_updateStatus hstatus (by decide)
  · exact Deactivates.refl _

theorem deactivates_advance (t : LogTables) (agentId logPath : String)
    (a : Logs.LogOffsets.Advance) :
    Deactivates t.attachments ((Logs.LogOp.advance agentId logPath a).apply t).attachments := by
  simp only [Logs.LogOp.apply]
  split <;> exact Deactivates.refl _

/-! ## The invariant -/

def BoundTo (t : Tables) (r : LogAttachmentRecord) : Prop :=
  ∃ a ∈ t.agents.rows, a.agentId = r.agentId ∧ a.key = r.key ∧ (r.status = .active → a.active = true)

def StillActive (t : Tables) (a : AgentRecord) : Prop :=
  ∃ b ∈ t.agents.rows, b.agentId = a.agentId ∧ b.key = a.key ∧ b.active = true

structure BoundInv (s : LogState) : Prop where
  agents : AgentsOk s.tables
  bound : ∀ r ∈ s.logs.attachments.rows, BoundTo s.tables r
  calls : ∀ c ∈ s.calls, StillActive s.tables c.agent

theorem StillActive.kept {gone : List PaneKey}
    (h : StillActive t a) (hkept : AgentsKept t t' gone) (hgone : a.key ∉ gone) :
    StillActive t' a := by
  obtain ⟨b, hb, hid, hkey, hactive⟩ := h
  obtain ⟨c, hc, hid', hkey', hactive'⟩ := hkept b hb
  exact ⟨c, hc, hid'.trans hid, hkey'.trans hkey, hactive' hactive (by rwa [hkey])⟩

theorem BoundTo.kept {gone : List PaneKey} {r : LogAttachmentRecord}
    (h : BoundTo t r) (hkept : AgentsKept t t' gone) (hgone : r.status = .active → r.key ∉ gone) :
    BoundTo t' r := by
  obtain ⟨a, ha, hid, hkey, hactive⟩ := h
  obtain ⟨b, hb, hid', hkey', hactive'⟩ := hkept a ha
  exact ⟨b, hb, hid'.trans hid, hkey'.trans hkey,
    fun hr => hactive' (hactive hr) (by rw [hkey]; exact hgone hr)⟩

theorem bound_deactivates {attachments' : Logs.LogAttachments}
    (h : ∀ r ∈ attachments.rows, BoundTo t r) (hdeactivates : Deactivates attachments attachments') :
    ∀ r ∈ attachments'.rows, BoundTo t r := by
  intro r' hr'
  obtain ⟨r, hr, hid, hkey, hstatus⟩ := hdeactivates r' hr'
  obtain ⟨a, ha, hid', hkey', hactive⟩ := h r hr
  exact ⟨a, ha, hid'.trans hid, hkey'.trans hkey, fun hr => hactive (hstatus hr)⟩

theorem bound_attach {source : Logs.AttachmentSource} {o : Logs.Outside}
    (hbound : ∀ r ∈ logs.attachments.rows, BoundTo t r) (hactive : StillActive t a)
    (h : Logs.attachLogLocked logs (attachCall a target source) o = .ok attached) :
    ∀ r ∈ attached.tables.attachments.rows, BoundTo t r := by
  obtain ⟨b, hb, hid, hkey, hon⟩ := hactive
  cases Logs.attach_effect h with
  | active => exact hbound
  | @resumed existing newId attachments attachments' _ _ _ _ _ hexisting hprior hsupersede hstatus _ =>
    have hsuperseded := bound_deactivates hbound (deactivates_supersede hsupersede)
    have hfollows : Logs.Follows (fun _ => False) logs.attachments attachments :=
      .supersede hsupersede
    obtain ⟨hmem, hagent, -⟩ := Logs.LogAttachments.selectForAgentPath_eq_some hexisting
    intro r' hr'
    rw [rows_rewrite hstatus] at hr'
    obtain ⟨r, hr, rfl⟩ := mem_map.mp hr'
    unfold Table.rewritten
    split
    · rename_i hsel
      rw [decide_eq_true_eq] at hsel
      obtain ⟨c, hc, hcid, hckey, -⟩ := hsuperseded r hr
      -- the row that is resumed is one of the call's agent
      have hagent' : r.agentId = a.agentId :=
        (congrArg Prod.fst (hfollows.sameRow hmem hr hsel).agentPath).trans hagent
      have hsame : c = b :=
        inj_on_of_nodup_map t.agents.primary hc hb (hcid.trans (hagent'.trans hid.symm))
      exact ⟨c, hc, hcid, hckey, fun _ => hsame ▸ hon⟩
    · exact hsuperseded r hr
  | inserted hsupersede hrow _ =>
    have hsuperseded := bound_deactivates hbound (deactivates_supersede hsupersede)
    intro r hr
    rw [(insert_eq_some hrow).2] at hr
    rcases mem_append.mp hr with hr | hr
    · exact hsuperseded r hr
    · rw [mem_singleton.mp hr]
      exact ⟨b, hb, hid, hkey, fun _ => hon⟩

/-! ## One step -/

def AttachAllowed (s : LogState) : AttachLabel → Bool
  | .scanPanes scan => s.calls.all fun c => decide (c.agent.key ∉ scan.inactivate)
  | _ => true

theorem BoundInv.effect (h : BoundInv s)
    (heffect : Effect s.tables l t') (hgone : l.gone = []) : BoundInv { s with tables := t' } := by
  have hkept := heffect.agentsKept
  rw [hgone] at hkept
  exact ⟨h.agents.effect heffect, fun r hr => (h.bound r hr).kept hkept fun _ => not_mem_nil,
    fun c hc => (h.calls c hc).kept hkept not_mem_nil⟩

theorem BoundInv.deactivates (h : BoundInv s)
    (hdeactivates : Deactivates s.logs.attachments logs.attachments) :
    BoundInv { s with logs } :=
  ⟨h.agents, bound_deactivates h.bound hdeactivates, h.calls⟩

theorem BoundInv.eraseIdx (h : BoundInv s) (i : Nat) :
    BoundInv { s with calls := s.calls.eraseIdx i } :=
  ⟨h.agents, h.bound, fun c hc => h.calls c (mem_of_mem_eraseIdx hc)⟩

theorem BoundInv.check (h : BoundInv s) {c next : AttachStage}
    (hi : s.calls[i]? = some c) (hnext : next.agent = c.agent) (active : Bool) :
    BoundInv (s.check i active next) := by
  unfold LogState.check
  split
  · refine ⟨h.agents, h.bound, fun c' hc' => ?_⟩
    rcases mem_or_eq_of_mem_set hc' with hold | rfl
    · exact h.calls c' hold
    · rw [hnext]
      exact h.calls c (mem_of_getElem? hi)
  · exact h.eraseIdx i

theorem BoundInv.resolveAgent (h : BoundInv s) {agentId : String}
    (hget : s.tables.agents.get agentId = some a) (hactive : a.active = true) :
    BoundInv { s with calls := s.calls ++ [.agentResolved a] } := by
  refine ⟨h.agents, h.bound, fun c hc => ?_⟩
  rcases mem_append.mp hc with hold | hnew
  · exact h.calls c hold
  · rw [mem_singleton.mp hnew]
    exact ⟨a, mem_of_get hget, rfl, rfl, hactive⟩

theorem BoundInv.attach (h : BoundInv s) {o : Logs.Outside}
    (hi : s.calls[i]? = some (.paneChecked a))
    (hattach : Logs.attachLogLocked s.logs (attachCall a target .explicit) o = .ok attached) :
    BoundInv { s with logs := attached.tables, calls := s.calls.eraseIdx i } := by
  have hactive : StillActive s.tables a := h.calls _ (mem_of_getElem? hi)
  exact ⟨h.agents, bound_attach h.bound hactive hattach, (h.eraseIdx i).calls⟩

theorem BoundInv.scan {scan : PaneScan} (h : BoundInv s)
    (hcalls : ∀ c ∈ s.calls, c.agent.key ∉ scan.inactivate) (hscan : commitScan s.tables scan = some t')
    (hcascade : Logs.LogAttachments.cascadeToStaleForPanes s.logs.attachments scan.inactivate
      scan.startedAt = some attachments) :
    BoundInv { s with tables := t', logs := { s.logs with attachments } } := by
  have hkept := agentsKept_commitScan hscan
  refine ⟨h.agents.scan hscan, fun r' hr' => ?_, fun c hc => (h.calls c hc).kept hkept (hcalls c hc)⟩
  rw [Logs.LogAttachments.rows_cascadeToStaleForPanes hcascade] at hr'
  obtain ⟨r, hr, rfl⟩ := mem_map.mp hr'
  -- a row of a pane that is gone is not active any more
  by_cases hgone : r.key ∈ scan.inactivate ∧ r.status = .active
  · rw [if_pos hgone]
    obtain ⟨a, ha, hid, hkey, -⟩ := h.bound r hr
    have hstale : BoundTo s.tables ((Logs.LogAttachments.setStale scan.startedAt).set r) :=
      ⟨a, ha, hid, hkey, fun hactive => by cases hactive⟩
    exact hstale.kept hkept fun hactive => by cases hactive
  · rw [if_neg hgone]
    exact (h.bound r hr).kept hkept fun hactive hmem => hgone ⟨hmem, hactive⟩

theorem BoundInv.register {attach : Option RegisterAttach} (h : BoundInv s)
    (hok : registerAndAttach v s.tables s.logs params o attach = .ok (t', logs')) :
    BoundInv { s with tables := t', logs := logs' } := by
  obtain ⟨registered, hregister, rfl, hattach⟩ := registerAndAttach_effect hok
  have hinv : BoundInv { s with tables := registered.tables } :=
    h.effect (registerAgent_effect hregister) rfl
  rcases hattach with ⟨-, rfl⟩ | ⟨x, -, hx⟩
  · exact hinv
  · obtain ⟨-, -, hx⟩ := bind_eq_ok.mp hx
    obtain ⟨target, -, hx⟩ := bind_eq_ok.mp hx
    obtain ⟨hmem, hactive⟩ := registerAgent_active hregister
    unfold ofAttached at hx
    split at hx
    · rename_i hlocked
      cases hx
      exact ⟨hinv.agents, bound_attach hinv.bound ⟨_, hmem, rfl, rfl, hactive⟩ hlocked, hinv.calls⟩
    · cases hx

theorem BoundInv.attachStep {s' : LogState} {l : AttachLabel} (h : BoundInv s)
    (hok : AttachAllowed s l = true) (hstep : attachStep v s l = some s') : BoundInv s' := by
  cases l with
  | registry l =>
    cases l with
    | registerAgent params o => cases hstep
    | scanPanes scan => cases hstep
    | setRole | setLabel | setCapability | scanContainers =>
      simp only [Agents.attachStep] at hstep
      obtain ⟨t', ht', rfl⟩ := Option.map_eq_some_iff.mp hstep
      exact h.effect (step_effect ht') rfl
  | registerAgent params o attach =>
    simp only [Agents.attachStep] at hstep
    split at hstep
    · rename_i hregister
      cases hstep
      exact h.register hregister
    · cases hstep
      exact h
  | scanPanes scan =>
    obtain ⟨t', hscan, hstep⟩ := Option.bind_eq_some_iff.mp hstep
    obtain ⟨attachments, hcascade, hstep⟩ := Option.bind_eq_some_iff.mp hstep
    cases hstep
    have hcalls : ∀ c ∈ s.calls, c.agent.key ∉ scan.inactivate := fun c hc =>
      of_decide_eq_true (all_eq_true.mp hok c hc)
    exact h.scan hcalls hscan hcascade
  | resolveAgent agentId =>
    simp only [Agents.attachStep] at hstep
    split at hstep
    · rename_i a hget
      split at hstep
      · rename_i hactive
        cases hstep
        exact h.resolveAgent hget hactive
      · cases hstep
        exact h
    · cases hstep
      exact h
  | resolveContainer i | requirePane i =>
    simp only [Agents.attachStep] at hstep
    split at hstep <;> cases hstep
    rename_i hi
    refine h.check hi ?_ _
    rfl
  | attach i target o =>
    simp only [Agents.attachStep] at hstep
    split at hstep
    · rename_i a hi
      split at hstep
      · rename_i hattach
        cases hstep
        exact h.attach hi hattach
      · cases hstep
        exact h.eraseIdx i
    · cases hstep
  | abandon i =>
    cases hstep
    exact h.eraseIdx i
  | logs op =>
    cases op with
    | attach c o | cascade paneKeys now | recovery agentId logPath stat timestamp => cases hstep
    | detach agentId o =>
      cases hstep
      exact h.deactivates (deactivates_detach _ _ _)
    | advance agentId logPath a =>
      cases hstep
      exact h.deactivates (deactivates_advance _ _ _ _)
  | recovery w =>
    obtain ⟨logs', happly, rfl⟩ := Option.map_eq_some_iff.mp hstep
    exact h.deactivates (deactivates_recovery happly)

/-! ## The result -/

abbrev AttachReach (v : AgentService) : LogState → LogState → Prop :=
  Reach (attachStep v) fun s l => AttachAllowed s l = true

/-- As long as no scan takes away the pane of an `attach_log` call between the read of its agent and
its transaction, every active attachment has its pane active and its agent active on that pane. -/
theorem active_attachments_bound {v : AgentService} {s : LogState}
    (h : AttachReach v LogState.start s) :
    ∀ r ∈ s.logs.attachments.rows, r.status = .active →
      (∃ p, s.tables.panes.get r.key = some p ∧ p.active = true) ∧
      ∃ a, s.tables.agents.get r.agentId = some a ∧ a.key = r.key ∧ a.active = true := by
  have hstart : BoundInv LogState.start :=
    ⟨AgentsOk.empty, fun r hr => (by cases hr), fun c hc => (by cases hc)⟩
  have hinv : BoundInv s := Reach.invariant BoundInv hstart
    (fun _ _ _ hinv hok hstep => hinv.attachStep hok hstep) h
  intro r hr hactive
  obtain ⟨a, ha, hid, hkey, hon⟩ := hinv.bound r hr
  have hpane : s.tables.PaneActive a.key := (hinv.agents a ha).pane (hon hactive)
  rw [hkey] at hpane
  refine ⟨(Option.any_eq_true _ _).mp hpane, a, ?_, hkey, hon hactive⟩
  rw [← hid]
  exact get_of_mem ha

def sampleTarget : AttachTarget := ⟨"bench", "/logs/a", "/logs/a"⟩

def slaveLabels : List AttachLabel :=
  [.registry (.scanContainers [sampleContainer] []), .scanPanes ⟨[samplePane "%0"], [], "t1"⟩,
    .registerAgent (sampleSlave "%0") (sampleOutside "t2" 0) none]

def checkLabels : List AttachLabel :=
  [.resolveAgent (generateAgentId (sampleToken 0)), .resolveContainer 0, .requirePane 0]

def sampleAttach : AttachLabel := .attach 0 sampleTarget (Logs.sampleOutside "lat_1" "t3")

theorem active_attachments_bound_attached :
    ∃ s, AttachReach sampleService LogState.start s ∧
      ∃ r ∈ s.logs.attachments.rows, r.status = .active ∧
        (∃ p, s.tables.panes.get r.key = some p ∧ p.active = true) ∧
        ∃ a, s.tables.agents.get r.agentId = some a ∧ a.key = r.key ∧ a.active = true := by
  obtain ⟨s, hrun, r, hr, hstatus⟩ : ∃ s, runWhile (attachStep sampleService) AttachAllowed
      LogState.start (slaveLabels ++ checkLabels ++ [sampleAttach]) = some s ∧
      ∃ r ∈ s.logs.attachments.rows, r.status = .active := by decide +kernel
  have hreach : AttachReach sampleService LogState.start s := reach_of_runWhile .start hrun
  exact ⟨s, hreach, r, hr, hstatus, active_attachments_bound hreach r hr hstatus⟩

/-- The pane is gone after the checks: the scan finds no attachment, and the attach then makes an active
one, bound to an inactive pane and an inactive agent. -/
theorem attach_after_pane_gone :
    ((run (attachStep sampleService) LogState.start
      (slaveLabels ++ checkLabels ++ [.scanPanes ⟨[], [samplePane "%0"], "t2"⟩, sampleAttach])).map
      fun s => (s.logs.attachments.rows.map (fun r => (r.key, r.agentId, r.status)),
        s.tables.panes.rows, s.tables.agents.rows.map (fun a => (a.agentId, a.active))))
      = some ([(samplePane "%0", generateAgentId (sampleToken 0), .active)],
          [⟨samplePane "%0", false⟩], [(generateAgentId (sampleToken 0), false)]) := by decide +kernel

end AgentTower.Agents
