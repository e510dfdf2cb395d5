import AgentTower.Agents.Service

/-!
# What every committed state of the agents table keeps

`Effect` says once what a step can do to the tables.  What ties an active agent to an active pane is
the check inside the registration's transaction and the cascade inside the scan's.
-/

namespace AgentTower.Agents

open Transition Sql Fallible List Option Table
open Routing (PaneKey PaneRow ContainerRow Role Registry)
open Table (patched)

/-! ## What a step does -/

def ParentOk (t : Tables) (a : AgentRecord) : Prop :=
  ∀ p, a.parentAgentId = some p →
    a.role = .swarm ∧ ∃ parent, t.agents.get p = some parent ∧ parent.role = .slave

inductive Effect (t : Tables) : Label → Tables → Prop
  | same {l : Label} : Effect t l t
  | created {params : RegisterParams} {o : RegisterOutside} {args : RegisterArgs}
      {agentId : String} {agents : AgentTable} :
      t.boundPaneIsActive args.key = true →
      t.selectAgentByPaneKey args.key = none →
      ParentOk t (newAgent args o.now agentId) →
      t.agents.insert (newAgent args o.now agentId) = some agents →
      Effect t (.registerAgent params o) { t with agents }
  | reRegistered {params : RegisterParams} {o : RegisterOutside} {args : RegisterArgs}
      {existing : AgentRecord} :
      t.boundPaneIsActive args.key = true →
      t.selectAgentByPaneKey args.key = some existing →
      (∀ parent, args.parent = some parent → parent = existing.parentAgentId) →
      (existing.parentAgentId ≠ none → args.role.getD existing.role = .swarm) →
      Effect t (.registerAgent params o)
        { t with
          agents := t.agents.updateAll (ofAgentId existing.agentId)
            (reRegistration args existing o.now) }
  | roleSet {params : SetRoleParams} {role : Role} {fresh : AgentRecord} :
      validateRole params.role = .ok role →
      role ≠ .swarm →
      t.agents.get params.agentId = some fresh →
      Effect t (.setRole params)
        { t with
          agents := t.agents.updateAll (ofAgentId params.agentId)
            (updateAgentRole role (effectivePermissions role)) }
  | labelSet {params : SetFieldParams} {label : String} :
      Effect t (.setLabel params)
        { t with
          agents := t.agents.updateAll (ofAgentId params.agentId) (updateAgentLabel label) }
  | capabilitySet {params : SetFieldParams} {capability : Capability} :
      Effect t (.setCapability params)
        { t with
          agents := t.agents.updateAll (ofAgentId params.agentId)
            (updateAgentCapability capability) }
  | scanned {scan : PaneScan} {t' : Tables} :
      commitScan t scan = some t' → Effect t (.scanPanes scan) t'
  | containers {upserts : List ContainerRow} {inactivate : List String} {t' : Tables} :
      commitContainers t upserts inactivate = some t' →
      Effect t (.scanContainers upserts inactivate) t'

variable {t t' : Tables} {key : PaneKey} {p : AgentPatch} {agents : AgentTable}
  {a existing : AgentRecord} {args : RegisterArgs} {o : RegisterOutside} {registered : Registered}
  {now agentId : String} {v : AgentService} {l : Label}

theorem validateBoundPaneIsActive_eq_ok
    (h : validateBoundPaneIsActive t key = .ok ()) : t.boundPaneIsActive key = true := by
  unfold validateBoundPaneIsActive at h
  split at h
  · assumption
  · cases h

theorem validateParentForSwarm_eq_ok {p : String} (h : validateParentForSwarm t p = .ok ()) :
    ∃ parent, t.agents.get p = some parent ∧ parent.role = .slave := by
  unfold validateParentForSwarm at h
  obtain ⟨-, -, h⟩ := bind_eq_ok.mp h
  split at h
  · cases h
  · rename_i parent hget
    split_ifs at h with hactive hrole
    exact ⟨parent, hget, not_not.mp hrole⟩

theorem insertWithSavepointRetry_eq_ok {agents' : AgentTable}
    {record : String → AgentRecord} {tokens : List Token}
    (h : insertWithSavepointRetry agents record tokens = .ok (agents', a)) :
    (∃ agentId, a = record agentId) ∧ agents.insert a = some agents' := by
  induction tokens with
  | nil => cases h
  | cons token tokens ih =>
    unfold insertWithSavepointRetry at h
    simp only at h
    split at h
    · exact ih h
    · rename_i hinsert
      cases h
      exact ⟨⟨_, rfl⟩, hinsert⟩
    · cases h

theorem parentOk_of_validateNewParent
    (h : validateNewParent t a.role a.parentAgentId = .ok ()) : ParentOk t a := by
  intro p hp
  rw [hp] at h
  unfold validateNewParent at h
  simp only at h
  split_ifs at h with hrole
  exact ⟨not_not.mp hrole, validateParentForSwarm_eq_ok h⟩

theorem createAgent_eq_ok (h : createAgent t args o = .ok registered) :
    ∃ agentId agents, ParentOk t (newAgent args o.now agentId) ∧
      t.agents.insert (newAgent args o.now agentId) = some agents ∧
      registered = ⟨{ t with agents }, newAgent args o.now agentId, .created,
        some ⟨agentId, none, args.role.getD .unknown⟩⟩ := by
  unfold createAgent at h
  obtain ⟨_, hparent, h⟩ := bind_eq_ok.mp h
  obtain ⟨⟨agents, a⟩, hinsert, h⟩ := bind_eq_ok.mp h
  cases h
  obtain ⟨⟨agentId, rfl⟩, hinsert⟩ := insertWithSavepointRetry_eq_ok hinsert
  exact ⟨agentId, agents, parentOk_of_validateNewParent hparent, hinsert, rfl⟩

theorem reRegisterAgent_eq_ok (h : reRegisterAgent t args existing now = .ok registered) :
    (∀ parent, args.parent = some parent → parent = existing.parentAgentId) ∧
      (existing.parentAgentId ≠ none → args.role.getD existing.role = .swarm) ∧
      registered = reRegistered t args existing now := by
  unfold reRegisterAgent at h
  simp only at h
  split_ifs at h with himmutable hmaster hmismatch
  cases h
  have hsame : ∀ parent, args.parent = some parent → parent = existing.parentAgentId := by
    intro parent hparent
    by_contra hne
    exact himmutable (by rw [hparent]; simpa using hne)
  refine ⟨hsame, fun hparent => ?_, rfl⟩
  by_contra hrole
  refine hmismatch ⟨?_, hrole⟩
  -- the parent that is checked is the stored one, whether the call names it or not
  cases hargs : args.parent with
  | none => exact hparent
  | some parent =>
    have hstored := hsame parent hargs
    rw [getD_some, hstored]
    exact hparent

variable {params : RegisterParams} {α : Type} {sel : AgentRecord → Bool}

theorem registerAgent_eq_ok (h : registerAgent v t params o = .ok registered) :
    ∃ args, validateRegister v.schemaVersion params = .ok args ∧
      registerRow t args o = .ok registered := by
  unfold registerAgent at h
  obtain ⟨args, hargs, h⟩ := bind_eq_ok.mp h
  obtain ⟨registered', hrow, h⟩ := bind_eq_ok.mp h
  have hsame : registered' = registered := by
    split at h
    · cases h
      rfl
    · obtain ⟨-, -, h⟩ := bind_eq_ok.mp h
      cases h
      rfl
  exact ⟨args, hargs, hsame ▸ hrow⟩

theorem registerRow_eq_ok (h : registerRow t args o = .ok registered) :
    t.boundPaneIsActive args.key = true ∧
      (t.selectAgentByPaneKey args.key = none ∧ createAgent t args o = .ok registered ∨
        ∃ existing, t.selectAgentByPaneKey args.key = some existing ∧
          reRegisterAgent t args existing o.now = .ok registered) := by
  unfold registerRow at h
  obtain ⟨_, hpane, h⟩ := bind_eq_ok.mp h
  refine ⟨validateBoundPaneIsActive_eq_ok hpane, ?_⟩
  split at h
  · rename_i hnew
    exact .inl ⟨hnew, h⟩
  · rename_i existing hexisting
    exact .inr ⟨existing, hexisting, h⟩

theorem registerAgent_effect (h : registerAgent v t params o = .ok registered) :
    Effect t (.registerAgent params o) registered.tables := by
  obtain ⟨args, -, hrow⟩ := registerAgent_eq_ok h
  obtain ⟨hactive, ⟨hnew, hcreate⟩ | ⟨existing, hexisting, hagain⟩⟩ := registerRow_eq_ok hrow
  · obtain ⟨agentId, agents, hparent, hinsert, rfl⟩ := createAgent_eq_ok hcreate
    exact .created hactive hnew hparent hinsert
  · obtain ⟨hparent, hrole, rfl⟩ := reRegisterAgent_eq_ok hagain
    exact .reRegistered hactive hexisting hparent hrole

theorem selectActiveAgent_eq_ok {a : AgentRecord} :
    selectActiveAgent t agentId = .ok a ↔ t.agents.get agentId = some a ∧ a.active = true := by
  unfold selectActiveAgent
  cases t.agents.get agentId with
  | none => simp
  | some fresh =>
    simp only [Option.some.injEq]
    split_ifs with hactive
    · rw [Except.ok.injEq]
      exact ⟨fun h => ⟨h, h ▸ hactive⟩, And.left⟩
    · refine ⟨(fun h => by cases h), ?_⟩
      rintro ⟨rfl, h⟩
      exact absurd h hactive

theorem validateSetRole_eq_ok {params : SetRoleParams} {role : Role}
    (h : validateSetRole v params = .ok role) :
    validateRole params.role = .ok role ∧ role ≠ .swarm := by
  unfold validateSetRole at h
  obtain ⟨-, -, h⟩ := bind_eq_ok.mp h
  obtain ⟨-, -, h⟩ := bind_eq_ok.mp h
  obtain ⟨role', hrole, h⟩ := bind_eq_ok.mp h
  split_ifs at h with hswarm hmaster
  cases h
  exact ⟨hrole, hswarm⟩

theorem setRole_effect {params : SetRoleParams}
    {updated : Updated Role} (h : setRole v t params = .ok updated) :
    Effect t (.setRole params) updated.tables := by
  unfold setRole at h
  obtain ⟨role, hrole, h⟩ := bind_eq_ok.mp h
  obtain ⟨fresh, hfresh, h⟩ := bind_eq_ok.mp h
  obtain ⟨hvalid, hswarm⟩ := validateSetRole_eq_ok hrole
  split_ifs at h with hmaster hnoop
  · cases h
    exact .same
  · cases h
    exact .roleSet hvalid hswarm (selectActiveAgent_eq_ok.mp hfresh).1

theorem setField_eq_ok [DecidableEq α]
    {validate : String → Except RegistrationError α} {column : AgentRecord → α}
    {patch : α → AgentPatch} {params : SetFieldParams} {updated : Updated α}
    (h : setField v validate column patch t params = .ok updated) :
    updated.tables = t ∨ ∃ value, validate params.value = .ok value ∧ updated.tables =
      { t with agents := t.agents.updateAll (ofAgentId params.agentId) (patch value) } := by
  unfold setField at h
  obtain ⟨-, -, h⟩ := bind_eq_ok.mp h
  obtain ⟨-, -, h⟩ := bind_eq_ok.mp h
  obtain ⟨value, hvalue, h⟩ := bind_eq_ok.mp h
  obtain ⟨fresh, -, h⟩ := bind_eq_ok.mp h
  split_ifs at h
  · cases h
    exact .inl rfl
  · cases h
    exact .inr ⟨value, hvalue, rfl⟩

theorem effect_after {tables : α → Tables} {result : Except RegistrationError α}
    (h : ∀ a, result = .ok a → Effect t l (tables a)) : Effect t l (t.after tables result) := by
  cases result with
  | error e => exact .same
  | ok a => exact h a rfl

theorem step_effect (h : step v t l = some t') : Effect t l t' := by
  cases l with
  | registerAgent params o =>
    cases h
    exact effect_after fun _ hok => registerAgent_effect hok
  | setRole params =>
    cases h
    exact effect_after fun _ hok => setRole_effect hok
  | setLabel params =>
    cases h
    refine effect_after fun updated hok => ?_
    rcases setField_eq_ok hok with hsame | ⟨value, -, hset⟩
    · rw [hsame]
      exact .same
    · rw [hset]
      exact .labelSet
  | setCapability params =>
    cases h
    refine effect_after fun updated hok => ?_
    rcases setField_eq_ok hok with hsame | ⟨value, -, hset⟩
    · rw [hsame]
      exact .same
    · rw [hset]
      exact .capabilitySet
  | scanPanes scan => exact .scanned h
  | scanContainers upserts inactivate => exact .containers h

/-! ## Rows that are kept -/

/-- `t'` has every row of `t`, perhaps with other values in the columns that may change. -/
def Kept (t t' : Tables) : Prop :=
  ∀ a ∈ t.agents.rows, ∃ b ∈ t'.agents.rows, b.identity = a.identity

theorem Kept.refl (t : Tables) : Kept t t := fun a ha => ⟨a, ha, rfl⟩

theorem Kept.trans {t'' : Tables} (h : Kept t t') (h' : Kept t' t'') : Kept t t'' := by
  intro a ha
  obtain ⟨b, hb, hid⟩ := h a ha
  obtain ⟨c, hc, hid'⟩ := h' b hb
  exact ⟨c, hc, hid'.trans hid⟩

/-- The `SET` part writes none of the columns of the identity. -/
def KeepsIdentity (p : AgentPatch) : Prop := ∀ a, (p.set a).identity = a.identity

theorem identity_patched (h : KeepsIdentity p) (sel : AgentRecord → Bool)
    (a : AgentRecord) : (patched p sel a).identity = a.identity := by
  unfold patched
  split
  · exact h a
  · rfl

theorem kept_updateAll (hp : KeepsIdentity p) (hbefore : Kept t { t with agents })
    (h : t'.agents = agents.updateAll sel p) : Kept t t' := by
  intro a ha
  obtain ⟨b, hb, hid⟩ := hbefore a ha
  refine ⟨patched p sel b, ?_, (identity_patched hp sel b).trans hid⟩
  rw [h, rows_updateAll]
  exact mem_map.mpr ⟨b, hb, rfl⟩

theorem commitScan_agents {scan : PaneScan} (h : commitScan t scan = some t') :
    t'.agents = (t.agents.updateAll (fun a => decide (a.key ∈ scan.upserts))
      (updateLastSeenAt scan.startedAt)).updateAll
        (fun a => decide (a.key ∈ scan.inactivate)) cascadeInactive := by
  obtain ⟨g, -, rfl⟩ := Option.map_eq_some_iff.mp h
  rfl

theorem Effect.kept (h : Effect t l t') : Kept t t' := by
  cases h with
  | same => exact Kept.refl t
  | created hpane hnew hparent hinsert =>
    intro a ha
    refine ⟨a, ?_, rfl⟩
    show a ∈ Table.rows _
    rw [(insert_eq_some hinsert).2]
    exact mem_append_left _ ha
  | reRegistered | roleSet | labelSet | capabilitySet =>
    exact kept_updateAll (fun _ => rfl) (Kept.refl t) rfl
  | @scanned scan _ hscan =>
    -- two updates, of which the second takes the rows of the first
    have hseen : Kept t { t with
        agents := t.agents.updateAll (fun a => decide (a.key ∈ scan.upserts))
          (updateLastSeenAt scan.startedAt) } :=
      kept_updateAll (fun _ => rfl) (Kept.refl t) rfl
    exact kept_updateAll (fun _ => rfl) hseen (commitScan_agents hscan)
  | containers hscan =>
    obtain ⟨g, -, rfl⟩ := Option.map_eq_some_iff.mp hscan
    exact Kept.refl t

/-! ## Panes under a scan -/

def Tables.PaneActive (t : Tables) (key : PaneKey) : Prop :=
  (t.panes.get key).any PaneRow.active = true

theorem paneActive_of_boundPaneIsActive
    (h : t.boundPaneIsActive key = true) : t.PaneActive key := by
  unfold Tables.boundPaneIsActive at h
  exact (Bool.and_eq_true_iff.mp h).1

/-- An upsert can only make a pane active, and the update after it only inactive. -/
theorem paneActive_commitScan {scan : PaneScan} (h : commitScan t scan = some t') :
    t'.PaneActive key ↔ key ∉ scan.inactivate ∧ (key ∈ scan.upserts ∨ t.PaneActive key) := by
  obtain ⟨g, hg, rfl⟩ := Option.map_eq_some_iff.mp h
  show (g.panes.get key).any PaneRow.active = true ↔ _
  rw [Registry.get_reconcilePanes hg, Option.any_map]
  by_cases hgone : key ∈ scan.inactivate
  · simp [hgone]
  · by_cases hseen : key ∈ scan.upserts
    · simp [hgone, hseen]
    · simp [hgone, hseen, Tables.PaneActive, Tables.registry]

/-! ## The invariant -/

structure AgentOk (t : Tables) (a : AgentRecord) : Prop where
  pane : a.active = true → t.PaneActive a.key
  permissions : a.effectivePermissions = effectivePermissions a.role
  container : a.key.containerId ≠ ""

def AgentsOk (t : Tables) : Prop := ∀ a ∈ t.agents.rows, AgentOk t a

theorem AgentsOk.empty : AgentsOk Tables.empty := by
  intro a ha
  cases ha

theorem AgentsOk.updateAll (h : AgentsOk t)
    (hp : ∀ a ∈ t.agents.rows, sel a = true → AgentOk t (p.set a)) :
    AgentsOk { t with agents := t.agents.updateAll sel p } := by
  intro a ha
  obtain ⟨b, hb, rfl⟩ := mem_map.mp (rows_updateAll .. ▸ ha)
  have hok : AgentOk t (patched p sel b) := by
    unfold patched
    split
    · rename_i hsel
      exact hp b hb hsel
    · exact h b hb
  exact ⟨hok.pane, hok.permissions, hok.container⟩

theorem selected_key (h : t.selectAgentByPaneKey key = some existing) :
    existing ∈ t.agents.rows ∧ existing.key = key :=
  ⟨mem_of_find?_eq_some h, by simpa using List.find?_some h⟩

theorem eq_of_ofAgentId (ha : a ∈ t.agents.rows)
    (hexisting : existing ∈ t.agents.rows) (h : ofAgentId existing.agentId a = true) :
    a = existing := by
  have hid : a.agentId = existing.agentId := by simpa [ofAgentId] using h
  exact inj_on_of_nodup_map t.agents.primary ha hexisting hid

theorem AgentsOk.scan {scan : PaneScan} (h : AgentsOk t)
    (hscan : commitScan t scan = some t') : AgentsOk t' := by
  intro a ha
  rw [commitScan_agents hscan, rows_updateAll, rows_updateAll] at ha
  obtain ⟨b, hb, rfl⟩ := mem_map.mp ha
  obtain ⟨c, hc, rfl⟩ := mem_map.mp hb
  -- `last_seen_at` is in none of the conditions
  have hseen : AgentOk t (patched (updateLastSeenAt scan.startedAt)
      (fun a => decide (a.key ∈ scan.upserts)) c) := by
    have hok := h c hc
    unfold patched
    split
    · exact ⟨hok.pane, hok.permissions, hok.container⟩
    · exact hok
  generalize patched (updateLastSeenAt scan.startedAt) _ c = b at hseen
  unfold patched
  by_cases hkey : b.key ∈ scan.inactivate
  · rw [if_pos (decide_eq_true hkey)]
    exact ⟨fun hoff => (by cases hoff), hseen.permissions, hseen.container⟩
  · rw [if_neg (by simpa using hkey)]
    exact ⟨fun hon => (paneActive_commitScan hscan).mpr ⟨hkey, .inr (hseen.pane hon)⟩, hseen.permissions,
      hseen.container⟩

theorem AgentsOk.effect (h : AgentsOk t) (heffect : Effect t l t') : AgentsOk t' := by
  cases heffect with
  | same => exact h
  | @created params o args agentId agents hpane hnew hparent hinsert =>
    intro a ha
    rcases mem_append.mp ((insert_eq_some hinsert).2 ▸ ha) with hold | hlast
    · have hok := h a hold
      exact ⟨hok.pane, hok.permissions, hok.container⟩
    · rw [mem_singleton.mp hlast]
      exact ⟨fun _ => paneActive_of_boundPaneIsActive hpane, rfl, args.container_ne⟩
  | @reRegistered params o args existing hpane hexisting hparent hrole =>
    -- the pane was checked in the same transaction
    obtain ⟨hmem, hkey⟩ := selected_key hexisting
    refine h.updateAll fun a ha hsel => ?_
    rw [eq_of_ofAgentId ha hmem hsel]
    refine ⟨fun _ => ?_, rfl, (h existing hmem).container⟩
    show t.PaneActive existing.key
    rw [hkey]
    exact paneActive_of_boundPaneIsActive hpane
  | roleSet hrole hswarm hfresh =>
    exact h.updateAll fun a ha _ => ⟨(h a ha).pane, rfl, (h a ha).container⟩
  | labelSet | capabilitySet =>
    exact h.updateAll fun a ha _ => ⟨(h a ha).pane, (h a ha).permissions, (h a ha).container⟩
  | scanned hscan => exact h.scan hscan
  | containers hscan =>
    obtain ⟨g, -, rfl⟩ := Option.map_eq_some_iff.mp hscan
    intro a ha
    exact ⟨(h a ha).pane, (h a ha).permissions, (h a ha).container⟩

abbrev Reachable (v : AgentService) : Tables → Prop :=
  Reach (step v) anyStep Tables.empty

theorem Reachable.agentsOk (h : Reachable v t) : AgentsOk t :=
  Reach.invariant AgentsOk AgentsOk.empty
    (fun _ _ _ hok _ hstep => hok.effect (step_effect hstep)) h

theorem kept_of_reach {ok : Tables → Label → Prop} (h : Reach (step v) ok t t') : Kept t t' :=
  Reach.invariant (Kept t) (Kept.refl t)
    (fun _ _ _ hkept _ hstep => hkept.trans (step_effect hstep).kept) h

/-- In every committed state an active agent's pane is active, a pane has at most one agent and the
permissions are those of the role; no later state changes what a row was inserted with. -/
theorem committed_agents_ok {v : AgentService} {t : Tables} (h : Reachable v t) :
    (∀ a ∈ t.agents.rows, a.active = true → ∃ p, t.panes.get a.key = some p ∧ p.active = true) ∧
      (∀ a ∈ t.agents.rows, ∀ b ∈ t.agents.rows, a.key = b.key → a = b) ∧
      (∀ a ∈ t.agents.rows, a.effectivePermissions = effectivePermissions a.role) ∧
      (∀ t', Reach (step v) anyStep t t' → ∀ a ∈ t.agents.rows,
        ∃ b, t'.agents.get a.agentId = some b ∧ b.agentId = a.agentId ∧ b.key = a.key ∧
          b.parentAgentId = a.parentAgentId ∧ b.createdAt = a.createdAt) := by
  have hok := h.agentsOk
  refine ⟨?_, ?_, fun a ha => (hok a ha).permissions, ?_⟩
  · intro a ha hactive
    exact (any_eq_true _ _).mp ((hok a ha).pane hactive)
  · intro a ha b hb hkey
    exact eq_of_index ha hb rfl (congrArg some hkey.symm)
  · intro t' hreach a ha
    obtain ⟨b, hb, hid⟩ := kept_of_reach hreach a ha
    simp only [AgentRecord.identity, Prod.mk.injEq] at hid
    obtain ⟨hagentId, hkey, hparent, hcreated⟩ := hid
    refine ⟨b, ?_, hagentId, hkey, hparent, hcreated⟩
    rw [← hagentId]
    exact get_of_mem hb

def sampleService : AgentService := ⟨8⟩

def sampleContainer : ContainerRow := ⟨"c0", "bench", none, true⟩

def samplePane (paneId : String) : PaneKey := ⟨"c0", "/tmp/tmux/default", "main", 0, 0, paneId⟩

instance neZeroSixteen : NeZero 16 := ⟨by decide⟩

def sampleToken (digit : Fin 16) : Token := fun _ => digit

def sampleOutside (now : String) (digit : Fin 16) : RegisterOutside :=
  ⟨now, fun _ => sampleToken digit, none⟩

def bareParams (paneId : String) : RegisterParams :=
  ⟨some 8, "c0", samplePane paneId, none, none, none, none, none⟩

def sampleSlave (paneId : String) : RegisterParams :=
  { bareParams paneId with role := some "slave" }

def sampleSwarm (paneId parent : String) : RegisterParams :=
  { bareParams paneId with role := some "swarm", parentAgentId := some (some parent) }

def setupLabels : List Label :=
  [.scanContainers [sampleContainer] [], .scanPanes ⟨[samplePane "%0", samplePane "%1"], [], "t1"⟩,
    .registerAgent (sampleSlave "%0") (sampleOutside "t2" 0)]

def paneGoneLabels : List Label :=
  setupLabels ++ [.scanPanes ⟨[samplePane "%1"], [samplePane "%0"], "t3"⟩]

theorem committed_agents_ok_paneGone :
    ∃ t, Reachable sampleService t ∧
      (t.agents.get "agt_000000000000").any (fun a => !a.active) = true ∧
      (∀ a ∈ t.agents.rows, a.effectivePermissions = effectivePermissions a.role) := by
  obtain ⟨t, ht, hgone⟩ : ∃ t, run (step sampleService) Tables.empty paneGoneLabels = some t ∧
      (t.agents.get "agt_000000000000").any (fun a => !a.active) = true := by decide +kernel
  have hreach := reach_of_run ht
  exact ⟨t, hreach, hgone, (committed_agents_ok hreach).2.2.1⟩

end AgentTower.Agents
