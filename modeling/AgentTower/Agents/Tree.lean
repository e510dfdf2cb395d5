import AgentTower.Agents.Invariants
import AgentTower.Lib.Forest

/-!
# Parents and roles

A swarm member names an active slave as its parent when it is created, and keeps it.  `set_role` looks
at neither the parent nor the children: a child can become a slave with children of its own, and one
that is no swarm member any more cannot be registered again.
-/

namespace AgentTower.Agents

open Transition Sql Fallible List Table
open Routing (PaneKey Role)

/-! ## Where a row comes from -/

/-- What a step can have done to a row that it leaves in the table. -/
inductive Origin (t : Tables) (l : Label) (b : AgentRecord) : Prop
  | kept (a : AgentRecord) :
      a ∈ t.agents.rows → a.identity = b.identity → a.role = b.role → Origin t l b
  | new :
      t.agents.get b.agentId = none → ParentOk t b →
      (b.role = .swarm → b.parentAgentId ≠ none) → Origin t l b
  | reRegistered (a : AgentRecord) :
      a ∈ t.agents.rows → a.identity = b.identity → (a.parentAgentId ≠ none → b.role = .swarm) →
      (b.role = .swarm → a.parentAgentId ≠ none ∨ a.role = .swarm) → Origin t l b
  | roleSet (a : AgentRecord) (params : SetRoleParams) :
      l = .setRole params → a ∈ t.agents.rows → a.agentId = params.agentId →
      a.identity = b.identity → validateRole params.role = .ok b.role → b.role ≠ .swarm →
      Origin t l b

variable {t t' : Tables} {l : Label} {sel : AgentRecord → Bool} {p : AgentPatch}
  {args : RegisterArgs} {agentId : String} {a b : AgentRecord} {v : AgentService}

theorem origin_updateAll (h : ∀ a ∈ t.agents.rows, sel a = true → Origin t l (p.set a)) :
    ∀ b ∈ (t.agents.updateAll sel p).rows, Origin t l b := by
  intro b hb
  rw [rows_updateAll] at hb
  obtain ⟨a, ha, rfl⟩ := mem_map.mp hb
  unfold Table.patched
  split
  · rename_i hsel
    exact h a ha hsel
  · exact .kept a ha rfl rfl

theorem swarm_has_parent {now : String} (h : (newAgent args now agentId).role = .swarm) :
    (newAgent args now agentId).parentAgentId ≠ none := by
  have hrole : args.role = some .swarm := by
    cases hargs : args.role with
    | none =>
      have hdefault : args.role.getD .unknown = .swarm := h
      rw [hargs] at hdefault
      cases hdefault
    | some role =>
      have hgiven : args.role.getD .unknown = .swarm := h
      rw [hargs] at hgiven
      exact congrArg some hgiven
  obtain ⟨p, hp⟩ := args.swarm_parent hrole
  show givenParent args.parent ≠ none
  rw [hp]
  simp [givenParent]

theorem reRegistered_swarm {existing : AgentRecord}
    (hparent : ∀ parent, args.parent = some parent → parent = existing.parentAgentId)
    (h : args.role.getD existing.role = .swarm) :
    existing.parentAgentId ≠ none ∨ existing.role = .swarm := by
  cases hargs : args.role with
  | none =>
    rw [hargs] at h
    exact .inr h
  | some role =>
    have hrole : args.role = some .swarm := by
      rw [hargs] at h ⊢
      exact congrArg some h
    obtain ⟨p, hp⟩ := args.swarm_parent hrole
    have hstored := hparent (some p) hp
    rw [← hstored]
    exact .inl (by simp)

theorem Effect.origin (h : Effect t l t') : ∀ b ∈ t'.agents.rows, Origin t l b := by
  cases h with
  | same => exact fun b hb => .kept b hb rfl rfl
  | @created params o args agentId agents hpane hnew hparent hinsert =>
    intro b hb
    obtain ⟨hfree, hrows⟩ := insert_eq_some hinsert
    rcases mem_append.mp (hrows ▸ hb) with hold | hlast
    · exact .kept b hold rfl rfl
    · rw [mem_singleton.mp hlast]
      exact .new hfree hparent swarm_has_parent
  | @reRegistered params o args existing hpane hexisting hparent hrole =>
    -- the update is by id, and the row with the id is the one that was found on the pane
    refine origin_updateAll fun a ha hsel => ?_
    obtain ⟨hmem, -⟩ := selected_key hexisting
    rw [eq_of_ofAgentId ha hmem hsel]
    exact .reRegistered existing hmem rfl hrole (reRegistered_swarm hparent)
  | @roleSet params role fresh hrole hswarm hfresh =>
    refine origin_updateAll fun a ha hsel => ?_
    have hid : a.agentId = params.agentId := by simpa [ofAgentId] using hsel
    exact .roleSet a params rfl ha hid rfl hrole hswarm
  | labelSet | capabilitySet => exact origin_updateAll fun a ha _ => .kept a ha rfl rfl
  | @scanned scan _ hscan =>
    intro b hb
    rw [commitScan_agents hscan, rows_updateAll, rows_updateAll] at hb
    obtain ⟨seen, hseen, rfl⟩ := mem_map.mp hb
    obtain ⟨a, ha, rfl⟩ := mem_map.mp hseen
    refine .kept a ha ?_ ?_
    · rw [identity_patched (fun _ => rfl), identity_patched (fun _ => rfl)]
    · unfold Table.patched
      split <;> split <;> rfl
  | containers hscan =>
    obtain ⟨g, -, rfl⟩ := Option.map_eq_some_iff.mp hscan
    exact fun b hb => .kept b hb rfl rfl

theorem parent_of_identity (h : a.identity = b.identity) : a.parentAgentId = b.parentAgentId := by
  simp only [AgentRecord.identity, Prod.mk.injEq] at h
  exact h.2.2.1

theorem agentId_of_identity (h : a.identity = b.identity) : a.agentId = b.agentId := by
  simp only [AgentRecord.identity, Prod.mk.injEq] at h
  exact h.1

theorem Origin.old_or_new (h : Origin t l b) :
    (∃ a ∈ t.agents.rows, a.identity = b.identity) ∨
      (t.agents.get b.agentId = none ∧ ParentOk t b) := by
  cases h with
  | kept a ha hid hrole | reRegistered a ha hid hrole hswarm
  | roleSet a params hl ha hagent hid hrole hswarm =>
    exact .inl ⟨a, ha, hid⟩
  | new hfree hparent hswarm => exact .inr ⟨hfree, hparent⟩

theorem Kept.get (h : Kept t t') (hget : t.agents.get agentId = some a) :
    ∃ b, t'.agents.get agentId = some b ∧ b.identity = a.identity := by
  obtain ⟨b, hb, hid⟩ := h a (mem_of_get hget)
  refine ⟨b, ?_, hid⟩
  rw [← key_of_get hget, ← agentId_of_identity hid]
  exact Table.get_of_mem hb

/-! ## The parent links -/

def Tables.links (t : Tables) : Forest.Links String :=
  t.agents.rows.map fun a => (a.agentId, a.parentAgentId)

open Tables (empty links)

theorem links_updateAll (hp : KeepsIdentity p) :
    links { t with agents := t.agents.updateAll sel p } = t.links := by
  unfold links
  rw [rows_updateAll, map_map]
  refine map_congr_left fun a _ => ?_
  have hid := identity_patched hp sel a
  exact Prod.ext (agentId_of_identity hid) (parent_of_identity hid)

theorem grown_updateAll (hgrown : Forest.Grown t.links) (hp : KeepsIdentity p) :
    Forest.Grown (links { t with agents := t.agents.updateAll sel p }) := by
  rw [links_updateAll hp]
  exact hgrown

theorem map_fst_links (t : Tables) :
    t.links.map Prod.fst = t.agents.rows.map AgentRecord.agentId := by
  unfold links
  rw [map_map]
  rfl

theorem grown_insert {agents : AgentTable} (hgrown : Forest.Grown t.links) (hparent : ParentOk t a)
    (hinsert : t.agents.insert a = some agents) :
    Forest.Grown (links { t with agents }) := by
  obtain ⟨hfree, hrows⟩ := insert_eq_some hinsert
  have hlinks : links { t with agents }
      = t.links ++ [(a.agentId, a.parentAgentId)] := by
    unfold links
    rw [hrows, map_append, map_singleton]
  rw [hlinks]
  refine .snoc hgrown ?_ ?_
  · rw [map_fst_links]
    exact get_eq_none_iff.mp hfree
  · intro p hp
    obtain ⟨-, parent, hget, -⟩ := hparent p hp
    rw [map_fst_links, ← key_of_get hget]
    exact mem_map.mpr ⟨parent, mem_of_get hget, rfl⟩

theorem Effect.grown (h : Effect t l t')
    (hgrown : Forest.Grown t.links) : Forest.Grown t'.links := by
  cases h with
  | same => exact hgrown
  | created hpane hnew hparent hinsert => exact grown_insert hgrown hparent hinsert
  | reRegistered | roleSet | labelSet | capabilitySet => exact grown_updateAll hgrown fun _ => rfl
  | @scanned scan _ hscan =>
    have hagents := commitScan_agents hscan
    unfold links at hgrown ⊢
    rw [hagents]
    exact grown_updateAll (t := { t with agents := t.agents.updateAll _ _ })
      (grown_updateAll hgrown fun _ => rfl) fun _ => rfl
  | containers hscan =>
    obtain ⟨g, -, rfl⟩ := Option.map_eq_some_iff.mp hscan
    exact hgrown

theorem Reachable.grown (h : Reachable v t) : Forest.Grown t.links :=
  Reach.invariant (fun t => Forest.Grown t.links) .nil
    (fun _ _ _ hgrown _ hstep => (step_effect hstep).grown hgrown) h

/-! ## Swarm members -/

def SwarmInv (t : Tables) : Prop :=
  ∀ a ∈ t.agents.rows, a.role = .swarm → a.parentAgentId ≠ none

theorem SwarmInv.effect (h : SwarmInv t) (heffect : Effect t l t') : SwarmInv t' := by
  intro b hb hrole
  cases heffect.origin b hb with
  | kept a ha hid hsame =>
    rw [← parent_of_identity hid]
    exact h a ha (hsame.trans hrole)
  | new hfree hparent hswarm => exact hswarm hrole
  | reRegistered a ha hid hchild hswarm =>
    rw [← parent_of_identity hid]
    rcases hswarm hrole with hparent | hbefore
    · exact hparent
    · exact h a ha hbefore
  | roleSet a params hl ha hagent hid hvalid hswarm => exact absurd hrole hswarm

theorem Reachable.swarmInv (h : Reachable v t) : SwarmInv t :=
  Reach.invariant SwarmInv (fun _ ha => (by cases ha))
    (fun _ _ _ hinv _ hstep => hinv.effect (step_effect hstep)) h

/-- The agent was created on the way to `t`, in a state in which the parent was a slave. -/
def CreatedUnderSlave (v : AgentService) (t : Tables) (agentId parentId : String) : Prop :=
  ∃ t₀ l t₁ child parent, Reachable v t₀ ∧ step v t₀ l = some t₁ ∧
    Reach (step v) anyStep t₁ t ∧
    t₀.agents.get agentId = none ∧ t₁.agents.get agentId = some child ∧
    child.parentAgentId = some parentId ∧
    t₀.agents.get parentId = some parent ∧ parent.role = .slave

theorem CreatedUnderSlave.next {parentId : String} (h : CreatedUnderSlave v t agentId parentId)
    (hstep : step v t l = some t') : CreatedUnderSlave v t' agentId parentId := by
  obtain ⟨t₀, l₀, t₁, child, parent, hreach, hcreate, hlater, hrest⟩ := h
  exact ⟨t₀, l₀, t₁, child, parent, hreach, hcreate, hlater.next trivial hstep, hrest⟩

theorem Reachable.createdUnderSlave (h : Reachable v t) :
    ∀ a ∈ t.agents.rows, ∀ p, a.parentAgentId = some p → CreatedUnderSlave v t a.agentId p := by
  -- a link is made with its row, in the step that inserts it, and stays
  induction h with
  | start =>
    intro a ha
    cases ha
  | @next t t' l hreach _ hstep ih =>
    intro b hb p hp
    rcases ((step_effect hstep).origin b hb).old_or_new with ⟨a, ha, hid⟩ | ⟨hfree, hparent⟩
    · rw [← agentId_of_identity hid]
      exact (ih a ha p ((parent_of_identity hid).trans hp)).next hstep
    · obtain ⟨-, parent, hget, hslave⟩ := hparent p hp
      exact ⟨t, l, t', b, parent, hreach, hstep, .start, hfree, Table.get_of_mem hb, hp, hget,
        hslave⟩

/-! ## Two levels -/

def keepsChildrenSwarm (t : Tables) : Label → Bool
  | .setRole params =>
    decide (params.role ≠ "slave") ||
      (t.agents.get params.agentId).all fun a => a.parentAgentId.isNone
  | _ => true

abbrev ReachableKeeping (v : AgentService) : Tables → Prop :=
  Reach (step v) (fun t l => keepsChildrenSwarm t l = true) empty

structure LevelInv (t : Tables) : Prop where
  child : ∀ a ∈ t.agents.rows, a.parentAgentId ≠ none → a.role ≠ .slave
  root : ∀ a ∈ t.agents.rows, ∀ p, a.parentAgentId = some p →
    ∃ parent, t.agents.get p = some parent ∧ parent.parentAgentId = none

theorem LevelInv.effect (h : LevelInv t) (heffect : Effect t l t')
    (hok : keepsChildrenSwarm t l = true) : LevelInv t' := by
  -- a root that was there is one afterwards
  have hstays : ∀ p parent, t.agents.get p = some parent → parent.parentAgentId = none →
      ∃ parent', t'.agents.get p = some parent' ∧ parent'.parentAgentId = none := by
    intro p parent hget hroot
    obtain ⟨parent', hget', hid⟩ := heffect.kept.get hget
    exact ⟨parent', hget', (parent_of_identity hid).trans hroot⟩
  constructor
  · intro b hb hparent
    cases heffect.origin b hb with
    | kept a ha hid hsame =>
      rw [← hsame]
      exact h.child a ha (by rw [parent_of_identity hid]; exact hparent)
    | new hfree hnew hswarm =>
      obtain ⟨p, hp⟩ := Option.ne_none_iff_exists'.mp hparent
      rw [(hnew p hp).1]
      exact (by decide)
    | reRegistered a ha hid hchild hswarm =>
      rw [hchild (by rw [parent_of_identity hid]; exact hparent)]
      exact (by decide)
    | roleSet a params hl ha hagent hid hvalid hswarm =>
      intro hslave
      rw [hslave] at hvalid
      -- the step condition says that the agent has no parent
      have hnone : a.parentAgentId = none := by
        have hget := Table.get_of_mem ha
        rw [hagent] at hget
        subst hl
        simpa [keepsChildrenSwarm, validateRole_slave hvalid, hget] using hok
      exact hparent (by rw [← parent_of_identity hid]; exact hnone)
  · intro b hb p hp
    rcases (heffect.origin b hb).old_or_new with ⟨a, ha, hid⟩ | ⟨-, hparent⟩
    · obtain ⟨parent, hget, hroot⟩ := h.root a ha p ((parent_of_identity hid).trans hp)
      exact hstays p parent hget hroot
    · -- the parent of a new row is a slave, and a slave has no parent
      obtain ⟨-, parent, hget, hslave⟩ := hparent p hp
      have hroot : parent.parentAgentId = none := by
        by_contra hchild
        exact h.child parent (mem_of_get hget) hchild hslave
      exact hstays p parent hget hroot

theorem ReachableKeeping.levelInv (h : ReachableKeeping v t) : LevelInv t :=
  Reach.invariant LevelInv ⟨fun _ ha => (by cases ha), fun _ ha => (by cases ha)⟩
    (fun _ _ _ hinv hok hstep => hinv.effect (step_effect hstep) hok) h

/-- As long as no agent with a parent is made a slave, the parent links have two levels.  That they
have no cycle, and that a swarm member's parent was a slave when it was created, needs no
condition. -/
theorem parents_form_two_levels {v : AgentService} {t : Tables} (h : ReachableKeeping v t) :
    (∀ a ∈ t.agents.rows, ∀ b ∈ t.agents.rows, b.parentAgentId = some a.agentId →
      a.parentAgentId = none) ∧
      (∀ agentId, ¬ Forest.Ancestor t.links agentId agentId) ∧
      (∀ a ∈ t.agents.rows, a.role = .swarm →
        ∃ p, a.parentAgentId = some p ∧ CreatedUnderSlave v t a.agentId p) := by
  have hreach : Reachable v t := h.weaken fun _ _ _ => trivial
  refine ⟨?_, hreach.grown.acyclic, ?_⟩
  · intro a ha b hb hparent
    obtain ⟨parent, hget, hroot⟩ := h.levelInv.root b hb a.agentId hparent
    rw [Table.get_of_mem ha] at hget
    cases hget
    exact hroot
  · intro a ha hswarm
    obtain ⟨p, hp⟩ := Option.ne_none_iff_exists'.mp (hreach.swarmInv a ha hswarm)
    exact ⟨p, hp, hreach.createdUnderSlave a ha p hp⟩

def swarmLabels : List Label :=
  setupLabels ++ [.registerAgent (sampleSwarm "%1" "agt_000000000000") (sampleOutside "t3" 1)]

theorem parents_form_two_levels_swarm :
    ∃ t, ReachableKeeping sampleService t ∧
      (t.agents.get "agt_111111111111").any (fun a => decide (a.role = .swarm)) = true ∧
      ∀ agentId, ¬ Forest.Ancestor t.links agentId agentId := by
  obtain ⟨t, ht, hswarm⟩ : ∃ t, runWhile (step sampleService) keepsChildrenSwarm empty
      swarmLabels = some t ∧
      (t.agents.get "agt_111111111111").any (fun a => decide (a.role = .swarm)) = true := by
    decide +kernel
  have hreach : ReachableKeeping sampleService t := reach_of_runWhile .start ht
  exact ⟨t, hreach, hswarm, (parents_form_two_levels hreach).2.1⟩

def grandchildLabels : List Label :=
  swarmLabels ++ [.setRole ⟨some 8, "agt_111111111111", "slave", false⟩,
      .scanPanes ⟨[samplePane "%2"], [], "t4"⟩,
      .registerAgent (sampleSwarm "%2" "agt_111111111111") (sampleOutside "t5" 2)]

theorem slave_child_gets_child :
    ∃ t, Reachable sampleService t ∧ ∃ a ∈ t.agents.rows, ∃ b ∈ t.agents.rows,
      b.parentAgentId = some a.agentId ∧ a.parentAgentId = some "agt_000000000000" :=
  exists_reach grandchildLabels (by decide +kernel)

/-! ## Registering again -/

/-- The call supplies no optional field. -/
structure RegisterParams.Bare (params : RegisterParams) : Prop where
  role : params.role = none
  capability : params.capability = none
  label : params.label = none
  projectPath : params.projectPath = none
  parent : params.parentAgentId = none

theorem RegisterParams.Bare.validated {params : RegisterParams} (h : params.Bare)
    {key : PaneKey} (hkey : coercePaneKey params.paneCompositeKey = key)
    (hcontainer : params.containerId = key.containerId) (hne : key.containerId ≠ "")
    (hversion : ∀ version, params.schemaVersion = some version → v.schemaVersion ≤ version) :
    ∃ args : RegisterArgs, validateRegister v.schemaVersion params = .ok args ∧ args.key = key ∧
      args.role = none ∧ args.capability = none ∧ args.label = none ∧ args.projectPath = none ∧
      args.parent = none := by
  obtain ⟨hrole, hcapability, hlabel, hpath, hparent⟩ := h
  have hschema : checkSchemaVersion v.schemaVersion params.schemaVersion = .ok () := by
    unfold checkSchemaVersion
    cases hclient : params.schemaVersion with
    | none => rfl
    | some version => exact if_neg (by have := hversion version hclient; omega)
  unfold validateRegister
  rw [bind_of_ok hschema, dif_neg (by rw [hcontainer]; exact hne),
    dif_neg (by rw [hkey, hcontainer]; exact not_not.mpr rfl), hrole, hcapability, hlabel, hpath,
    hparent]
  exact ⟨_, rfl, hkey, rfl, rfl, rfl, rfl, rfl⟩

theorem selectAgentByPaneKey_of_mem (h : a ∈ t.agents.rows) :
    t.selectAgentByPaneKey a.key = some a := by
  -- there is a row, and the index on the pane lets no other have its key
  cases hfind : t.selectAgentByPaneKey a.key with
  | none =>
    have hnone := List.find?_eq_none.mp hfind a h
    exact absurd (decide_eq_true rfl) hnone
  | some b =>
    obtain ⟨hb, hkey⟩ := selected_key hfind
    exact congrArg some (eq_of_index hb h rfl (congrArg some hkey.symm))

/-- What a re-registration with no optional field is to leave of the agent. -/
structure ReRegistered (existing : AgentRecord) (registered : Registered) : Prop where
  agentId : registered.agent.agentId = existing.agentId
  stored : registered.tables.agents.get existing.agentId = some registered.agent
  active : registered.agent.active = true
  role : registered.agent.role = existing.role
  capability : registered.agent.capability = existing.capability
  label : registered.agent.label = existing.label
  projectPath : registered.agent.projectPath = existing.projectPath
  parent : registered.agent.parentAgentId = existing.parentAgentId
  permissions : registered.agent.effectivePermissions = existing.effectivePermissions
  createdAt : registered.agent.createdAt = existing.createdAt

theorem reRegistered_bare {existing : AgentRecord} {now : String} (hmem : existing ∈ t.agents.rows)
    (hpermissions : existing.effectivePermissions = effectivePermissions existing.role)
    (hrole : args.role = none) (hcapability : args.capability = none) (hlabel : args.label = none)
    (hpath : args.projectPath = none) :
    ReRegistered existing (reRegistered t args existing now) := by
  have hset : (reRegistered t args existing now).agent
      = { existing with lastRegisteredAt := now, active := true } := by
    unfold reRegistered reRegistration updateAgentMutableFields
    simp only [hrole, hcapability, hlabel, hpath, Option.getD_none, ← hpermissions]
  have hstored : (reRegistered t args existing now).tables.agents.get existing.agentId
      = some (reRegistered t args existing now).agent := by
    unfold reRegistered
    simp only
    rw [get_updateAll, Table.get_of_mem hmem, Option.map_some]
    have hself : ofAgentId existing.agentId existing = true := decide_eq_true rfl
    unfold Table.patched
    rw [if_pos hself]
  exact
    { agentId := by rw [hset]
      stored := hstored
      active := by rw [hset]
      role := by rw [hset]
      capability := by rw [hset]
      label := by rw [hset]
      projectPath := by rw [hset]
      parent := by rw [hset]
      permissions := by rw [hset]
      createdAt := by rw [hset] }

/-- A registered agent whose pane is active can be registered again as it is exactly if it has no
parent or is a swarm member. -/
theorem reRegistration_succeeds_iff {v : AgentService} {t : Tables} (h : Reachable v t)
    {existing : AgentRecord} (hmem : existing ∈ t.agents.rows)
    (hpane : t.boundPaneIsActive existing.key = true) {params : RegisterParams}
    (hbare : params.Bare) (hkey : coercePaneKey params.paneCompositeKey = existing.key)
    (hcontainer : params.containerId = existing.key.containerId)
    (hversion : ∀ version, params.schemaVersion = some version → v.schemaVersion ≤ version)
    {o : RegisterOutside} (hattach : o.attachLog = none) :
    (∃ registered, registerAgent v t params o = .ok registered ∧
      ReRegistered existing registered) ↔
      existing.parentAgentId = none ∨ existing.role = .swarm := by
  obtain ⟨-, hpermissions, hne⟩ := h.agentsOk existing hmem
  obtain ⟨args, hargs, hargsKey, hrole, hcapability, hlabel, hpath, hparent⟩ :=
    hbare.validated hkey hcontainer hne hversion
  have hactive : validateBoundPaneIsActive t args.key = .ok () := by
    unfold validateBoundPaneIsActive
    rw [hargsKey, if_pos hpane]
  -- the checks before pass, and the agent is found on its pane
  have hrow : registerAgent v t params o = reRegisterAgent t args existing o.now := by
    unfold registerAgent registerRow
    rw [bind_of_ok hargs, bind_of_ok hactive, hargsKey, selectAgentByPaneKey_of_mem hmem, hattach]
    exact bind_pure _
  have hchecked : reRegisterAgent t args existing o.now =
      if existing.parentAgentId ≠ none ∧ existing.role ≠ .swarm then .error parentRoleMismatch
      else .ok (reRegistered t args existing o.now) := by
    unfold reRegisterAgent
    simp [hparent, hrole]
  rw [hrow, hchecked]
  by_cases hmismatch : existing.parentAgentId ≠ none ∧ existing.role ≠ .swarm
  · rw [if_pos hmismatch]
    constructor
    · rintro ⟨registered, hok, -⟩
      cases hok
    · rintro (hnone | hswarm)
      · exact absurd hnone hmismatch.1
      · exact absurd hswarm hmismatch.2
  · rw [if_neg hmismatch]
    refine ⟨fun _ => ?_, fun _ => ⟨_, rfl, reRegistered_bare hmem hpermissions hrole hcapability
      hlabel hpath⟩⟩
    by_contra hneither
    rw [not_or] at hneither
    exact hmismatch hneither

def paneBackLabels : List Label :=
  paneGoneLabels ++ [.scanPanes ⟨[samplePane "%0"], [], "t4"⟩]

theorem bare_bareParams (paneId : String) : (bareParams paneId).Bare := ⟨rfl, rfl, rfl, rfl, rfl⟩

theorem reRegistration_succeeds_paneBack :
    ∃ t existing registered, Reachable sampleService t ∧ existing ∈ t.agents.rows ∧
      existing.active = false ∧
      registerAgent sampleService t (bareParams "%0") (sampleOutside "t5" 3) = .ok registered ∧
      ReRegistered existing registered := by
  obtain ⟨t, ht, hpane, existing, hget, hkey, hgone, hroot⟩ :
      ∃ t, run (step sampleService) empty paneBackLabels = some t ∧
      t.boundPaneIsActive (samplePane "%0") = true ∧
      ∃ a, t.agents.get "agt_000000000000" = some a ∧
        a.key = samplePane "%0" ∧ a.active = false ∧ a.parentAgentId = none := by
    decide +kernel
  have hreach := reach_of_run ht
  have hmem := mem_of_get hget
  have hsample : coercePaneKey (bareParams "%0").paneCompositeKey = existing.key := by
    rw [hkey]
    decide +kernel
  obtain ⟨registered, hok, hsame⟩ := (reRegistration_succeeds_iff hreach hmem
    (by rw [hkey]; exact hpane) (bare_bareParams "%0") hsample (by rw [hkey]; rfl)
    (by intro version hversion; cases hversion; exact le_refl _)
    (o := sampleOutside "t5" 3) rfl).mpr (.inl hroot)
  exact ⟨t, existing, registered, hreach, hmem, hgone, hok, hsame⟩

def shellChildLabels : List Label :=
  swarmLabels ++ [.setRole ⟨some 8, "agt_111111111111", "shell", false⟩]

theorem reRegistration_refused :
    ∃ t existing, Reachable sampleService t ∧ existing ∈ t.agents.rows ∧
      existing.key = samplePane "%1" ∧ t.boundPaneIsActive existing.key = true ∧
      registerAgent sampleService t (bareParams "%1") (sampleOutside "t5" 3)
        = .error parentRoleMismatch := by
  obtain ⟨t, ht, existing, hrefused⟩ : ∃ t, run (step sampleService) empty shellChildLabels = some t ∧
      ∃ existing ∈ t.agents.rows, existing.key = samplePane "%1" ∧
        t.boundPaneIsActive existing.key = true ∧
        registerAgent sampleService t (bareParams "%1") (sampleOutside "t5" 3)
          = .error parentRoleMismatch := by decide +kernel
  exact ⟨t, existing, reach_of_run ht, hrefused⟩

end AgentTower.Agents
