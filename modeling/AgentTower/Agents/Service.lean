import AgentTower.Lib.Run
import AgentTower.Agents.Validation

/-!
# The agents table and its writers

The rows of `agents` with all their columns, the transactions of the methods that write them, and the
part of a pane scan that does.  One transaction is one step; a call that raises has rolled it back.
-/

namespace AgentTower.Agents

open Sql
open Routing (PaneKey PaneRow ContainerRow Role Registry)

structure EffectivePermissions where
  canSend : Bool
  canReceive : Bool
  canSendToRoles : List Role
  deriving DecidableEq, Repr

def effectivePermissions : Role → EffectivePermissions
  | .master => ⟨true, false, [.slave, .swarm]⟩
  | .slave => ⟨false, true, []⟩
  | .swarm => ⟨false, true, []⟩
  | .testRunner => ⟨false, false, []⟩
  | .shell => ⟨false, false, []⟩
  | .unknown => ⟨false, false, []⟩

/-! ## Rows -/

structure AgentRecord where
  agentId : String
  key : PaneKey
  role : Role
  capability : Capability
  label : String
  projectPath : String
  parentAgentId : Option String
  effectivePermissions : EffectivePermissions
  createdAt : String
  lastRegisteredAt : String
  lastSeenAt : Option String
  active : Bool
  deriving DecidableEq, Repr

namespace AgentRecord

def boundPane (a : AgentRecord) : Option PaneKey := some a.key

def row (a : AgentRecord) : Routing.AgentRow :=
  ⟨a.agentId, a.key, a.role, a.capability.text, a.label, a.active⟩

/-- The columns that no statement writes after the `INSERT`. -/
def identity (a : AgentRecord) : String × PaneKey × Option String × String :=
  (a.agentId, a.key, a.parentAgentId, a.createdAt)

end AgentRecord

abbrev AgentTable := Table AgentRecord.agentId AgentRecord.boundPane Table.noCheck

structure Tables where
  agents : AgentTable
  panes : Table PaneRow.key Table.noIndex Table.noCheck
  containers : Table ContainerRow.containerId Table.noIndex Table.noCheck

namespace Tables

def empty : Tables := ⟨Table.empty, Table.empty, Table.empty⟩

/-- `select_active_for_bound_pane(..) == (True, True)`. -/
def boundPaneIsActive (t : Tables) (key : PaneKey) : Bool :=
  (t.panes.get key).any PaneRow.active && (t.containers.get key.containerId).any ContainerRow.active

def selectAgentByPaneKey (t : Tables) (key : PaneKey) : Option AgentRecord :=
  t.agents.rows.find? fun a => decide (a.key = key)

end Tables

abbrev AgentPatch := Patch AgentRecord.agentId AgentRecord.boundPane

def updateAgentMutableFields (role : Role) (capability : Capability) (label projectPath : String)
    (permissions : EffectivePermissions) (lastRegisteredAt : String) (active : Bool) :
    AgentPatch where
  set a :=
    { a with
      role
      capability
      label
      projectPath
      effectivePermissions := permissions
      lastRegisteredAt
      active }
  key_set _ := rfl
  index_set _ := rfl

def updateAgentRole (role : Role) (permissions : EffectivePermissions) : AgentPatch where
  set a := { a with role, effectivePermissions := permissions }
  key_set _ := rfl
  index_set _ := rfl

def updateAgentLabel (label : String) : AgentPatch where
  set a := { a with label }
  key_set _ := rfl
  index_set _ := rfl

def updateAgentCapability (capability : Capability) : AgentPatch where
  set a := { a with capability }
  key_set _ := rfl
  index_set _ := rfl

def updateLastSeenAt (now : String) : AgentPatch where
  set a := { a with lastSeenAt := some now }
  key_set _ := rfl
  index_set _ := rfl

/-- The `SET` part of `cascade_agents_active_from_pane`. -/
def cascadeInactive : AgentPatch where
  set a := { a with active := false }
  key_set _ := rfl
  index_set _ := rfl

def ofAgentId (agentId : String) (a : AgentRecord) : Bool := decide (a.agentId = agentId)

/-! ## Registering -/

def agentIdRetryLimit : Nat := 5

/-- What `register_agent` reads outside the tables: the clock, the tokens of the ids it generates,
and what `attach_log_in_transaction` comes to if the call asks for it. -/
structure RegisterOutside where
  now : String
  tokens : Fin agentIdRetryLimit → Token
  attachLog : Option (Except RegistrationError Unit)

inductive CreatedOrReactivated where
  | created | reactivated | updated
  deriving DecidableEq, Repr

structure RoleChange where
  agentId : String
  priorRole : Option Role
  newRole : Role
  deriving DecidableEq, Repr

structure Registered where
  tables : Tables
  agent : AgentRecord
  createdOrReactivated : CreatedOrReactivated
  audit : Option RoleChange

def validateBoundPaneIsActive (t : Tables) (key : PaneKey) : Except RegistrationError Unit :=
  if t.boundPaneIsActive key then .ok ()
  else
    .error ⟨.paneUnknownToDaemon, "bound pane is absent or inactive in the FEAT-004 registry"⟩

def validateParentForSwarm (t : Tables) (parentAgentId : String) :
    Except RegistrationError Unit := do
  validateAgentIdShape parentAgentId
  match t.agents.get parentAgentId with
  | none => .error ⟨.parentNotFound, "parent agent " ++ parentAgentId ++ " not found"⟩
  | some parent =>
    if !parent.active then
      .error ⟨.parentInactive, "parent agent " ++ parentAgentId ++ " is inactive"⟩
    else if parent.role ≠ .slave then
      .error ⟨.parentRoleInvalid,
        "parent agent must have role=slave (got " ++ parent.role.text ++ ")"⟩
    else .ok ()

def paneKeyConflict : String :=
  "UNIQUE constraint failed: agents.container_id, agents.tmux_socket_path, " ++
    "agents.tmux_session_name, agents.tmux_window_index, agents.tmux_pane_index, " ++
    "agents.tmux_pane_id"

/-- One `SAVEPOINT` for each id: a collision on the primary key goes on to the next one. -/
def insertWithSavepointRetry (agents : AgentTable) (record : String → AgentRecord) :
    List Token → Except RegistrationError (AgentTable × AgentRecord)
  | [] =>
    .error ⟨.internalError,
      "agent_id PK collision retry budget exhausted (" ++ toString agentIdRetryLimit ++ ")"⟩
  | token :: tokens =>
    let a := record (generateAgentId token)
    match agents.get a.agentId, agents.insert a with
    | some _, _ => insertWithSavepointRetry agents record tokens
    | none, some agents' => .ok (agents', a)
    | none, none => .error ⟨.internalError, "agents insert failed: " ++ paneKeyConflict⟩

def parentRoleMismatch : RegistrationError :=
  ⟨.parentRoleMismatch, "--parent only valid with --role swarm"⟩

/-- The row of `insert_agent`; what the call does not give has its default. -/
def newAgent (args : RegisterArgs) (now agentId : String) : AgentRecord where
  agentId := agentId
  key := args.key
  role := args.role.getD .unknown
  capability := args.capability.getD .unknown
  label := args.label.getD ""
  projectPath := args.projectPath.getD ""
  parentAgentId := givenParent args.parent
  effectivePermissions := effectivePermissions (args.role.getD .unknown)
  createdAt := now
  lastRegisteredAt := now
  lastSeenAt := none
  active := true

def validateNewParent (t : Tables) (role : Role) : Option String → Except RegistrationError Unit
  | some parent => if role ≠ .swarm then .error parentRoleMismatch else validateParentForSwarm t parent
  | none => .ok ()

def createAgent (t : Tables) (args : RegisterArgs) (o : RegisterOutside) :
    Except RegistrationError Registered := do
  let role := args.role.getD .unknown
  validateNewParent t role (givenParent args.parent)
  let (agents, a) ← insertWithSavepointRetry t.agents (newAgent args o.now) (List.ofFn o.tokens)
  pure
    { tables := { t with agents }
      agent := a
      createdOrReactivated := .created
      audit := some ⟨a.agentId, none, role⟩ }

/-- The `SET` part of a re-registration: a field that is not given keeps its column. -/
def reRegistration (args : RegisterArgs) (existing : AgentRecord) (now : String) : AgentPatch :=
  updateAgentMutableFields (args.role.getD existing.role)
    (args.capability.getD existing.capability) (args.label.getD existing.label)
    (args.projectPath.getD existing.projectPath)
    (effectivePermissions (args.role.getD existing.role)) now true

section

variable (t : Tables) (args : RegisterArgs) (existing : AgentRecord) (now : String)

def reRegistered :
    Registered :=
  let role := args.role.getD existing.role
  let p := reRegistration args existing now
  { tables := { t with agents := t.agents.updateAll (ofAgentId existing.agentId) p }
    agent := p.set existing
    createdOrReactivated := if existing.active then .updated else .reactivated
    audit :=
      if role = existing.role then none else some ⟨existing.agentId, some existing.role, role⟩ }

def reRegisterAgent :
    Except RegistrationError Registered :=
  let role := args.role.getD existing.role
  if args.parent.any (fun parent => decide (parent ≠ existing.parentAgentId)) then
    .error ⟨.parentImmutable,
      "--parent is immutable after creation; re-registration with a different --parent is rejected"⟩
  else if args.role.isSome && decide (role = .master) then
    .error ⟨.masterViaRegisterSelfRejected, "register-self cannot assign role=master"⟩
  else if args.parent.getD existing.parentAgentId ≠ none ∧ role ≠ .swarm then
    .error parentRoleMismatch
  else .ok (reRegistered t args existing now)

end

/-- The transaction of `_register_agent_locked`, up to the attach. -/
def registerRow (t : Tables) (args : RegisterArgs) (o : RegisterOutside) :
    Except RegistrationError Registered := do
  validateBoundPaneIsActive t args.key
  match t.selectAgentByPaneKey args.key with
  | none => createAgent t args o
  | some existing => reRegisterAgent t args existing o.now

/-- The version of the schema in the state database, which the service was made with. -/
structure AgentService where
  schemaVersion : Int

def registerAgent (v : AgentService) (t : Tables) (params : RegisterParams) (o : RegisterOutside) :
    Except RegistrationError Registered := do
  let args ← validateRegister v.schemaVersion params
  let registered ← registerRow t args o
  -- an attach that raises takes the registration with it
  match o.attachLog with
  | none => pure registered
  | some attached => do
    attached
    pure registered

/-! ## Setting a column -/

structure SetRoleParams where
  schemaVersion : Option Int
  agentId : String
  role : String
  confirm : Bool
  deriving DecidableEq, Repr

/-- The params of `set_label` and `set_capability`. -/
structure SetFieldParams where
  schemaVersion : Option Int
  agentId : String
  value : String
  deriving DecidableEq, Repr

/-- What a `set_*` call answers; `prior = new` is a call that wrote nothing. -/
structure Updated (α : Type) where
  tables : Tables
  priorValue : α
  newValue : α
  audit : Option RoleChange

def agentNotFound (agentId : String) : RegistrationError :=
  ⟨.agentNotFound, "agent " ++ agentId ++ " not found"⟩

def agentInactive (agentId : String) : RegistrationError :=
  ⟨.agentInactive, "agent " ++ agentId ++ " is inactive"⟩

def selectActiveAgent (t : Tables) (agentId : String) : Except RegistrationError AgentRecord :=
  match t.agents.get agentId with
  | none => .error (agentNotFound agentId)
  | some fresh => if fresh.active then .ok fresh else .error (agentInactive agentId)

/-- The role of a `set_role` call, and what is refused before the lock is taken. -/
def validateSetRole (v : AgentService) (params : SetRoleParams) :
    Except RegistrationError Role := do
  checkSchemaVersion v.schemaVersion params.schemaVersion
  validateAgentIdShape params.agentId
  let role ← validateRole params.role
  if role = .swarm then
    .error ⟨.swarmRoleViaSetRoleRejected,
      "set-role --role swarm is rejected; use " ++
        "`agenttower register-self --role swarm --parent <agent-id>` instead"⟩
  else if role = .master ∧ params.confirm = false then
    .error ⟨.masterConfirmRequired, "master role assignment requires --confirm"⟩
  else pure role

def setRole (v : AgentService) (t : Tables) (params : SetRoleParams) :
    Except RegistrationError (Updated Role) := do
  let role ← validateSetRole v params
  let fresh ← selectActiveAgent t params.agentId
  if role = .master ∧ (t.containers.get fresh.key.containerId).any ContainerRow.active = false then
    .error ⟨.agentInactive, "agent " ++ params.agentId ++ " or its container is inactive"⟩
  else if fresh.role = role then pure ⟨t, fresh.role, role, none⟩
  else
    let p := updateAgentRole role (effectivePermissions role)
    pure
      { tables := { t with agents := t.agents.updateAll (ofAgentId params.agentId) p }
        priorValue := fresh.role
        newValue := role
        audit := some ⟨params.agentId, some fresh.role, role⟩ }

/-- `set_label` and `set_capability`: validate one value, write one column unless it has it. -/
def setField {α : Type} [DecidableEq α] (v : AgentService)
    (validate : String → Except RegistrationError α) (column : AgentRecord → α)
    (patch : α → AgentPatch) (t : Tables) (params : SetFieldParams) :
    Except RegistrationError (Updated α) := do
  checkSchemaVersion v.schemaVersion params.schemaVersion
  validateAgentIdShape params.agentId
  let value ← validate params.value
  let fresh ← selectActiveAgent t params.agentId
  if column fresh = value then pure ⟨t, column fresh, value, none⟩
  else
    pure
      { tables :=
          { t with agents := t.agents.updateAll (ofAgentId params.agentId) (patch value) }
        priorValue := column fresh
        newValue := value
        audit := none }

def setLabel (v : AgentService) :
    Tables → SetFieldParams → Except RegistrationError (Updated String) :=
  setField v validateLabel AgentRecord.label updateAgentLabel

def setCapability (v : AgentService) :
    Tables → SetFieldParams → Except RegistrationError (Updated Capability) :=
  setField v validateCapability AgentRecord.capability updateAgentCapability

/-- `PaneReconcileWriteSet`, with the time the scan started. -/
structure PaneScan where
  upserts : List PaneKey
  inactivate : List PaneKey
  startedAt : String
  deriving DecidableEq, Repr

def Tables.registry (t : Tables) : Registry where
  agents := t.agents.view AgentRecord.row (fun _ => rfl) (fun _ => rfl) (fun _ _ => rfl)
  panes := t.panes
  containers := t.containers

/-- `_commit_scan` on the three tables; every pane it has seen counts as observed. -/
def commitScan (t : Tables) (scan : PaneScan) : Option Tables :=
  (t.registry.reconcilePanes scan.upserts scan.inactivate).map fun g =>
    { t with
      panes := g.panes
      agents :=
        (t.agents.updateAll (fun a => decide (a.key ∈ scan.upserts))
          (updateLastSeenAt scan.startedAt)).updateAll
          (fun a => decide (a.key ∈ scan.inactivate)) cascadeInactive }

def commitContainers (t : Tables) (upserts : List ContainerRow) (inactivate : List String) :
    Option Tables :=
  (t.registry.reconcileContainers upserts inactivate).map fun g =>
    { t with containers := g.containers }

inductive Label where
  | registerAgent (params : RegisterParams) (o : RegisterOutside)
  | setRole (params : SetRoleParams)
  | setLabel (params : SetFieldParams)
  | setCapability (params : SetFieldParams)
  | scanPanes (scan : PaneScan)
  | scanContainers (upserts : List ContainerRow) (inactivate : List String)

def Tables.after {α : Type} (t : Tables) (tables : α → Tables) :
    Except RegistrationError α → Tables
  | .ok result => tables result
  | .error _ => t

def step (v : AgentService) (t : Tables) : Label → Option Tables
  | .registerAgent params o => some (t.after Registered.tables (registerAgent v t params o))
  | .setRole params => some (t.after Updated.tables (setRole v t params))
  | .setLabel params => some (t.after Updated.tables (setLabel v t params))
  | .setCapability params => some (t.after Updated.tables (setCapability v t params))
  | .scanPanes scan => commitScan t scan
  | .scanContainers upserts inactivate => commitContainers t upserts inactivate

end AgentTower.Agents
