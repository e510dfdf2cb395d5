import AgentTower.App.Envelope
import AgentTower.Agents.Invariants

/-!
# `app.agent.register_from_pane` and `app.agent.update`

Both handlers check their params with rules of their own and then call the agent service, which checks
again.  A registration is one transaction, an update is one for each field; the project path is written
by the handler itself, without a check.
-/

namespace AgentTower.App

open Fallible
open Agents
open Routing (PaneKey PaneRow ContainerRow Role pyRepr)

def labelMaxLen : Nat := 256

def validateLabel : Option Param → Except Failure String
  | none | some .null => .ok ""
  | some (.text value) =>
    let trimmed := Logs.strip value
    if '\n' ∈ trimmed.toList ∨ '\r' ∈ trimmed.toList then
      .error (.validationFailed "label" "embedded newline" "label must not contain newlines")
    else if labelMaxLen < trimmed.length then
      .error (.validationFailed "label" "too long"
        ("label exceeds " ++ toString labelMaxLen ++ " chars after trim"))
    else .ok trimmed
  | some _ => .error (.validationFailed "label" "wrong type" "label must be a string")

/-! ## Errors of the service -/

def registrationCodeText : RegistrationCode → String
  | .badRequest => "bad_request"
  | .valueOutOfSet => "value_out_of_set"
  | .fieldTooLong => "field_too_long"
  | .projectPathInvalid => "project_path_invalid"
  | .schemaVersionNewer => "schema_version_newer"
  | .masterViaRegisterSelfRejected => "master_via_register_self_rejected"
  | .swarmParentRequired => "swarm_parent_required"
  | .parentRoleMismatch => "parent_role_mismatch"
  | .parentImmutable => "parent_immutable"
  | .parentNotFound => "parent_not_found"
  | .parentInactive => "parent_inactive"
  | .parentRoleInvalid => "parent_role_invalid"
  | .paneUnknownToDaemon => "pane_unknown_to_daemon"
  | .swarmRoleViaSetRoleRejected => "swarm_role_via_set_role_rejected"
  | .masterConfirmRequired => "master_confirm_required"
  | .agentNotFound => "agent_not_found"
  | .agentInactive => "agent_inactive"
  | .internalError => "internal_error"
  | .log .logPathInUse => "log_path_in_use"
  | .log .internalError => "internal_error"
  | .log .pipePaneFailed => "pipe_pane_failed"
  | .log .dockerUnavailable => "docker_unavailable"
  | .log .dockerExecTimeout => "docker_exec_timeout"
  | .log .attachmentNotFound => "attachment_not_found"

/-- `_map_registration_error`.  No call of the service raises `pane_already_registered` or
`container_inactive`, which it maps too. -/
def mapRegistrationError (parentAgentId : Option String) (e : RegistrationError) : Failure :=
  match e.code with
  | .parentNotFound | .parentInactive => .agentNotFound (parentAgentId.getD "") e.message
  | .masterViaRegisterSelfRejected =>
    .validationFailed "role" "master via register_self refused" e.message
  | .swarmParentRequired | .parentRoleMismatch | .parentImmutable =>
    .validationFailed "parent_agent_id" (registrationCodeText e.code) e.message
  | .valueOutOfSet | .fieldTooLong | .projectPathInvalid | .badRequest =>
    .validationFailed "params" (registrationCodeText e.code) e.message
  | _ => .internalErrorLogged "FEAT-006 register_agent (unmapped upstream code)"

def mapRegistrationErrorGeneric (agentId : String) (e : RegistrationError) : Failure :=
  match e.code with
  | .agentNotFound | .agentInactive => .agentNotFound agentId e.message
  | .log .logPathInUse | .log .pipePaneFailed =>
    ⟨.logAttachBlocked, e.message, [("agent_id", agentId), ("reason", registrationCodeText e.code)]⟩
  | .valueOutOfSet | .fieldTooLong | .projectPathInvalid | .badRequest
  | .swarmRoleViaSetRoleRejected | .masterConfirmRequired =>
    .validationFailed "params" (registrationCodeText e.code) e.message
  | _ => .internalErrorLogged "upstream agent/log service (unmapped code)"

/-! ## Registering from a pane -/

structure FromPaneRequest where
  containerId : Option Param
  tmuxSocket : Option Param
  sessionName : Option Param
  windowIndex : Option Param
  paneIndex : Option Param
  paneId : Option Param
  label : Option Param
  role : Option Param
  capability : Option Param
  projectPath : Option Param
  parentAgentId : Option Param
  attachLog : Option Param
  deriving DecidableEq, Repr

def FromPaneRequest.identityFields (r : FromPaneRequest) : List (String × Option Param) :=
  [("container_id", r.containerId), ("tmux_socket", r.tmuxSocket),
    ("session_name", r.sessionName), ("window_index", r.windowIndex),
    ("pane_index", r.paneIndex), ("pane_id", r.paneId)]

def identityText (field : String) : Option Param → Except Failure String
  | some (.text value) =>
    if value = "" then .error (failure field) else .ok value
  | _ => .error (failure field)
where
  failure (field : String) : Failure :=
    .validationFailed field "wrong type or empty"
      ("identity field " ++ pyRepr field ++ " must be a non-empty string")

def identityIndex (field : String) : Option Param → Except Failure Int
  | some (.int value) => if value < 0 then .error (failure field) else .ok value
  | _ => .error (failure field)
where
  failure (field : String) : Failure :=
    .validationFailed field "wrong type"
      ("identity field " ++ pyRepr field ++ " must be a non-negative integer")

/-- `_validate_identity`: what is missing is reported before what has the wrong type, and the texts
before the numbers. -/
def validateIdentity (r : FromPaneRequest) : Except Failure PaneKey :=
  match r.identityFields.find? fun field => field.2.isNone with
  | some (field, _) =>
    .error (.validationFailed field "missing" ("missing required identity field " ++ pyRepr field))
  | none => do
    let containerId ← identityText "container_id" r.containerId
    let tmuxSocket ← identityText "tmux_socket" r.tmuxSocket
    let sessionName ← identityText "session_name" r.sessionName
    let paneId ← identityText "pane_id" r.paneId
    let windowIndex ← identityIndex "window_index" r.windowIndex
    let paneIndex ← identityIndex "pane_index" r.paneIndex
    pure ⟨containerId, tmuxSocket, sessionName, windowIndex, paneIndex, paneId⟩

def validateParentParam (value : Option Param) : Except Failure (Option String) :=
  match given value with
  | none => .ok none
  | some (.text parent) => .ok (some parent)
  | some _ =>
    .error (.validationFailed "parent_agent_id" "wrong type"
      "parent_agent_id must be a string when provided")

/-- `ORDER BY active DESC, container_id ASC, ..`. -/
def listingOrder (p q : PaneRow) : Ordering :=
  (compare q.active p.active).then <|
    (compare p.key.containerId q.key.containerId).then <|
      (compare p.key.tmuxSocketPath q.key.tmuxSocketPath).then <|
        (compare p.key.tmuxSessionName q.key.tmuxSessionName).then <|
          (compare p.key.tmuxWindowIndex q.key.tmuxWindowIndex).then
            (compare p.key.tmuxPaneIndex q.key.tmuxPaneIndex)

/-- `select_panes_for_listing(conn, active_only=False)`. -/
def selectPanesForListing (t : Tables) : List PaneRow :=
  (t.panes.rows.filter fun p => (t.containers.get p.key.containerId).isSome).insertionSort
    fun p q => listingOrder p q ≠ .gt

def mismatchField (pane identity : PaneKey) : String :=
  if pane.containerId ≠ identity.containerId then "container_id"
  else if pane.tmuxSocketPath ≠ identity.tmuxSocketPath then "tmux_socket"
  else if pane.tmuxSessionName ≠ identity.tmuxSessionName then "session_name"
  else if pane.tmuxWindowIndex ≠ identity.tmuxWindowIndex then "window_index"
  else if pane.tmuxPaneIndex ≠ identity.tmuxPaneIndex then "pane_index"
  else "pane_id"

/-- `_find_pane_with_full_identity_match`; the error is the mismatching field. -/
def findPaneWithFullIdentityMatch (t : Tables) (identity : PaneKey) : Except String Unit :=
  match (selectPanesForListing t).filter fun p => decide (p.key.tmuxPaneId = identity.tmuxPaneId)
  with
  | [] => .error "pane_id"
  | pane :: panes =>
    if (pane :: panes).any fun p => decide (p.key = identity) then .ok ()
    else .error (mismatchField pane.key identity)

def preflight (t : Tables) (identity : PaneKey) (parentAgentId : Option String)
    (attachLog : Bool) : Except Failure Unit :=
  match findPaneWithFullIdentityMatch t identity with
  | .error field =>
    .error ⟨.paneNotFound,
      "pane identity does not match a currently-discovered pane (mismatch on field: " ++ field ++
        ")", [("pane_id", identity.tmuxPaneId), ("mismatch_field", field)]⟩
  | .ok () =>
    if attachLog ∧ (t.containers.get identity.containerId).any ContainerRow.active = false then
      .error ⟨.containerInactive,
        "attach_log=true requested but target container is inactive; no agents row was created",
        [("container_id", identity.containerId)]⟩
    else
      match parentAgentId with
      | none | some "" => .ok ()
      | some parent =>
        if (t.agents.get parent).any AgentRecord.active then .ok ()
        else
          .error (.agentNotFound parent
            ("parent_agent_id " ++ pyRepr parent ++ " does not match any registered agent"))

/-- A param that the service checks: of another type than text it is refused in its turn. -/
def serviceText {α : Type} (wrongType : Param → RegistrationError)
    (check : String → Except RegistrationError α) : Param → Except RegistrationError String
  | .text value => (check value).map fun _ => value
  | value => .error (wrongType value)

def roleNotText (value : Param) : RegistrationError :=
  ⟨.valueOutOfSet,
    "role must be one of " ++ pyReprList (validRoles.map Role.text) ++ "; got " ++ value.repr⟩

def capabilityNotText (value : Param) : RegistrationError :=
  ⟨.valueOutOfSet,
    "capability must be one of " ++ pyReprList (validCapabilities.map Capability.text) ++
      "; got " ++ value.repr⟩

def projectPathNotText (value : Param) : RegistrationError :=
  ⟨.projectPathInvalid, "project_path must be a string; got " ++ value.typeName⟩

/-- The params that the handler makes for `register_agent`.  Role, capability and project path go to
the service with whatever type they have; the checks before the first that is no text are made here
in the service's order.  The label is always there. -/
def registerParams (r : FromPaneRequest) (identity : PaneKey) (label : String)
    (parentAgentId : Option String) : Except RegistrationError RegisterParams := do
  if (coercePaneKey identity).containerId ≠ identity.containerId then
    .error ⟨.valueOutOfSet,
      "params.pane_composite_key.container_id must match params.container_id"⟩
  else do
    let role ← (given r.role).mapM (serviceText roleNotText validateRole)
    let capability ← (given r.capability).mapM (serviceText capabilityNotText validateCapability)
    let _ ← Agents.validateLabel label
    let projectPath ←
      (given r.projectPath).mapM (serviceText projectPathNotText validateOptionalProjectPath)
    pure
      { schemaVersion := none
        containerId := identity.containerId
        paneCompositeKey := identity
        role, capability
        label := some label
        projectPath
        parentAgentId := parentAgentId.map some }

/-- `app_agent_register_from_pane`.  `pre` are the tables that the checks of the handler read, `t`
those of the transaction.  `attach_log` is not passed on. -/
def appAgentRegisterFromPane (v : AgentService) (pre t : Tables) (r : FromPaneRequest)
    (o : RegisterOutside) : Except Failure Registered := do
  let identity ← validateIdentity r
  let label ← validateLabel r.label
  let parentAgentId ← validateParentParam r.parentAgentId
  preflight pre identity parentAgentId (r.attachLog.any Param.truthy)
  match registerParams r identity label parentAgentId >>= fun params =>
    registerAgent v t params { o with attachLog := none } with
  | .ok registered => .ok registered
  | .error e => .error (mapRegistrationError parentAgentId e)

/-! ## Updating -/

structure UpdateRequest where
  agentId : Option Param
  role : Option Param
  capability : Option Param
  label : Option Param
  projectPath : Option Param
  deriving DecidableEq, Repr

def validateAgentIdParam : Option Param → Except Failure String
  | some (.text agentId) => if agentId = "" then .error failure else .ok agentId
  | _ => .error failure
where
  failure : Failure :=
    .validationFailed "agent_id" "missing or wrong type" "agent_id must be a non-empty string"

def validateRoleParam : Param → Except Failure String
  | .text role =>
    if role = "" then
      .error (.validationFailed "role"
        "field is not clearable; provide a valid value from the role closed set"
        "role is not clearable")
    else if role ∉ validRoles.map Role.text then
      .error (.validationFailed "role" "not in role closed set"
        ("role must be one of " ++ pyReprList (validRoles.map Role.text)))
    else .ok role
  | _ => .error (.validationFailed "role" "wrong type" "role must be a string")

def validateCapabilityParam : Param → Except Failure String
  | .text capability =>
    if capability = "" then
      .error (.validationFailed "capability"
        "field is not clearable; provide a non-empty value" "capability is not clearable")
    else .ok capability
  | _ => .error (.validationFailed "capability" "wrong type" "capability must be a string")

def validateProjectPathParam : Param → Except Failure String
  | .null => .ok ""
  | .text projectPath => .ok projectPath
  | _ => .error (.validationFailed "project_path" "wrong type" "project_path must be a string")

structure UpdateArgs where
  agentId : String
  role : Option String
  capability : Option String
  label : Option String
  projectPath : Option String
  deriving DecidableEq, Repr

def validateUpdate (r : UpdateRequest) : Except Failure UpdateArgs := do
  let agentId ← validateAgentIdParam r.agentId
  let role ← r.role.mapM validateRoleParam
  let capability ← r.capability.mapM validateCapabilityParam
  let label ← r.label.mapM fun value => validateLabel (some value)
  let projectPath ← r.projectPath.mapM validateProjectPathParam
  pure ⟨agentId, role, capability, label, projectPath⟩

inductive FieldStep where
  | role (value : String)
  | capability (value : String)
  | label (value : String)
  | projectPath (value : String)
  deriving DecidableEq, Repr

def UpdateArgs.steps (args : UpdateArgs) : List FieldStep :=
  (args.role.map .role).toList ++ (args.capability.map .capability).toList ++
    (args.label.map .label).toList ++ (args.projectPath.map .projectPath).toList

def updateAgentProjectPath (projectPath : String) : AgentPatch where
  set a := { a with projectPath }
  key_set _ := rfl
  index_set _ := rfl

def agentMissing (agentId : String) : Failure :=
  .agentNotFound agentId ("agent " ++ pyRepr agentId ++ " not found")

def serviceCall {α : Type} (agentId : String) (result : Except RegistrationError (Updated α)) :
    Except Failure Tables :=
  match result with
  | .ok updated => .ok updated.tables
  | .error e => .error (mapRegistrationErrorGeneric agentId e)

/-- The row is looked up before the transaction that writes the path; no statement deletes one. -/
def applyStep (v : AgentService) (t : Tables) (agentId : String) :
    FieldStep → Except Failure Tables
  | .role value => serviceCall agentId (setRole v t ⟨none, agentId, value, true⟩)
  | .capability value => serviceCall agentId (setCapability v t ⟨none, agentId, value⟩)
  | .label value => serviceCall agentId (setLabel v t ⟨none, agentId, value⟩)
  | .projectPath value =>
    match t.agents.get agentId with
    | none => .error (agentMissing agentId)
    | some _ =>
      .ok { t with agents := t.agents.updateAll (ofAgentId agentId) (updateAgentProjectPath value) }

def FieldStep.raised : FieldStep → Failure
  | .role _ | .capability _ | .label _ => .internalErrorLogged "agent update"
  | .projectPath _ => .internalErrorLogged "project_path update"

/-- A call of `app.agent.update`: the transactions it has left, and the tables before and after each
one it has committed.  A success answers with the row. -/
structure UpdateCall where
  agentId : String
  todo : List FieldStep
  commits : List (Tables × Tables)
  outcome : Option (Except Failure AgentRecord)

def beginUpdate (r : UpdateRequest) : UpdateCall :=
  match validateUpdate r with
  | .error f => ⟨"", [], [], some (.error f)⟩
  | .ok args => ⟨args.agentId, args.steps, [], none⟩

/-- The next transaction of the call; after the last one the row is read for the answer. -/
def UpdateCall.next (v : AgentService) (t : Tables) (raises : Bool) (c : UpdateCall) :
    Tables × UpdateCall :=
  match c.todo with
  | [] =>
    if raises then (t, { c with outcome := some (.error (.unexpectedError "app_agent_update")) })
    else
      match t.agents.get c.agentId with
      | none => (t, { c with outcome := some (.error (agentMissing c.agentId)) })
      | some a => (t, { c with outcome := some (.ok a) })
  | step :: todo =>
    if raises then (t, { c with outcome := some (.error step.raised) })
    else
      match applyStep v t c.agentId step with
      | .error f => (t, { c with outcome := some (.error f) })
      | .ok t' => (t', { c with todo, commits := c.commits ++ [(t, t')] })

structure AppState where
  tables : Tables
  calls : List UpdateCall

namespace AppState

def init (t : Tables) : AppState := ⟨t, []⟩

end AppState

/-- `service` is any other writer of the tables; `i` is the place of a call, which stays in the list
after its answer. -/
inductive AppLabel where
  | service (l : Label)
  | registerFromPane (pre : Tables) (r : FromPaneRequest) (o : RegisterOutside)
  | beginUpdate (r : UpdateRequest)
  | nextUpdate (i : Nat) (raises : Bool)

def tablesAfter (t : Tables) : Except Failure Registered → Tables
  | .ok registered => registered.tables
  | .error _ => t

def appStep (v : AgentService) (s : AppState) : AppLabel → Option AppState
  | .service l => (step v s.tables l).map fun t => { s with tables := t }
  | .registerFromPane pre r o =>
    some { s with tables := tablesAfter s.tables (appAgentRegisterFromPane v pre s.tables r o) }
  | .beginUpdate r => some { s with calls := s.calls ++ [beginUpdate r] }
  | .nextUpdate i raises =>
    match s.calls[i]? with
    | some c =>
      if c.outcome.isSome then none
      else
        let (t, c') := c.next v s.tables raises
        some ⟨t, s.calls.set i c'⟩
    | none => none

/-! ## What a step does -/

inductive FieldStep.Writes : FieldStep → AgentPatch → Prop
  | role {value : String} {role : Role} : validateRole value = .ok role →
      Writes (.role value) (updateAgentRole role (effectivePermissions role))
  | capability {value : String} {capability : Capability} :
      validateCapability value = .ok capability →
      Writes (.capability value) (updateAgentCapability capability)
  | label {value label : String} : Agents.validateLabel value = .ok label →
      Writes (.label value) (updateAgentLabel label)
  | projectPath {value : String} : Writes (.projectPath value) (updateAgentProjectPath value)

theorem serviceCall_eq_ok {α : Type} {agentId : String} {t' : Tables}
    {result : Except RegistrationError (Updated α)} (h : serviceCall agentId result = .ok t') :
    ∃ updated, result = .ok updated ∧ updated.tables = t' := by
  cases result with
  | error e => cases h
  | ok updated =>
    cases h
    exact ⟨updated, rfl, rfl⟩

theorem applyStep_eq_ok {v : AgentService} {t t' : Tables} {agentId : String} {st : FieldStep}
    (h : applyStep v t agentId st = .ok t') :
    t' = t ∨ ∃ p, st.Writes p ∧
      t' = { t with agents := t.agents.updateAll (ofAgentId agentId) p } := by
  cases st with
  | role value =>
    obtain ⟨updated, hok, htables⟩ := serviceCall_eq_ok h
    have heffect := setRole_effect hok
    rw [htables] at heffect
    cases heffect with
    | same => exact .inl rfl
    | roleSet hrole hswarm hfresh => exact .inr ⟨_, .role hrole, rfl⟩
  | capability value =>
    obtain ⟨updated, hok, rfl⟩ := serviceCall_eq_ok h
    rcases setField_eq_ok hok with hsame | ⟨capability, hvalue, hset⟩
    · exact .inl hsame
    · exact .inr ⟨_, .capability hvalue, hset⟩
  | label value =>
    obtain ⟨updated, hok, rfl⟩ := serviceCall_eq_ok h
    rcases setField_eq_ok hok with hsame | ⟨label, hvalue, hset⟩
    · exact .inl hsame
    · exact .inr ⟨_, .label hvalue, hset⟩
  | projectPath value =>
    unfold applyStep at h
    simp only at h
    split at h <;> cases h
    exact .inr ⟨_, .projectPath, rfl⟩

theorem appAgentRegisterFromPane_eq_ok {v : AgentService} {pre t : Tables} {r : FromPaneRequest}
    {o : RegisterOutside} {registered : Registered}
    (h : appAgentRegisterFromPane v pre t r o = .ok registered) :
    ∃ identity label parentAgentId params, validateIdentity r = .ok identity ∧
      validateLabel r.label = .ok label ∧
      registerParams r identity label parentAgentId = .ok params ∧
      registerAgent v t params { o with attachLog := none } = .ok registered := by
  unfold appAgentRegisterFromPane at h
  obtain ⟨identity, hidentity, h⟩ := bind_eq_ok.mp h
  obtain ⟨label, hlabel, h⟩ := bind_eq_ok.mp h
  obtain ⟨parentAgentId, -, h⟩ := bind_eq_ok.mp h
  obtain ⟨-, -, h⟩ := bind_eq_ok.mp h
  split at h <;> cases h
  rename_i registered' hservice
  obtain ⟨params, hparams, hok⟩ := bind_eq_ok.mp hservice
  exact ⟨identity, label, parentAgentId, params, hidentity, hlabel, hparams, hok⟩

theorem tablesAfter_step (v : AgentService) (pre t : Tables) (r : FromPaneRequest)
    (o : RegisterOutside) :
    tablesAfter t (appAgentRegisterFromPane v pre t r o) = t ∨
      ∃ l, step v t l = some (tablesAfter t (appAgentRegisterFromPane v pre t r o)) := by
  cases h : appAgentRegisterFromPane v pre t r o with
  | error f => exact .inl rfl
  | ok registered =>
    obtain ⟨identity, label, parentAgentId, params, -, -, -, hok⟩ :=
      appAgentRegisterFromPane_eq_ok h
    refine .inr ⟨.registerAgent params { o with attachLog := none }, ?_⟩
    show some (t.after Registered.tables _) = _
    rw [hok]
    rfl

theorem UpdateCall.next_cases (v : AgentService) (t : Tables) (raises : Bool) (c : UpdateCall) :
    (∃ result, c.next v t raises = (t, { c with outcome := some result })) ∨
      ∃ st todo t', c.todo = st :: todo ∧ applyStep v t c.agentId st = .ok t' ∧
        c.next v t raises = (t', { c with todo, commits := c.commits ++ [(t, t')] }) := by
  unfold UpdateCall.next
  split
  · split_ifs
    · exact .inl ⟨_, rfl⟩
    · split
      · exact .inl ⟨_, rfl⟩
      · exact .inl ⟨_, rfl⟩
  · rename_i st todo htodo
    split_ifs
    · exact .inl ⟨_, rfl⟩
    · split
      · exact .inl ⟨_, rfl⟩
      · rename_i t' hok
        exact .inr ⟨st, todo, t', htodo, hok, rfl⟩

end AgentTower.App
