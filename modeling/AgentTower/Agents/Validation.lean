import AgentTower.Logs.PipePane
import AgentTower.Routing.Registry

/-!
# Arguments of the agent methods

The closed sets, the bounds and the error texts of `agents/validation.py`, and the checks that
`register_agent` makes before its transaction.
-/

namespace AgentTower.Agents

open Fallible
open Routing (PaneKey Role isAgentId pyRepr)

/-- The codes of a `RegistrationError`; `log` is what the log service raises. -/
inductive RegistrationCode where
  | badRequest | valueOutOfSet | fieldTooLong | projectPathInvalid | schemaVersionNewer
  | masterViaRegisterSelfRejected | swarmParentRequired | parentRoleMismatch | parentImmutable
  | parentNotFound | parentInactive | parentRoleInvalid | paneUnknownToDaemon
  | swarmRoleViaSetRoleRejected | masterConfirmRequired | agentNotFound | agentInactive
  | internalError
  | log (code : Logs.RegistrationCode)
  deriving DecidableEq, Repr

structure RegistrationError where
  code : RegistrationCode
  message : String
  deriving DecidableEq, Repr

/-! ## Closed sets -/

/-- `agents.capability`. -/
inductive Capability where
  | claude | codex | gemini | opencode | shell | testRunner | unknown
  deriving DecidableEq, Repr

def Capability.text : Capability → String
  | .claude => "claude"
  | .codex => "codex"
  | .gemini => "gemini"
  | .opencode => "opencode"
  | .shell => "shell"
  | .testRunner => "test-runner"
  | .unknown => "unknown"

def validRoles : List Role := [.master, .slave, .swarm, .testRunner, .shell, .unknown]

def validCapabilities : List Capability :=
  [.claude, .codex, .gemini, .opencode, .shell, .testRunner, .unknown]

def pyReprList (texts : List String) : String :=
  "[" ++ ", ".intercalate (texts.map pyRepr) ++ "]"

def validateMember {α : Type} (field : String) (text : α → String) (members : List α)
    (value : String) : Except RegistrationError α :=
  match members.find? fun m => decide (text m = value) with
  | some m => .ok m
  | none =>
    .error ⟨.valueOutOfSet,
      field ++ " must be one of " ++ pyReprList (members.map text) ++ "; got " ++ pyRepr value⟩

def validateRole (value : String) : Except RegistrationError Role :=
  validateMember "role" Role.text validRoles value

def validateCapability (value : String) : Except RegistrationError Capability :=
  validateMember "capability" Capability.text validCapabilities value

theorem text_of_validateMember {α : Type} {field : String} {text : α → String} {members : List α}
    {value : String} {m : α} (h : validateMember field text members value = .ok m) :
    text m = value := by
  unfold validateMember at h
  split at h <;> cases h
  rename_i m' hfind
  simpa using List.find?_some hfind

theorem validateRole_slave {value : String} (h : validateRole value = .ok .slave) :
    value = "slave" :=
  (text_of_validateMember h).symm

/-- `sanitize_text`: the cleaned text, and whether it was over the bound. -/
def sanitizeText (value : String) (maxLength : Nat) : String × Bool :=
  let cleaned := value.toList.filterMap fun c =>
    if c.toNat = 0 then none
    else if c = '\t' ∨ c = '\n' then some ' '
    else if c.toNat < 0x20 ∨ c.toNat = 0x7F then none
    else some c
  (String.ofList (cleaned.take maxLength), decide (maxLength < cleaned.length))

def labelMax : Nat := 64

def projectPathMax : Nat := 4096

def validateLabel (value : String) : Except RegistrationError String :=
  let (cleaned, truncated) := sanitizeText value labelMax
  if truncated then
    .error ⟨.fieldTooLong, "label exceeds maximum length " ++ toString labelMax⟩
  else .ok cleaned

/-- The `..` check reads the supplied segments, nothing is normalised before it. -/
def validateProjectPath (value : String) : Except RegistrationError String :=
  if '\x00' ∈ value.toList then
    .error ⟨.projectPathInvalid, "project_path must not contain NUL bytes"⟩
  else
    let cleaned := value.toList.filter fun c => decide (0x20 ≤ c.toNat ∧ c.toNat ≠ 0x7F)
    if projectPathMax < cleaned.length then
      .error ⟨.fieldTooLong, "project_path exceeds maximum length " ++ toString projectPathMax⟩
    else if cleaned = [] then
      .error ⟨.projectPathInvalid, "project_path must be a non-empty absolute path"⟩
    else if cleaned.head? ≠ some '/' then
      .error ⟨.projectPathInvalid,
        "project_path must be absolute (start with '/'); got " ++ pyRepr (String.ofList cleaned)⟩
    else if ['.', '.'] ∈ cleaned.splitOn '/' then
      .error ⟨.projectPathInvalid,
        "project_path must not contain '..' segment; got " ++ pyRepr (String.ofList cleaned)⟩
    else .ok (String.ofList cleaned)

def hostOperatorSentinel : String := "host-operator"

def validateAgentIdShape (value : String) : Except RegistrationError Unit :=
  if value = hostOperatorSentinel then
    .error ⟨.valueOutOfSet,
      "agent_id may not be the reserved sentinel " ++ pyRepr hostOperatorSentinel⟩
  else if isAgentId value then .ok ()
  else
    .error ⟨.valueOutOfSet, "agent_id must match agt_<12-hex-lowercase>; got " ++ pyRepr value⟩

def validateParentAgentIdShape (value : String) : Except RegistrationError Unit :=
  if isAgentId value then .ok ()
  else
    .error ⟨.valueOutOfSet,
      "parent_agent_id must match agt_<12-hex-lowercase>; got " ++ pyRepr value⟩

/-- `secrets.token_hex(6)`, digit by digit. -/
abbrev Token := Fin 12 → Fin 16

def generateAgentId (token : Token) : String :=
  "agt_" ++ String.ofList (List.ofFn fun i => Nat.digitChar (token i))

/-! ## The checks before the transaction -/

def checkSchemaVersion (daemonSchemaVersion : Int) (client : Option Int) :
    Except RegistrationError Unit :=
  match client with
  | none => .ok ()
  | some version =>
    if version < daemonSchemaVersion then
      .error ⟨.schemaVersionNewer,
        "daemon schema_version=" ++ toString daemonSchemaVersion ++ " > client expected=" ++
          toString version ++ "; upgrade the CLI"⟩
    else .ok ()

def paneFieldMax : Nat := 4096

def sanitizePaneField (text : String) : String := (sanitizeText text paneFieldMax).1

/-- `_coerce_pane_key`, for an object with all its fields. -/
def coercePaneKey (value : PaneKey) : PaneKey where
  containerId := sanitizePaneField value.containerId
  tmuxSocketPath := sanitizePaneField value.tmuxSocketPath
  tmuxSessionName := sanitizePaneField value.tmuxSessionName
  tmuxWindowIndex := value.tmuxWindowIndex
  tmuxPaneIndex := value.tmuxPaneIndex
  tmuxPaneId := sanitizePaneField value.tmuxPaneId

/-- The params of `register_agent`.  A key that is absent is `none`; `parent_agent_id` may also be
there as `null`, which is `some none`. -/
structure RegisterParams where
  schemaVersion : Option Int
  containerId : String
  paneCompositeKey : PaneKey
  role : Option String
  capability : Option String
  label : Option String
  projectPath : Option String
  parentAgentId : Option (Option String)
  deriving DecidableEq, Repr

/-- What the transaction of `register_agent` is called with. -/
structure RegisterArgs where
  key : PaneKey
  role : Option Role
  capability : Option Capability
  label : Option String
  projectPath : Option String
  parent : Option (Option String)
  container_ne : key.containerId ≠ ""
  not_master : role ≠ some .master
  swarm_parent : role = some .swarm → ∃ p, parent = some (some p)
  parent_role : ∀ p, parent = some (some p) → role = none ∨ role = some .swarm

def validateOptionalProjectPath (value : String) : Except RegistrationError String :=
  if value = "" then .ok "" else validateProjectPath value

/-- `parent_in is not _UNSET and parent_in is not None`. -/
def givenParent (parent : Option (Option String)) : Option String := parent.join

theorem eq_some_of_givenParent {parent : Option (Option String)} {p : String}
    (h : givenParent parent = some p) : parent = some (some p) := by
  unfold givenParent at h
  exact Option.join_eq_some_iff.mp h

def pairArgs (key : PaneKey) (hkey : key.containerId ≠ "") (role : Option Role)
    (capability : Option Capability) (label projectPath : Option String)
    (parent : Option (Option String)) : Except RegistrationError RegisterArgs :=
  if hmaster : role = some .master then
    .error ⟨.masterViaRegisterSelfRejected,
      "register-self cannot assign role=master; register first, then run " ++
        "`agenttower set-role --role master --confirm`"⟩
  else if hswarm : role = some .swarm ∧ givenParent parent = none then
    .error ⟨.swarmParentRequired, "--role swarm requires --parent <agent-id>"⟩
  else if hpair : givenParent parent ≠ none ∧ role ≠ none ∧ role ≠ some .swarm then
    .error ⟨.parentRoleMismatch, "--parent only valid with --role swarm"⟩
  else
    .ok
      { key, role, capability, label, projectPath, parent
        container_ne := hkey
        not_master := hmaster
        swarm_parent := by
          intro hrole
          have hgiven : givenParent parent ≠ none := fun hnone => hswarm ⟨hrole, hnone⟩
          obtain ⟨p, hp⟩ := Option.ne_none_iff_exists'.mp hgiven
          exact ⟨p, eq_some_of_givenParent hp⟩
        parent_role := by
          rintro p rfl
          by_contra hrole
          rw [not_or] at hrole
          exact hpair ⟨by simp [givenParent], hrole⟩ }

/-- `register_agent` up to its lock. -/
def validateRegister (daemonSchemaVersion : Int) (params : RegisterParams) :
    Except RegistrationError RegisterArgs := do
  checkSchemaVersion daemonSchemaVersion params.schemaVersion
  if hempty : params.containerId = "" then
    .error ⟨.valueOutOfSet, "params.container_id must be a non-empty string"⟩
  else if hkey : (coercePaneKey params.paneCompositeKey).containerId ≠ params.containerId then
    .error ⟨.valueOutOfSet,
      "params.pane_composite_key.container_id must match params.container_id"⟩
  else do
    let role ← params.role.mapM validateRole
    let capability ← params.capability.mapM validateCapability
    let label ← params.label.mapM validateLabel
    let projectPath ← params.projectPath.mapM validateOptionalProjectPath
    let _ ← (givenParent params.parentAgentId).mapM validateParentAgentIdShape
    pairArgs (coercePaneKey params.paneCompositeKey)
      (by rw [not_not.mp hkey]; exact hempty) role capability label projectPath
      params.parentAgentId

theorem pairArgs_eq_ok {key : PaneKey} {hkey : key.containerId ≠ ""} {role : Option Role}
    {capability : Option Capability} {label projectPath : Option String}
    {parent : Option (Option String)} {args : RegisterArgs}
    (h : pairArgs key hkey role capability label projectPath parent = .ok args) :
    args.key = key ∧ args.role = role ∧ args.capability = capability ∧ args.label = label ∧
      args.projectPath = projectPath ∧ args.parent = parent := by
  unfold pairArgs at h
  split_ifs at h
  cases h
  exact ⟨rfl, rfl, rfl, rfl, rfl, rfl⟩

theorem validateRegister_eq_ok {daemonSchemaVersion : Int} {params : RegisterParams}
    {args : RegisterArgs} (h : validateRegister daemonSchemaVersion params = .ok args) :
    args.key = coercePaneKey params.paneCompositeKey ∧
      params.role.mapM validateRole = .ok args.role ∧
      params.capability.mapM validateCapability = .ok args.capability ∧
      params.label.mapM validateLabel = .ok args.label ∧
      params.projectPath.mapM validateOptionalProjectPath = .ok args.projectPath ∧
      args.parent = params.parentAgentId := by
  unfold validateRegister at h
  obtain ⟨-, -, h⟩ := bind_eq_ok.mp h
  split_ifs at h
  obtain ⟨role, hrole, h⟩ := bind_eq_ok.mp h
  obtain ⟨capability, hcapability, h⟩ := bind_eq_ok.mp h
  obtain ⟨label, hlabel, h⟩ := bind_eq_ok.mp h
  obtain ⟨projectPath, hprojectPath, h⟩ := bind_eq_ok.mp h
  obtain ⟨-, -, h⟩ := bind_eq_ok.mp h
  obtain ⟨hkey, rfl, rfl, rfl, rfl, hparent⟩ := pairArgs_eq_ok h
  exact ⟨hkey, hrole, hcapability, hlabel, hprojectPath, hparent⟩

end AgentTower.Agents
