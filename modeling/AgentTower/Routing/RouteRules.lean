import AgentTower.Routing.Permissions

/-!
# Routes and what their rules select

The columns of a route, the source scope, the arbitration of the master and the choice of the
target.  The `CHECK`s of `routes` tie each value column to its kind; the two are one type here.
-/

namespace AgentTower.Routing

open List
open Fallible (bind_eq_ok)

/-- `events.event_type`: what a route can subscribe to, and the audit rows that share the table. -/
inductive EventType where
  | activity | waitingForInput | completed | error | testFailed | testPassed
  | manualReviewNeeded | longRunning | paneExited | swarmMemberReported
  | audit
  deriving DecidableEq, Repr

structure Event where
  eventId : Nat
  eventType : EventType
  sourceAgentId : String
  excerpt : String
  observedAt : String
  deriving DecidableEq, Repr

/-- `source_scope_kind` and `source_scope_value`. -/
inductive SourceScope where
  | any
  | agentId (value : String)
  | role (value : String)
  deriving DecidableEq, Repr

/-- `target_rule` and `target_value`. -/
inductive TargetRule where
  | explicit (value : String)
  | source
  | role (value : String)
  deriving DecidableEq, Repr

/-- `master_rule` and `master_value`. -/
inductive MasterRule where
  | auto
  | explicit (value : String)
  deriving DecidableEq, Repr

structure RouteRow where
  routeId : String
  eventType : EventType
  sourceScope : SourceScope
  targetRule : TargetRule
  masterRule : MasterRule
  template : String
  enabled : Bool
  lastConsumedEventId : Nat
  createdAt : String
  deriving DecidableEq, Repr

/-! ## Source scope -/

inductive ParsedSourceScope where
  | any
  | agentId (agentId : String)
  | role (role : String) (capability : Option String)
  deriving DecidableEq, Repr

/-- `_TOKEN_RE.fullmatch`: one or more of `[A-Za-z0-9_-]`. -/
def isToken (s : List Char) : Bool :=
  !s.isEmpty && s.all fun c =>
    ('A' ≤ c && c ≤ 'Z') || ('a' ≤ c && c ≤ 'z') || ('0' ≤ c && c ≤ '9') || c = '_' || c = '-'

def valueError (message : String) : PyExc := ⟨.valueError, none, message⟩

def taggedToken (tag part : List Char) (missing malformed : PyExc) : Except PyExc String :=
  if !tag.isPrefixOf part then .error missing
  else if !isToken (part.drop tag.length) then .error malformed
  else .ok (String.ofList (part.drop tag.length))

def tokenPattern : String := "^[A-Za-z0-9_-]+$"

def roleToken (part : List Char) : Except PyExc String :=
  taggedToken "role:".toList part
    (valueError ("first part " ++ pyRepr (String.ofList part) ++ " must start with 'role:'"))
    (valueError ("role token " ++ pyRepr (String.ofList (part.drop 5)) ++ " must match "
      ++ tokenPattern))

def capabilityToken (part : List Char) : Except PyExc String :=
  taggedToken "capability:".toList part (valueError ("second part " ++ pyRepr (String.ofList part)
      ++ " must start with 'capability:'"))
    (valueError ("capability token " ++ pyRepr (String.ofList (part.drop 11)) ++ " must match "
      ++ tokenPattern))

def parseRoleCapability (raw : String) : Except PyExc (String × Option String) :=
  if raw = "" then .error (valueError "value must be a non-empty string")
  else
    match raw.toList.splitOn ',' with
    | [rolePart] => do
      let role ← roleToken rolePart
      pure (role, none)
    | [rolePart, capPart] => do
      let role ← roleToken rolePart
      let capability ← capabilityToken capPart
      pure (role, some capability)
    | _ =>
      .error (valueError ("too many comma-separated parts in " ++ pyRepr raw
        ++ "; expected role:<role> or role:<role>,capability:<cap>"))

def sourceScopeInvalid (message : String) : PyExc := ⟨.routeSourceScopeInvalid, none, message⟩

def parseSourceScopeValue : SourceScope → Except PyExc ParsedSourceScope
  | .any => .ok .any
  | .agentId raw =>
    if raw = "" then
      .error (sourceScopeInvalid
        "source_scope_kind='agent_id' requires a non-empty source_scope_value")
    else if isAgentId raw then .ok (.agentId raw)
    else
      .error (sourceScopeInvalid ("source_scope_value " ++ pyRepr raw
        ++ " must match agent_id pattern ^agt_[0-9a-f]\x7b12\x7d$"))
  | .role raw =>
    if raw = "" then
      .error (sourceScopeInvalid "source_scope_kind='role' requires a non-empty source_scope_value")
    else
      match parseRoleCapability raw with
      | .ok (role, capability) => .ok (.role role capability)
      | .error e =>
        .error (sourceScopeInvalid ("source_scope_value " ++ pyRepr raw
          ++ " (kind='role') is malformed: " ++ e.message))

def ParsedSourceScope.matches (parsed : ParsedSourceScope) (sourceAgentId : String)
    (source : AgentRecord) : Bool :=
  match parsed with
  | .any => true
  | .agentId value => decide (sourceAgentId = value)
  | .role roleName capability =>
    decide (source.role.text = roleName) &&
      match capability with
      | none => true
      | some c => decide (source.capability = c)

/-! ## Arbitration and target -/

/-- `SKIP_REASONS`, and the codes of the queue that the worker passes through as reasons. -/
inductive SkipReason where
  | noEligibleMaster | masterInactive | masterNotFound
  | targetNotFound | targetNotActive | noEligibleTarget
  | templateRenderError
  | queue (code : Option Code)
  deriving DecidableEq, Repr

inductive Arbitration where
  | won (agent : AgentRecord)
  | skip (reason : SkipReason)
  deriving DecidableEq, Repr

def lowestAgentId (agents : List AgentRecord) : Option AgentRecord :=
  (agents.insertionSort fun a b => a.agentId ≤ b.agentId).head?

def isActiveMaster (a : AgentRecord) : Bool := decide (a.role = .master) && a.active

def listActiveMasters (agents : List AgentRecord) : List AgentRecord := agents.filter isActiveMaster

def pickAuto (candidates : List AgentRecord) : Arbitration :=
  match lowestAgentId (candidates.filter isActiveMaster) with
  | none => .skip .noEligibleMaster
  | some winner => .won winner

def pickExplicit (candidates : List AgentRecord) (masterValue : String) : Arbitration :=
  match candidates.find? fun a => decide (a.agentId = masterValue) with
  | none => .skip .masterNotFound
  | some candidate => if isActiveMaster candidate then .won candidate else .skip .masterInactive

def pickMaster (rule : MasterRule) (activeMasters : List AgentRecord) : Arbitration :=
  match rule with
  | .auto => pickAuto activeMasters
  | .explicit masterValue => pickExplicit activeMasters masterValue

def listActiveByRole (agents : List AgentRecord) (role : String) (capability : Option String) :
    List AgentRecord :=
  let rows := agents.filter fun a => decide (a.role.text = role) && a.active
  match capability with
  | none => rows
  | some c => rows.filter fun a => decide (a.capability = c)

/-- `_resolve_target`; a skip is its `_TargetResolveSkip`. -/
def resolveRouteTarget (agents : List AgentRecord) (rule : TargetRule) (source : AgentRecord) :
    Except PyExc (Except SkipReason AgentRecord) :=
  match rule with
  | .explicit value =>
    match resolveTarget value agents with
    | .ok target => .ok (.ok target)
    | .error e =>
      if e.isinstance .targetResolveError then .ok (.error .targetNotFound) else .error e
  | .source => if source.active then .ok (.ok source) else .ok (.error .targetNotActive)
  | .role value => do
    let (role, capability) ← parseRoleCapability value
    match lowestAgentId (listActiveByRole agents role capability) with
    | none => pure (.error .noEligibleTarget)
    | some target => pure (.ok target)

/-! ### Targets are registered agents -/

variable {agents : List AgentRecord} {rule : TargetRule} {source : AgentRecord}
  {reason : SkipReason}

theorem mem_of_lowestAgentId {a : AgentRecord} (h : lowestAgentId agents = some a) : a ∈ agents :=
  (mem_insertionSort _).mp (mem_of_mem_head? h)

theorem mem_of_resolveRouteTarget
    {target : AgentRecord} (h : resolveRouteTarget agents rule source = .ok (.ok target)) :
    target ∈ source :: agents := by
  cases rule with
  | explicit value =>
    simp only [resolveRouteTarget] at h
    split at h
    · rename_i hresolve
      cases h
      exact mem_cons_of_mem _ (mem_of_resolveTarget hresolve)
    · split_ifs at h
      cases h
  | source =>
    simp only [resolveRouteTarget] at h
    split at h <;> cases h
    exact mem_cons_self
  | role value =>
    obtain ⟨⟨role, capability⟩, -, h⟩ := bind_eq_ok.mp h
    simp only at h
    split at h <;> cases h
    rename_i hlowest
    refine mem_cons_of_mem _ ?_
    have hmem := mem_of_lowestAgentId hlowest
    unfold listActiveByRole at hmem
    split at hmem
    · exact mem_of_mem_filter hmem
    · exact mem_of_mem_filter (mem_of_mem_filter hmem)

/-! ### The reasons of the rules are not codes of the queue -/

theorem pickMaster_reason {rule : MasterRule} {masters : List AgentRecord}
    (h : pickMaster rule masters = .skip reason) : ∀ code, reason ≠ .queue code := by
  cases rule with
  | auto =>
    simp only [pickMaster, pickAuto] at h
    split at h <;> cases h
    nofun
  | explicit masterValue =>
    simp only [pickMaster, pickExplicit] at h
    split at h
    · cases h
      nofun
    · split_ifs at h
      cases h
      nofun

theorem resolveRouteTarget_reason
    (h : resolveRouteTarget agents rule source = .ok (.error reason)) :
    ∀ code, reason ≠ .queue code := by
  cases rule with
  | explicit value =>
    simp only [resolveRouteTarget] at h
    split at h
    · cases h
    · split_ifs at h
      cases h
      nofun
  | source =>
    simp only [resolveRouteTarget] at h
    split at h <;> cases h
    nofun
  | role value =>
    obtain ⟨⟨role, capability⟩, -, h⟩ := bind_eq_ok.mp h
    simp only at h
    split at h <;> cases h
    nofun

end AgentTower.Routing
