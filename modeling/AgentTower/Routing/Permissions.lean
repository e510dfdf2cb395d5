import Mathlib.Data.List.Sort
import AgentTower.Lib.Fallible
import AgentTower.Routing.Errors

/-!
# Agents, target resolution and the permission gate

The fields of an `AgentRecord` that the queue reads, `resolve_target`, and the two pure gates: the
six ordered steps at enqueue time and the four of them that are repeated at delivery time.
-/

namespace AgentTower.Routing

inductive Role where
  | master | slave | swarm | testRunner | shell | unknown
  deriving DecidableEq, Repr

def Role.text : Role → String
  | .master => "master"
  | .slave => "slave"
  | .swarm => "swarm"
  | .testRunner => "test-runner"
  | .shell => "shell"
  | .unknown => "unknown"

structure AgentRecord where
  agentId : String
  containerId : String
  tmuxPaneId : String
  role : Role
  capability : String
  label : String
  active : Bool
  deriving DecidableEq, Repr

/-! ## Target resolution -/

/-- `AGENT_ID_RE.match`: `^agt_[0-9a-f]{12}$`, where `$` also matches before a final newline. -/
def isAgentId (s : String) : Bool :=
  let hex (c : Char) : Bool := ('0' ≤ c && c ≤ '9') || ('a' ≤ c && c ≤ 'f')
  let body := if s.toList.getLast? = some '\n' then s.toList.dropLast else s.toList
  body.length = 16 && body.take 4 = "agt_".toList && (body.drop 4).all hex

def getAgentById (agents : List AgentRecord) (agentId : String) : Option AgentRecord :=
  agents.find? fun a => decide (a.agentId = agentId)

def findAgentsByLabel (agents : List AgentRecord) (label : String) (onlyActive : Bool) :
    List AgentRecord :=
  (agents.filter fun a => !onlyActive || a.active).filter fun a => decide (a.label = label)

def resolveTarget (input : String) (agents : List AgentRecord) : Except PyExc AgentRecord :=
  if isAgentId input then
    match getAgentById agents input with
    | none =>
      .error (targetResolveError .agentNotFound ("no agent registered with id " ++ pyRepr input))
    | some record => .ok record
  else
    match findAgentsByLabel agents input true with
    | [] =>
      .error (targetResolveError .agentNotFound
        ("no active agent with id or label " ++ pyRepr input))
    | [record] => .ok record
    | records =>
      let ids := ((records.map AgentRecord.agentId).insertionSort (· ≤ ·))
      .error (targetResolveError .targetLabelAmbiguous
        ("label " ++ pyRepr input ++ " matches multiple active agents: " ++ ", ".intercalate ids))

variable {agents : List AgentRecord} {a : AgentRecord} {input : String}

theorem mem_of_getAgentById {agentId : String}
    (h : getAgentById agents agentId = some a) : a ∈ agents :=
  List.mem_of_find?_eq_some h

theorem mem_of_resolveTarget (h : resolveTarget input agents = .ok a) : a ∈ agents := by
  unfold resolveTarget at h
  split at h
  · split at h <;> cases h
    rename_i hget
    exact mem_of_getAgentById hget
  · split at h <;> cases h
    rename_i hone
    have hmem : a ∈ findAgentsByLabel agents input true := by simp [hone]
    exact List.mem_of_mem_filter (List.mem_of_mem_filter hmem)

theorem agentId_of_resolveTarget
    (hid : isAgentId input = true) (h : resolveTarget input agents = .ok a) :
    a.agentId = input := by
  unfold resolveTarget at h
  rw [if_pos hid] at h
  split at h <;> cases h
  rename_i hget
  unfold getAgentById at hget
  simpa using List.find?_some hget

theorem resolveTarget_error {e : PyExc} (h : resolveTarget input agents = .error e) :
    e.cls = .targetResolveError ∧ e.code ≠ some .sqliteLockConflict := by
  unfold resolveTarget at h
  split at h
  · split at h <;> cases h
    exact ⟨rfl, nofun⟩
  · split at h <;> cases h
    · exact ⟨rfl, nofun⟩
    · exact ⟨rfl, nofun⟩

/-! ## The gates -/

/-- `Decision`: `block_reason` is there exactly when `ok` is false. -/
inductive Decision where
  | allow
  | block (reason : BlockReason)
  deriving DecidableEq, Repr

def permittedSenderRole (r : Role) : Bool := decide (r ∈ [Role.master])

def permittedTargetRole (r : Role) : Bool := decide (r ∈ [Role.slave, Role.swarm])

def evaluateEnqueuePermissions (sender target : AgentRecord)
    (routingEnabled targetContainerActive targetPaneResolvable : Bool) : Decision :=
  if !routingEnabled then .block .killSwitchOff
  -- an inactive master is refused under the same reason as a wrong role
  else if !permittedSenderRole sender.role || !sender.active then .block .senderRoleNotPermitted
  else if !target.active then .block .targetNotActive
  else if !permittedTargetRole target.role then .block .targetRoleNotPermitted
  else if !targetContainerActive then .block .targetContainerInactive
  else if !targetPaneResolvable then .block .targetPaneMissing
  else .allow

def recheckTargetOnly (target : AgentRecord)
    (routingEnabled targetContainerActive targetPaneResolvable : Bool) : Decision :=
  -- the gate's steps without those on roles and on the sender
  if !routingEnabled then .block .killSwitchOff
  else if !target.active then .block .targetNotActive
  else if !targetContainerActive then .block .targetContainerInactive
  else if !targetPaneResolvable then .block .targetPaneMissing
  else .allow

def permittedPair (sender target : AgentRecord) : Prop :=
  sender.role = .master ∧ sender.active = true ∧ (target.role = .slave ∨ target.role = .swarm)

instance (sender target : AgentRecord) : Decidable (permittedPair sender target) := by
  unfold permittedPair
  infer_instance

/-- Whether the gate gets as far as the role steps for a pair that they refuse: step 1 stands
before the sender's role, steps 1 to 3 before the target's. -/
def roleStepsReached (sender target : AgentRecord) (routingEnabled : Bool) : Prop :=
  routingEnabled = true ∧ (sender.role = .master ∧ sender.active = true → target.active = true)

instance (sender target : AgentRecord) (routingEnabled : Bool) :
    Decidable (roleStepsReached sender target routingEnabled) := by
  unfold roleStepsReached
  infer_instance

def BlockReason.isRole : BlockReason → Bool
  | .senderRoleNotPermitted | .targetRoleNotPermitted => true
  | _ => false

section Gate

variable {sender target : AgentRecord} {routingEnabled containerActive paneResolvable : Bool}

theorem permittedPair_of_allow
    (h : evaluateEnqueuePermissions sender target routingEnabled containerActive paneResolvable
      = .allow) : permittedPair sender target := by
  unfold evaluateEnqueuePermissions at h
  split_ifs at h with _ hsender _ htarget
  have hmaster : sender.role = .master ∧ sender.active = true := by
    simpa [permittedSenderRole] using hsender
  have hrole : target.role = .slave ∨ target.role = .swarm := by
    simpa [permittedTargetRole, or_iff_not_imp_left] using htarget
  exact ⟨hmaster.1, hmaster.2, hrole⟩

/-- A pair that is not permitted is refused for its roles if and only if the gate reaches the role
steps; otherwise an earlier reason hides them. -/
theorem isRole_iff_roleStepsReached {reason : BlockReason} (hpair : ¬ permittedPair sender target)
    (h : evaluateEnqueuePermissions sender target routingEnabled containerActive paneResolvable
      = .block reason) :
    reason.isRole = true ↔ roleStepsReached sender target routingEnabled := by
  unfold evaluateEnqueuePermissions at h
  unfold permittedPair at hpair
  unfold roleStepsReached
  split_ifs at h with hflag hsender hactive htarget hcontainer hpane <;> cases h <;>
    simp_all [BlockReason.isRole, permittedSenderRole, permittedTargetRole]
  -- left is the sender step: the implication about the target is vacuous for this sender
  intro hmaster hactive
  simp [hmaster, hactive] at hsender

theorem recheckTargetOnly_allow_iff :
    recheckTargetOnly target routingEnabled containerActive paneResolvable = .allow ↔
      routingEnabled = true ∧ target.active = true ∧ containerActive = true ∧
        paneResolvable = true := by
  unfold recheckTargetOnly
  split_ifs <;> simp_all

theorem not_isRole_of_recheck {reason : BlockReason}
    (h : recheckTargetOnly target routingEnabled containerActive paneResolvable = .block reason) :
    reason.isRole = false := by
  unfold recheckTargetOnly at h
  split_ifs at h <;> cases h <;> rfl

end Gate

end AgentTower.Routing
