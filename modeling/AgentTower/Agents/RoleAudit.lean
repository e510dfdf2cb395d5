import AgentTower.Lib.Links
import AgentTower.Lib.Pool
import AgentTower.Agents.Locks

/-!
# The audit rows of role changes

`register_agent` and `set_role` commit a role change and append its audit row afterwards, still under
their mutex: that of the pane, or that of the agent.  Two calls of one method wait for each other; of a
call of each, the one that commits first may append last.
-/

namespace AgentTower.Agents

open Transition Sql Fallible List Table
open Routing (PaneKey Role)
open Links (LeadTo)
open Pool (held held_perm)

/-! ## Calls -/

inductive RoleCall where
  | registerAgent (params : RegisterParams)
  | setRole (params : SetRoleParams)
  deriving DecidableEq, Repr

namespace RoleCall

/-- The mutex that the call holds from before its transaction until after its audit row. -/
def mutex : RoleCall → Resource
  | .registerAgent params => .pane (coercePaneKey params.paneCompositeKey)
  | .setRole params => .agent params.agentId

def isRegister : RoleCall → Bool
  | .registerAgent _ => true
  | .setRole _ => false

def validate (v : AgentService) : RoleCall → Except RegistrationError Unit
  | .registerAgent params => (validateRegister v.schemaVersion params).map fun _ => ()
  | .setRole params => (validateSetRole v params).map fun _ => ()

def transact (v : AgentService) (t : Tables) (o : RegisterOutside) :
    RoleCall → Except RegistrationError (Tables × Option RoleChange)
  | .registerAgent params => (Agents.registerAgent v t params o).map fun r => (r.tables, r.audit)
  | .setRole params => (Agents.setRole v t params).map fun u => (u.tables, u.audit)

def label (o : RegisterOutside) : RoleCall → Label
  | .registerAgent params => .registerAgent params o
  | .setRole params => .setRole params

end RoleCall

inductive CallPhase where
  | waiting
  | entered
  | committed (audit : Option RoleChange)
  deriving DecidableEq, Repr

structure RunningCall where
  call : RoleCall
  phase : CallPhase
  deriving DecidableEq, Repr

namespace RunningCall

def holds (c : RunningCall) : List Resource :=
  match c.phase with
  | .waiting => []
  | .entered | .committed _ => [c.call.mutex]

def pending (c : RunningCall) : List RoleChange :=
  match c.phase with
  | .waiting | .entered => []
  | .committed audit => audit.toList

end RunningCall

/-! ## Runs -/

open RunningCall (holds)

/-- `file` has the `agent_role_change` rows of the events file. -/
structure RoleState where
  tables : Tables
  calls : List RunningCall
  file : List RoleChange

namespace RoleState

def init : RoleState := ⟨Tables.empty, [], []⟩

def locked (s : RoleState) : List Resource := held holds s.calls

def pending (s : RoleState) : List RoleChange := held RunningCall.pending s.calls

end RoleState

/-- `i` is the place of a call among those in progress; `other` is any other writer. -/
inductive RoleLabel where
  | begin (call : RoleCall)
  | enter (i : Nat)
  | commit (i : Nat) (o : RegisterOutside)
  | fail (i : Nat)
  | append (i : Nat)
  | other (l : Label)

def Label.isRoleCall : Label → Bool
  | .registerAgent .. | .setRole _ => true
  | _ => false

/-- An exception rolls the transaction back and releases the mutex; every append succeeds. -/
def roleStep (v : AgentService) (s : RoleState) : RoleLabel → Option RoleState
  | .begin call =>
    match call.validate v with
    | .error _ => some s
    | .ok _ => some { s with calls := s.calls ++ [⟨call, .waiting⟩] }
  | .enter i =>
    match s.calls[i]? with
    | some ⟨call, .waiting⟩ =>
      if call.mutex ∈ s.locked then none
      else some { s with calls := s.calls.set i ⟨call, .entered⟩ }
    | _ => none
  | .commit i o =>
    match s.calls[i]? with
    | some ⟨call, .entered⟩ =>
      match call.transact v s.tables o with
      | .error _ => some { s with calls := s.calls.eraseIdx i }
      | .ok (tables, audit) =>
        some { s with tables, calls := s.calls.set i ⟨call, .committed audit⟩ }
    | _ => none
  | .fail i =>
    match s.calls[i]? with
    | some ⟨_, .entered⟩ => some { s with calls := s.calls.eraseIdx i }
    | _ => none
  | .append i =>
    match s.calls[i]? with
    | some ⟨_, .committed audit⟩ =>
      some { s with calls := s.calls.eraseIdx i, file := s.file ++ audit.toList }
    | _ => none
  | .other l =>
    if l.isRoleCall then none
    else (step v s.tables l).map fun tables => { s with tables }

inductive RoleMove (v : AgentService) (s : RoleState) : RoleLabel → RoleState → Prop
  | refused {call : RoleCall} : RoleMove v s (.begin call) s
  | began {call : RoleCall} :
      RoleMove v s (.begin call) { s with calls := s.calls ++ [⟨call, .waiting⟩] }
  | entered {i : Nat} {call : RoleCall} :
      s.calls[i]? = some ⟨call, .waiting⟩ → call.mutex ∉ s.locked →
      RoleMove v s (.enter i) { s with calls := s.calls.set i ⟨call, .entered⟩ }
  | committed {i : Nat} {o : RegisterOutside} {call : RoleCall} {tables : Tables}
      {audit : Option RoleChange} :
      s.calls[i]? = some ⟨call, .entered⟩ → call.transact v s.tables o = .ok (tables, audit) →
      RoleMove v s (.commit i o)
        { s with tables, calls := s.calls.set i ⟨call, .committed audit⟩ }
  | raised {l : RoleLabel} {i : Nat} {call : RoleCall} :
      s.calls[i]? = some ⟨call, .entered⟩ → RoleMove v s l { s with calls := s.calls.eraseIdx i }
  | appended {i : Nat} {call : RoleCall} {audit : Option RoleChange} :
      s.calls[i]? = some ⟨call, .committed audit⟩ →
      RoleMove v s (.append i)
        { s with calls := s.calls.eraseIdx i, file := s.file ++ audit.toList }
  | other {l : Label} {tables : Tables} :
      l.isRoleCall = false → step v s.tables l = some tables →
      RoleMove v s (.other l) { s with tables }

variable {v : AgentService} {s s' : RoleState}

variable {l : RoleLabel} {c : RunningCall} {p : AgentPatch} {agents : AgentTable}
  {args : RegisterArgs} {now : String} {tables : Tables}

theorem roleStep_move (h : roleStep v s l = some s') : RoleMove v s l s' := by
  cases l with
  | begin call =>
    simp only [roleStep] at h
    split at h <;> cases h
    · exact .refused
    · exact .began
  | enter i =>
    simp only [roleStep] at h
    split at h
    · rename_i call hcall
      split_ifs at h with hheld
      cases h
      exact .entered hcall hheld
    · cases h
  | commit i o =>
    simp only [roleStep] at h
    split at h
    · rename_i call hcall
      split at h <;> cases h
      · exact .raised hcall
      · rename_i htransact
        exact .committed hcall htransact
    · cases h
  | fail i =>
    simp only [roleStep] at h
    split at h <;> cases h
    rename_i hcall
    exact .raised hcall
  | append i =>
    simp only [roleStep] at h
    split at h <;> cases h
    rename_i hcall
    exact .appended hcall
  | other l =>
    simp only [roleStep] at h
    split_ifs at h with hrole
    obtain ⟨tables, htables, rfl⟩ := Option.map_eq_some_iff.mp h
    exact .other (by simpa using hrole) htables

/-! ## Roles -/

def roleOf (t : Tables) (agentId : String) : Option Role := (t.agents.get agentId).map AgentRecord.role

def Names (t : Tables) (agentId : String) : Resource → Prop
  | .pane key => ∃ a, t.agents.get agentId = some a ∧ a.key = key
  | .agent id => id = agentId
  | _ => False

variable {t t' : Tables} {agentId : String} {o : RegisterOutside} {call : RoleCall}
  {audit : Option RoleChange} {i : Nat}

theorem Names.mutex_eq {c d : RoleCall}
    (hc : Names t agentId c.mutex) (hd : Names t agentId d.mutex)
    (hmethod : c.isRegister = d.isRegister) : c.mutex = d.mutex := by
  cases c with
  | registerAgent params =>
    cases d with
    | registerAgent params' =>
      obtain ⟨a, ha, hkey⟩ := hc
      obtain ⟨b, hb, hkey'⟩ := hd
      rw [ha] at hb
      cases hb
      exact congrArg Resource.pane (hkey.symm.trans hkey')
    | setRole => cases hmethod
  | setRole params =>
    cases d with
    | registerAgent => cases hmethod
    | setRole params' => exact congrArg Resource.agent (Eq.trans hc (Eq.symm hd))

theorem Names.kept (h : Kept t t') {r : Resource}
    (hnames : Names t agentId r) : Names t' agentId r := by
  cases r with
  | pane key =>
    obtain ⟨a, ha, hkey⟩ := hnames
    obtain ⟨b, hb, hid⟩ := h a (mem_of_get ha)
    simp only [AgentRecord.identity, Prod.mk.injEq] at hid
    refine ⟨b, ?_, hid.2.1.trans hkey⟩
    rw [← key_of_get ha, ← hid.1]
    exact Table.get_of_mem hb
  | agent id => exact hnames
  | write | path => exact hnames.elim

/-- The audit row tells what the transaction did to the roles. -/
inductive RoleEffect (t t' : Tables) (mutex : Resource) : Option RoleChange → Prop
  | same : (∀ k, roleOf t' k = roleOf t k) → RoleEffect t t' mutex none
  | changed {change : RoleChange} :
      change.priorRole = roleOf t change.agentId →
      roleOf t' change.agentId = some change.newRole →
      (∀ k, k ≠ change.agentId → roleOf t' k = roleOf t k) →
      Names t' change.agentId mutex → RoleEffect t t' mutex (some change)

theorem roleOf_updateAll {role : Role}
    (hp : ∀ a, (p.set a).role = role) {a : AgentRecord} (ha : t.agents.get agentId = some a)
    (k : String) :
    roleOf { t with agents := t.agents.updateAll (ofAgentId agentId) p } k =
      if k = agentId then some role else roleOf t k := by
  unfold roleOf
  simp only [get_updateAll, Option.map_map]
  by_cases hk : k = agentId
  · have hid := key_of_get ha
    rw [if_pos hk, hk, ha]
    simp [Table.patched, ofAgentId, hid, hp]
  · rw [if_neg hk]
    cases hget : t.agents.get k with
    | none => rfl
    | some b =>
      have hid := key_of_get hget
      simp [Table.patched, ofAgentId, hid, hk]

theorem roleOf_updateAll_of_keeps {sel : AgentRecord → Bool}
    (hp : ∀ a, (p.set a).role = a.role) (k : String) :
    roleOf { t with agents := agents.updateAll sel p } k = roleOf { t with agents } k := by
  unfold roleOf
  simp only [get_updateAll, Option.map_map]
  refine congrArg (Option.map · _) (funext fun a => ?_)
  show (Table.patched p sel a).role = a.role
  unfold Table.patched
  split
  · exact hp a
  · rfl

theorem roleEffect_reRegistered {existing : AgentRecord}
    (hexisting : t.selectAgentByPaneKey args.key = some existing) :
    RoleEffect t (reRegistered t args existing now).tables (.pane args.key)
      (reRegistered t args existing now).audit := by
  obtain ⟨hmem, hkey⟩ := selected_key hexisting
  have hget := Table.get_of_mem hmem
  have hroles : ∀ k, roleOf (reRegistered t args existing now).tables k =
      if k = existing.agentId then some (args.role.getD existing.role) else roleOf t k :=
    roleOf_updateAll (fun _ => rfl) hget
  have hbefore : roleOf t existing.agentId = some existing.role := by
    unfold roleOf
    rw [hget]
    rfl
  unfold reRegistered
  simp only
  split_ifs with hsame
  · refine .same fun k => (hroles k).trans ?_
    split_ifs with hk
    · rw [hk, hbefore, hsame]
    · rfl
  · refine .changed hbefore.symm ((hroles _).trans (if_pos rfl))
      (fun k hk => (hroles k).trans (if_neg hk)) ⟨(reRegistration args existing now).set existing, ?_, hkey⟩
    rw [get_updateAll, hget]
    simp [Table.patched, ofAgentId]

theorem roleEffect_created (hinsert : t.agents.insert (newAgent args now agentId) = some agents) :
    RoleEffect t { t with agents } (.pane args.key)
      (some ⟨agentId, none, args.role.getD .unknown⟩) := by
  have hget := get_insert hinsert
  have hfresh : t.agents.get agentId = none := (insert_eq_some hinsert).1
  have hself : agents.get agentId = some (newAgent args now agentId) :=
    (hget agentId).trans (if_pos rfl)
  refine .changed ?_ ?_ (fun k hk => ?_) ⟨_, hself, rfl⟩
  · show none = roleOf t agentId
    unfold roleOf
    rw [hfresh]
    rfl
  · unfold roleOf
    rw [hself]
    rfl
  · unfold roleOf
    rw [hget k]
    exact congrArg _ (if_neg hk)

theorem roleEffect_registerAgent {params : RegisterParams}
    {registered : Registered} (h : registerAgent v t params o = .ok registered) :
    RoleEffect t registered.tables (RoleCall.registerAgent params).mutex registered.audit := by
  obtain ⟨args, hargs, hrow⟩ := registerAgent_eq_ok h
  have hmutex : (RoleCall.registerAgent params).mutex = .pane args.key :=
    congrArg Resource.pane (validateRegister_eq_ok hargs).1.symm
  rw [hmutex]
  obtain ⟨-, ⟨-, hcreate⟩ | ⟨existing, hexisting, hagain⟩⟩ := registerRow_eq_ok hrow
  · obtain ⟨agentId, agents, -, hinsert, rfl⟩ := createAgent_eq_ok hcreate
    exact roleEffect_created hinsert
  · obtain ⟨-, -, rfl⟩ := reRegisterAgent_eq_ok hagain
    exact roleEffect_reRegistered hexisting

theorem roleEffect_setRole {params : SetRoleParams} {updated : Updated Role}
    (h : setRole v t params = .ok updated) :
    RoleEffect t updated.tables (RoleCall.setRole params).mutex updated.audit := by
  unfold setRole at h
  obtain ⟨role, -, h⟩ := bind_eq_ok.mp h
  obtain ⟨fresh, hfresh, h⟩ := bind_eq_ok.mp h
  have hget := (selectActiveAgent_eq_ok.mp hfresh).1
  split_ifs at h with hmaster hnoop
  · cases h
    exact .same fun _ => rfl
  · cases h
    have hroles := roleOf_updateAll (p := updateAgentRole role (effectivePermissions role))
      (fun _ => rfl) hget
    refine .changed ?_ ((hroles _).trans (if_pos rfl)) (fun k hk => (hroles k).trans (if_neg hk)) rfl
    show some fresh.role = roleOf t params.agentId
    unfold roleOf
    rw [hget]
    rfl

theorem roleEffect_transact (h : call.transact v t o = .ok (t', audit)) :
    RoleEffect t t' call.mutex audit := by
  cases call with
  | registerAgent params =>
    obtain ⟨registered, hok, heq⟩ := map_eq_ok.mp h
    cases heq
    exact roleEffect_registerAgent hok
  | setRole params =>
    obtain ⟨updated, hok, heq⟩ := map_eq_ok.mp h
    cases heq
    exact roleEffect_setRole hok

theorem step_of_transact (h : call.transact v t o = .ok (t', audit)) :
    step v t (call.label o) = some t' := by
  cases call with
  | registerAgent params =>
    obtain ⟨registered, hok, heq⟩ := map_eq_ok.mp h
    cases heq
    show some (t.after _ (registerAgent v t params o)) = _
    rw [hok]
    rfl
  | setRole params =>
    obtain ⟨updated, hok, heq⟩ := map_eq_ok.mp h
    cases heq
    show some (t.after _ (setRole v t params)) = _
    rw [hok]
    rfl

theorem roleOf_step {l : Label} (hl : l.isRoleCall = false)
    (h : step v t l = some t') (k : String) : roleOf t' k = roleOf t k := by
  cases step_effect h with
  | same => rfl
  | created | reRegistered | roleSet => cases hl
  | labelSet | capabilitySet => exact roleOf_updateAll_of_keeps (fun _ => rfl) k
  | scanned hscan =>
    unfold roleOf
    rw [commitScan_agents hscan]
    exact (roleOf_updateAll_of_keeps (fun _ => rfl) k).trans
      (roleOf_updateAll_of_keeps (fun _ => rfl) k)
  | containers hscan =>
    obtain ⟨g, -, rfl⟩ := Option.map_eq_some_iff.mp hscan
    rfl

/-! ## The chain -/

def changesOf (agentId : String) (changes : List RoleChange) : List RoleChange :=
  changes.filter fun change => decide (change.agentId = agentId)

/-- No call commits a role change of an agent while a call of the other method has one of the same
agent to append. -/
def apart (v : AgentService) (s : RoleState) : RoleLabel → Bool
  | .commit i o =>
    match s.calls[i]? with
    | some c =>
      match c.call.transact v s.tables o with
      | .ok (_, some change) =>
        s.calls.all fun d =>
          decide (d.call.isRegister = c.call.isRegister) ||
            d.pending.all fun other => decide (other.agentId ≠ change.agentId)
      | _ => true
    | none => true
  | _ => true

structure RoleInv (s : RoleState) : Prop where
  exclusive : s.locked.Nodup
  names : ∀ c ∈ s.calls, ∀ change ∈ c.pending, Names s.tables change.agentId c.call.mutex
  one : ∀ k, (changesOf k s.pending).length ≤ 1
  chain : ∀ k, LeadTo RoleChange.priorRole RoleChange.newRole
    (changesOf k s.file ++ changesOf k s.pending) (roleOf s.tables k)

theorem RoleInv.init : RoleInv RoleState.init where
  exclusive := nodup_nil
  names _ hc := absurd hc not_mem_nil
  one _ := Nat.zero_le 1
  chain _ := .nil

theorem changesOf_append (k : String) (l l' : List RoleChange) :
    changesOf k (l ++ l') = changesOf k l ++ changesOf k l' :=
  filter_append ..

theorem changesOf_perm (k : String) {l l' : List RoleChange} (h : l.Perm l') :
    (changesOf k l).Perm (changesOf k l') :=
  h.filter _

theorem eq_of_perm_of_length_le_one {α : Type} {l l' : List α} (h : l.Perm l')
    (hlength : l.length ≤ 1) : l = l' := by
  match l, hlength with
  | [], _ => exact h.nil_eq
  | [a], _ => exact singleton_perm.mp h

theorem RoleInv.same (h : RoleInv s) {calls : List RunningCall} (hlocked : (held holds calls).Nodup)
    (hnames : ∀ c ∈ calls, ∀ change ∈ c.pending, Names t change.agentId c.call.mutex)
    (hpending : (held RunningCall.pending calls).Perm s.pending)
    (hroles : ∀ k, roleOf t k = roleOf s.tables k) :
    RoleInv { s with tables := t, calls } := by
  have hsame : ∀ k, changesOf k s.pending = changesOf k (held RunningCall.pending calls) :=
    fun k => eq_of_perm_of_length_le_one (changesOf_perm k hpending.symm) (h.one k)
  refine ⟨hlocked, hnames, fun k => ?_, fun k => ?_⟩
  · show (changesOf k (held RunningCall.pending calls)).length ≤ 1
    rw [← hsame k]
    exact h.one k
  · show LeadTo _ _ (changesOf k s.file ++ changesOf k (held RunningCall.pending calls))
      (roleOf t k)
    rw [← hsame k, hroles k]
    exact h.chain k

theorem RoleInv.nodup_set (h : RoleInv s)
    (hcall : s.calls[i]? = some c) (c' : RunningCall) (hmutex : c'.holds = [c'.call.mutex])
    (hfree : c.holds = c'.holds ∨ c'.call.mutex ∉ s.locked) :
    (held holds (s.calls.set i c')).Nodup := by
  have hbefore := held_perm holds hcall
  have hnodup := hbefore.nodup_iff.mp h.exclusive
  rw [(Pool.held_set_perm holds hcall c').nodup_iff]
  rcases hfree with hsame | hfree
  · rw [← hsame]
    exact hnodup
  · rw [hmutex]
    refine nodup_cons.mpr ⟨fun hmem => hfree ?_, (nodup_append.mp hnodup).2.1⟩
    exact hbefore.mem_iff.mpr (mem_append_right _ hmem)

theorem RoleInv.nodup_eraseIdx (h : RoleInv s) (hcall : s.calls[i]? = some c) :
    (held holds (s.calls.eraseIdx i)).Nodup :=
  (nodup_append.mp ((held_perm holds hcall).nodup_iff.mp h.exclusive)).2.1

/-- The agent of a change that is committed now has no other row pending: a call of the same method
would have had to wait, and one of the other method is excluded. -/
theorem RoleInv.none_pending (h : RoleInv s)
    {change : RoleChange} (hcall : s.calls[i]? = some ⟨call, .entered⟩)
    (htransact : call.transact v s.tables o = .ok (tables, some change))
    (hapart : apart v s (.commit i o) = true) (hkept : Kept s.tables tables)
    (hnames : Names tables change.agentId call.mutex) :
    ∀ d ∈ s.calls.eraseIdx i, ∀ other ∈ d.pending, other.agentId ≠ change.agentId := by
  intro d hd other hother heq
  have hmem : d ∈ s.calls := mem_of_mem_eraseIdx hd
  simp only [apart, hcall, htransact, all_eq_true, Bool.or_eq_true, decide_eq_true_eq] at hapart
  rcases hapart d hmem with hmethod | hother'
  · -- both name the agent, so they have one mutex, and both hold it
    have hmutex : d.call.mutex = call.mutex := by
      refine Names.mutex_eq (t := tables) ?_ hnames hmethod
      rw [← heq]
      exact (h.names d hmem other hother).kept hkept
    have hholds : d.call.mutex ∈ d.holds := by
      unfold RunningCall.pending at hother
      unfold holds
      split at hother
      · cases hother
      · cases hother
      · exact mem_singleton.mpr rfl
    have hheld : d.call.mutex ∈ held holds (s.calls.eraseIdx i) := Pool.mem_held hd hholds
    have hnodup := (held_perm holds hcall).nodup_iff.mp h.exclusive
    rw [hmutex] at hheld
    exact (nodup_cons.mp hnodup).1 hheld
  · exact hother' other hother heq

theorem RoleInv.committed (h : RoleInv s) (hcall : s.calls[i]? = some ⟨call, .entered⟩)
    (htransact : call.transact v s.tables o = .ok (tables, audit))
    (hapart : apart v s (.commit i o) = true) :
    RoleInv { s with tables, calls := s.calls.set i ⟨call, .committed audit⟩ } := by
  have hkept : Kept s.tables tables := (step_effect (step_of_transact htransact)).kept
  have hset := Pool.held_set_perm RunningCall.pending hcall ⟨call, .committed audit⟩
  have hbefore := held_perm RunningCall.pending hcall
  have hlocked := h.nodup_set hcall ⟨call, .committed audit⟩ rfl (.inl rfl)
  have hothers : ∀ c ∈ s.calls, ∀ change ∈ c.pending, Names tables change.agentId c.call.mutex :=
    fun c hc change hchange => (h.names c hc change hchange).kept hkept
  cases roleEffect_transact htransact with
  | same hroles =>
    refine h.same hlocked (fun c hc change hchange => ?_) (hset.trans hbefore.symm) hroles
    rcases mem_or_eq_of_mem_set hc with hc | rfl
    · exact hothers c hc change hchange
    · cases hchange
  | @changed change hprior hnew hother hnames =>
    have hnone := h.none_pending hcall htransact hapart hkept hnames
    have hempty : changesOf change.agentId (held RunningCall.pending (s.calls.eraseIdx i)) = [] := by
      refine filter_eq_nil_iff.mpr fun x hx => ?_
      obtain ⟨d, hd, hxd⟩ := mem_flatMap.mp hx
      simpa using hnone d hd x hxd
    have hidle : changesOf change.agentId s.pending = [] := by
      have hperm := changesOf_perm change.agentId hbefore
      rw [changesOf_append, hempty] at hperm
      exact hperm.eq_nil
    -- of no agent is more than one change pending, before and after
    have hone : ∀ k, (changesOf k [change] ++ changesOf k s.pending).length ≤ 1 := by
      intro k
      by_cases hk : k = change.agentId
      · rw [hk, hidle, append_nil]
        exact length_filter_le _ _
      · simpa [changesOf, Ne.symm hk] using h.one k
    have hafter : ∀ k, changesOf k (RoleState.pending
        { s with tables, calls := s.calls.set i ⟨call, .committed (some change)⟩ }) =
        changesOf k [change] ++ changesOf k s.pending := by
      intro k
      have hperm := (changesOf_perm k hset).trans
        (changesOf_perm k (hbefore.symm.append_left [change]))
      rw [changesOf_append] at hperm
      exact (eq_of_perm_of_length_le_one hperm.symm (hone k)).symm
    refine ⟨hlocked, fun c hc x hx => ?_, fun k => ?_, fun k => ?_⟩
    · rcases mem_or_eq_of_mem_set hc with hc | rfl
      · exact hothers c hc x hx
      · rw [mem_singleton.mp hx]
        exact hnames
    · rw [hafter k]
      exact hone k
    · rw [hafter k]
      by_cases hk : k = change.agentId
      · subst hk
        have hchain := h.chain change.agentId
        rw [hidle, append_nil] at hchain
        have hself : changesOf change.agentId [change] = [change] := by simp [changesOf]
        show LeadTo _ _ _ (roleOf tables change.agentId)
        rw [hidle, hself, append_nil, hnew]
        exact hchain.append hprior
      · have hskip : changesOf k [change] = [] := by
          simp [changesOf, Ne.symm hk]
        show LeadTo _ _ _ (roleOf tables k)
        rw [hskip, nil_append, hother k hk]
        exact h.chain k

theorem RoleInv.appended (h : RoleInv s) (hcall : s.calls[i]? = some ⟨call, .committed audit⟩) :
    RoleInv { s with calls := s.calls.eraseIdx i, file := s.file ++ audit.toList } := by
  have hbefore := held_perm RunningCall.pending hcall
  -- the row is the first of those pending, so it goes to the end of the file
  have hpending : ∀ k, changesOf k s.pending =
      changesOf k audit.toList ++ changesOf k (held RunningCall.pending (s.calls.eraseIdx i)) := by
    intro k
    have hperm := changesOf_perm k hbefore
    rw [changesOf_append] at hperm
    exact eq_of_perm_of_length_le_one hperm (h.one k)
  refine ⟨h.nodup_eraseIdx hcall, fun c hc => h.names c (mem_of_mem_eraseIdx hc), fun k => ?_,
    fun k => ?_⟩
  · have hone := h.one k
    rw [hpending k, length_append] at hone
    exact Nat.le_of_add_left_le hone
  · have hchain := h.chain k
    rw [hpending k, ← append_assoc, ← changesOf_append] at hchain
    exact hchain

theorem RoleInv.move (h : RoleInv s) (hapart : apart v s l = true)
    (hmove : RoleMove v s l s') : RoleInv s' := by
  cases hmove with
  | refused => exact h
  | @began call =>
    refine h.same ?_ (fun c hc => ?_) ?_ fun _ => rfl
    · rw [Pool.held_append, Pool.held_singleton]
      exact (append_nil _).symm ▸ h.exclusive
    · rcases mem_append.mp hc with hc | hc
      · exact h.names c hc
      · rw [mem_singleton.mp hc]
        exact nofun
    · rw [Pool.held_append, Pool.held_singleton]
      exact append_nil _ ▸ .refl _
  | @entered i call hcall hfree =>
    refine h.same (h.nodup_set hcall ⟨call, .entered⟩ rfl (.inr hfree)) (fun c hc => ?_) ?_ fun _ => rfl
    · rcases mem_or_eq_of_mem_set hc with hc | rfl
      · exact h.names c hc
      · exact nofun
    · exact (Pool.held_set_perm RunningCall.pending hcall _).trans
        (held_perm RunningCall.pending hcall).symm
  | committed hcall htransact => exact h.committed hcall htransact hapart
  | @raised _ i call hcall =>
    refine h.same (h.nodup_eraseIdx hcall) (fun c hc => h.names c (mem_of_mem_eraseIdx hc)) ?_
      fun _ => rfl
    exact (held_perm RunningCall.pending hcall).symm
  | appended hcall => exact h.appended hcall
  | other hl hstep =>
    have hkept := (step_effect hstep).kept
    exact h.same h.exclusive (fun c hc change hchange => (h.names c hc change hchange).kept hkept)
      (.refl _) (roleOf_step hl hstep)

abbrev RoleReachable (v : AgentService) : RoleState → Prop :=
  Reach (roleStep v) (fun s l => apart v s l = true) RoleState.init

theorem RoleReachable.roleInv (h : RoleReachable v s) : RoleInv s :=
  Reach.invariant RoleInv RoleInv.init
    (fun _ _ _ hinv hapart hstep => hinv.move hapart (roleStep_move hstep)) h

/-- The audit rows of an agent, in the order of the file, start without a prior role and continue each
other's roles; when no call has a row of the agent to append, they end at its role. -/
theorem role_changes_chained (h : RoleReachable v s) (agentId : String) :
    (∀ first ∈ (changesOf agentId s.file).head?, first.priorRole = none) ∧
      (changesOf agentId s.file).IsChain (fun a b => b.priorRole = some a.newRole) ∧
      (changesOf agentId s.pending = [] →
        (changesOf agentId s.file).getLast?.map RoleChange.newRole = roleOf s.tables agentId) := by
  have hinv := h.roleInv
  have hchain := hinv.chain agentId
  have hone := hinv.one agentId
  match hpending : changesOf agentId s.pending, hone with
  | [], _ =>
    rw [hpending, append_nil] at hchain
    exact ⟨hchain.first, hchain.linked, fun _ => hchain.last⟩
  | [change], _ =>
    rw [hpending] at hchain
    have hwritten := hchain.of_append
    exact ⟨hwritten.first, hwritten.linked, nofun⟩

def registeredLabels : List RoleLabel :=
  [.other (.scanContainers [sampleContainer] []), .other (.scanPanes ⟨[samplePane "%0"], [], "t1"⟩),
    .begin (.registerAgent (sampleSlave "%0")), .enter 0, .commit 0 (sampleOutside "t2" 0), .append 0]

def sampleSetRole (role : String) : RoleCall :=
  .setRole ⟨some 8, "agt_000000000000", role, false⟩

theorem role_changes_chained_setRole :
    ∃ s, RoleReachable sampleService s ∧
      changesOf "agt_000000000000" s.file =
        [⟨"agt_000000000000", none, .slave⟩, ⟨"agt_000000000000", some .slave, .shell⟩] ∧
      (changesOf "agt_000000000000" s.file).getLast?.map RoleChange.newRole =
        roleOf s.tables "agt_000000000000" := by
  obtain ⟨s, hs, hfile, hpending⟩ : ∃ s, runWhile (roleStep sampleService) (apart sampleService)
      RoleState.init (registeredLabels ++
        [.begin (sampleSetRole "shell"), .enter 0, .commit 0 (sampleOutside "t3" 1), .append 0]) = some s ∧
      changesOf "agt_000000000000" s.file =
        [⟨"agt_000000000000", none, .slave⟩, ⟨"agt_000000000000", some .slave, .shell⟩] ∧
      changesOf "agt_000000000000" s.pending = [] := by decide +kernel
  have hreach : RoleReachable sampleService s := reach_of_runWhile .start hs
  exact ⟨s, hreach, hfile, (role_changes_chained hreach "agt_000000000000").2.2 hpending⟩

/-- `register_agent` commits slave to shell and has its row to append when `set_role` commits and
appends shell to test-runner. -/
def crossedLabels : List RoleLabel :=
  registeredLabels ++
    [.begin (.registerAgent { bareParams "%0" with role := some "shell" }), .enter 0,
      .commit 0 (sampleOutside "t3" 1), .begin (sampleSetRole "test-runner"), .enter 1,
      .commit 1 (sampleOutside "t4" 2), .append 1, .append 0]

/-- The rows are in the file in the other order, and the last one is not the agent's role. -/
theorem role_changes_crossed :
    ∃ s, run (roleStep sampleService) RoleState.init crossedLabels = some s ∧
      s.calls = [] ∧
      changesOf "agt_000000000000" s.file =
        [⟨"agt_000000000000", none, .slave⟩, ⟨"agt_000000000000", some .shell, .testRunner⟩,
          ⟨"agt_000000000000", some .slave, .shell⟩] ∧
      ¬ (changesOf "agt_000000000000" s.file).IsChain (fun a b => b.priorRole = some a.newRole) ∧
      roleOf s.tables "agt_000000000000" = some .testRunner := by decide +kernel

end AgentTower.Agents
