import AgentTower.Routing.Permissions
import AgentTower.Lib.Table

/-!
# The registry behind the queue

The columns of `agents`, `panes` and `containers` that the delivery path reads, the transactions that
write them, and the adapters that read them.  A pane id such as `%0` is unique within one tmux server,
and a container may run several, each on its own socket.
-/

namespace AgentTower.Routing

open Sql Option Table
open Table (noCheck noIndex patched)

structure PaneKey where
  containerId : String
  tmuxSocketPath : String
  tmuxSessionName : String
  tmuxWindowIndex : Int
  tmuxPaneIndex : Int
  tmuxPaneId : String
  deriving DecidableEq, Repr

structure PaneRow where
  key : PaneKey
  active : Bool
  deriving DecidableEq, Repr

structure ContainerRow where
  containerId : String
  name : String
  configUser : Option String
  active : Bool
  deriving DecidableEq, Repr

structure AgentRow where
  agentId : String
  key : PaneKey
  role : Role
  capability : String
  label : String
  active : Bool
  deriving DecidableEq, Repr

namespace AgentRow

def boundPane (a : AgentRow) : Option PaneKey := some a.key

def record (a : AgentRow) : AgentRecord where
  agentId := a.agentId
  containerId := a.key.containerId
  tmuxPaneId := a.key.tmuxPaneId
  role := a.role
  capability := a.capability
  label := a.label
  active := a.active

end AgentRow

structure Registry where
  agents : Table AgentRow.agentId AgentRow.boundPane noCheck
  panes : Table PaneRow.key noIndex noCheck
  containers : Table ContainerRow.containerId noIndex noCheck

namespace Registry

def empty : Registry := ⟨Table.empty, Table.empty, Table.empty⟩

def records (g : Registry) : List AgentRecord := g.agents.rows.map AgentRow.record

/-! ## Writers -/

abbrev AgentPatch := Patch AgentRow.agentId AgentRow.boundPane

/-- The columns of a row that was registered before; an argument that is not given keeps its
column. -/
def mutableFields (role : Option Role) (capability label : Option String) (active : Option Bool) :
    AgentPatch where
  set a :=
    { a with
      role := role.getD a.role
      capability := capability.getD a.capability
      label := label.getD a.label
      active := active.getD a.active }
  key_set _ := rfl
  index_set _ := rfl

/-- `(pane_active, container_active) == (True, True)`. -/
def boundPaneIsActive (g : Registry) (key : PaneKey) : Bool :=
  (g.panes.get key).any PaneRow.active && (g.containers.get key.containerId).any ContainerRow.active

/-- The transaction of `register_agent`, with arguments that passed its validation; `agentId` is the
generated id, which a pane that has an agent does not use.  `none` is a rolled back transaction. -/
def registerAgent (g : Registry) (agentId : String) (key : PaneKey) (role : Option Role)
    (capability label : Option String) : Option Registry :=
  if g.boundPaneIsActive key then
    match g.agents.rows.find? fun a => decide (a.key = key) with
    | none =>
      (g.agents.insert
        ⟨agentId, key, role.getD .unknown, capability.getD "unknown", label.getD "", true⟩).map
        fun agents => { g with agents }
    | some existing =>
      (g.agents.update (fun a => decide (a.agentId = existing.agentId))
        (mutableFields role capability label (some true))).map
        fun agents => { g with agents }
  else none

/-- `set_role`, `set_capability` and `set_label`, each with one argument. -/
def updateAgent (g : Registry) (agentId : String) (role : Option Role)
    (capability label : Option String) : Option Registry :=
  (g.agents.update (fun a => decide (a.agentId = agentId))
    (mutableFields role capability label none)).map fun agents => { g with agents }

def setPaneActive (active : Bool) : Patch PaneRow.key noIndex where
  set p := { p with active }
  key_set _ := rfl
  index_set _ := rfl

/-- `apply_pane_reconcile_writeset`, with `cascade_agents_active_from_pane` in its transaction. -/
def reconcilePanes (g : Registry) (upserts inactivate : List PaneKey) : Option Registry := do
  let panes ← upserts.foldlM
    (fun panes key => panes.upsert ⟨key, true⟩ (setPaneActive true)) g.panes
  let panes ← panes.update (fun p => decide (p.key ∈ inactivate)) (setPaneActive false)
  let agents ← g.agents.update (fun a => decide (a.key ∈ inactivate))
    (mutableFields none none none (some false))
  pure { g with agents, panes }

def setContainer (name : String) (configUser : Option String) (active : Bool) :
    Patch ContainerRow.containerId noIndex where
  set c := { c with name, configUser, active }
  key_set _ := rfl
  index_set _ := rfl

def setContainerInactive : Patch ContainerRow.containerId noIndex where
  set c := { c with active := false }
  key_set _ := rfl
  index_set _ := rfl

/-- `_apply_write_set` of the container scan. -/
def reconcileContainers (g : Registry) (upserts : List ContainerRow) (inactivate : List String) :
    Option Registry := do
  let containers ← upserts.foldlM
    (fun containers c => containers.upsert c (setContainer c.name c.configUser c.active))
    g.containers
  let containers ← containers.update (fun c => decide (c.containerId ∈ inactivate))
    setContainerInactive
  pure { g with containers }

inductive Op where
  | registerAgent (agentId : String) (key : PaneKey) (role : Option Role)
      (capability label : Option String)
  | updateAgent (agentId : String) (role : Option Role) (capability label : Option String)
  | reconcilePanes (upserts inactivate : List PaneKey)
  | reconcileContainers (upserts : List ContainerRow) (inactivate : List String)
  deriving DecidableEq, Repr

def Op.apply (g : Registry) : Op → Option Registry
  | .registerAgent agentId key role capability label =>
    g.registerAgent agentId key role capability label
  | .updateAgent agentId role capability label => g.updateAgent agentId role capability label
  | .reconcilePanes upserts inactivate => g.reconcilePanes upserts inactivate
  | .reconcileContainers upserts inactivate => g.reconcileContainers upserts inactivate

def Op.upserted : Op → List PaneKey
  | .reconcilePanes upserts _ => upserts
  | _ => []

def Op.inactivated : Op → List PaneKey
  | .reconcilePanes _ inactivate => inactivate
  | _ => []

def looksLikeContainerId (value : String) : Bool :=
  value.length = 64 && value.toList.all fun c => "0123456789abcdef".toList.contains c.toLower

def isContainerActive (g : Registry) (containerId : String) : Bool :=
  (g.containers.rows.filter ContainerRow.active).any fun c => decide (c.containerId = containerId)

/-- `list_panes(active_only=True, container_filter=...)`; what is not shaped like an id is taken for
a name. -/
def listActivePanes (g : Registry) (containerFilter : String) : List PaneRow :=
  g.panes.rows.filter fun p =>
    (g.containers.get p.key.containerId).isSome && p.active &&
      if looksLikeContainerId containerFilter then decide (p.key.containerId = containerFilter)
      else (g.containers.get p.key.containerId).any fun c => decide (c.name = containerFilter)

def isPaneResolvable (g : Registry) (containerId paneId : String) : Bool :=
  (g.listActivePanes containerId).any fun p => decide (p.key.tmuxPaneId = paneId)

end Registry

structure DeliveryContext where
  containerId : String
  benchUser : String
  socketPath : String
  paneId : String
  deriving DecidableEq, Repr

namespace Registry

/-- The first query of `resolve`: `config_user or "root"`. -/
def benchUser (g : Registry) (containerId : String) : Option String :=
  ((g.containers.get containerId).filter ContainerRow.active).map fun c =>
    match c.configUser with
    | none | some "" => "root"
    | some user => user

/-- The rows that the second query of `resolve` matches.  It asks for the container, the pane id and
`active`, not for the socket, has no `ORDER BY` and takes one row. -/
def paneCandidates (g : Registry) (containerId paneId : String) : List PaneRow :=
  g.panes.rows.filter fun p =>
    decide (p.key.containerId = containerId) && decide (p.key.tmuxPaneId = paneId) && p.active

/-! ## An agent keeps its pane -/

def Bound (g : Registry) (agentId containerId socketPath paneId : String) : Prop :=
  ∃ a, g.agents.get agentId = some a ∧ a.key.containerId = containerId ∧
    a.key.tmuxSocketPath = socketPath ∧ a.key.tmuxPaneId = paneId

instance (g : Registry) (agentId containerId socketPath paneId : String) :
    Decidable (g.Bound agentId containerId socketPath paneId) :=
  decidable_of_iff ((g.agents.get agentId).any (fun a => decide (a.key.containerId = containerId ∧
      a.key.tmuxSocketPath = socketPath ∧ a.key.tmuxPaneId = paneId)) = true)
    (by simp only [any_eq_true, decide_eq_true_eq, Bound])

variable {g g' : Registry} {agentId containerId socketPath paneId : String} {op : Op}
  {upserts : List PaneKey} {key : PaneKey}

theorem Bound.update {sel : AgentRow → Bool} {p : AgentPatch}
    (h : g.Bound agentId containerId socketPath paneId)
    (hupdate : g.agents.update sel p = some g'.agents) :
    g'.Bound agentId containerId socketPath paneId := by
  obtain ⟨a, hget, hkey⟩ := h
  refine ⟨patched p sel a, ?_, ?_⟩
  · rw [get_update hupdate, hget, map_some]
  · have hsame : (patched p sel a).key = a.key := Option.some.inj (index_patched p sel a)
    rw [hsame]
    exact hkey

theorem Bound.apply
    (h : g.Bound agentId containerId socketPath paneId) (happly : op.apply g = some g') :
    g'.Bound agentId containerId socketPath paneId := by
  cases op with
  | registerAgent newId key role capability label =>
    simp only [Op.apply, registerAgent] at happly
    split_ifs at happly
    split at happly
    · obtain ⟨agents, hinsert, rfl⟩ := map_eq_some_iff.mp happly
      obtain ⟨a, hget, hkey⟩ := h
      refine ⟨a, ?_, hkey⟩
      -- the primary key keeps the id of the new row apart from that of the agent
      rw [get_insert hinsert, if_neg]
      · exact hget
      · intro hid
        rw [hid, (insert_eq_some hinsert).1] at hget
        cases hget
    · obtain ⟨agents, hupdate, rfl⟩ := map_eq_some_iff.mp happly
      exact h.update hupdate
  | updateAgent newId role capability label =>
    obtain ⟨agents, hupdate, rfl⟩ := map_eq_some_iff.mp happly
    exact h.update hupdate
  | reconcilePanes upserts inactivate =>
    simp only [Op.apply, reconcilePanes, bind_eq_bind, bind_eq_some_iff] at happly
    obtain ⟨panes, -, panes', -, agents, hupdate, heq⟩ := happly
    cases heq
    exact h.update hupdate
  | reconcileContainers upserts inactivate =>
    simp only [Op.apply, reconcileContainers, bind_eq_bind, bind_eq_some_iff] at happly
    obtain ⟨containers, -, containers', -, heq⟩ := happly
    cases heq
    exact h

/-! ## A pane stays gone until it is seen again -/

def PaneGone (g : Registry) (key : PaneKey) : Prop :=
  ∃ pane, g.panes.get key = some pane ∧ pane.active = false

theorem get_upsertPanes {panes panes' : Table PaneRow.key noIndex noCheck}
    (h : upserts.foldlM (fun panes key => panes.upsert ⟨key, true⟩ (setPaneActive true)) panes
      = some panes') (key : PaneKey) :
    panes'.get key = if key ∈ upserts then some ⟨key, true⟩ else panes.get key := by
  induction upserts generalizing panes with
  | nil =>
    cases h
    rfl
  | cons first rest ih =>
    obtain ⟨panes₁, hfirst, hrest⟩ := bind_eq_some_iff.mp h
    rw [ih hrest, get_upsert hfirst key]
    by_cases hmem : key ∈ rest
    · simp [hmem]
    · by_cases heq : key = first
      · subst heq
        cases hget : panes.get key with
        | none => simp [hmem]
        | some pane => simp [hmem, setPaneActive, key_of_get hget]
      · simp [hmem, heq]

theorem get_reconcilePanes {inactivate : List PaneKey}
    (h : g.reconcilePanes upserts inactivate = some g') (key : PaneKey) :
    g'.panes.get key = (if key ∈ upserts then some ⟨key, true⟩ else g.panes.get key).map fun pane =>
      if key ∈ inactivate then ⟨key, false⟩ else pane := by
  simp only [reconcilePanes, bind_eq_bind, bind_eq_some_iff] at h
  obtain ⟨panes, hupserts, panes', hupdate, agents, -, heq⟩ := h
  cases heq
  show panes'.get key = _
  rw [get_update hupdate, ← get_upsertPanes hupserts]
  refine map_congr fun pane hget => ?_
  simp [patched, setPaneActive, key_of_get hget]

theorem paneGone_reconcilePanes {inactivate : List PaneKey}
    (h : g.reconcilePanes upserts inactivate = some g') (hkey : key ∈ inactivate)
    (hpane : (g.panes.get key).isSome = true) : g'.PaneGone key := by
  obtain ⟨pane, hget⟩ := isSome_iff_exists.mp hpane
  refine ⟨⟨key, false⟩, ?_, rfl⟩
  rw [get_reconcilePanes h, hget]
  by_cases hseen : key ∈ upserts <;> simp [hkey, hseen]

theorem PaneGone.apply (h : g.PaneGone key)
    (happly : op.apply g = some g') (hkey : key ∉ op.upserted) : g'.PaneGone key := by
  cases op with
  | registerAgent newId key' role capability label =>
    simp only [Op.apply, registerAgent] at happly
    split_ifs at happly
    split at happly
    · obtain ⟨agents, -, rfl⟩ := map_eq_some_iff.mp happly
      exact h
    · obtain ⟨agents, -, rfl⟩ := map_eq_some_iff.mp happly
      exact h
  | updateAgent newId role capability label =>
    obtain ⟨agents, -, rfl⟩ := map_eq_some_iff.mp happly
    exact h
  | reconcilePanes upserts inactivate =>
    -- the pane is not among the upserts, and the update after them can only make it inactive
    obtain ⟨pane, hget, hactive⟩ := h
    unfold PaneGone
    rw [get_reconcilePanes happly, if_neg (show key ∉ upserts from hkey), hget]
    refine ⟨_, rfl, ?_⟩
    split
    · rfl
    · exact hactive
  | reconcileContainers upserts inactivate =>
    simp only [Op.apply, reconcileContainers, bind_eq_bind, bind_eq_some_iff] at happly
    obtain ⟨containers, -, containers', -, heq⟩ := happly
    cases heq
    exact h

end Registry

end AgentTower.Routing
