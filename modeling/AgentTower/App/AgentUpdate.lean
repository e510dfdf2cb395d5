import AgentTower.App.AgentMutations

/-!
# An update that fails

The pass over the params is not the check that the service makes, and a call whose second field is
refused has committed its first.  Where the later fields pass the service's checks and nothing disturbs
a call that has begun to write, a failure comes before the first write.
-/

namespace AgentTower.App

open Transition Sql Fallible List Option Table
open Agents
open Routing (Role ContainerRow)

def FieldStep.rank : FieldStep → Nat
  | .role _ => 0
  | .capability _ => 1
  | .label _ => 2
  | .projectPath _ => 3

theorem FieldStep.rank_le (st : FieldStep) : st.rank ≤ 3 := by
  cases st <;> simp [FieldStep.rank]

theorem UpdateArgs.steps_ordered (args : UpdateArgs) :
    args.steps.Pairwise fun a b => a.rank < b.rank := by
  obtain ⟨agentId, role, capability, label, projectPath⟩ := args
  cases role <;> cases capability <;> cases label <;> cases projectPath <;>
    simp [UpdateArgs.steps, FieldStep.rank]

/-- The service's own check of the value; a role is always the first field and a project path has
no check. -/
def FieldStep.passesService : FieldStep → Bool
  | .role _ | .projectPath _ => true
  | .capability value => (validateCapability value).isOk
  | .label value => (Agents.validateLabel value).isOk

def agentActive (t : Tables) (agentId : String) : Bool :=
  (t.agents.get agentId).any AgentRecord.active

/-- The methods of the service write the row of an active agent only. -/
def Writable (agentId : String) (a : AgentRecord) : Prop :=
  validateAgentIdShape agentId = .ok () ∧ a.active = true

def RoleAllowed (t : Tables) (a : AgentRecord) (value : String) (role : Role) : Prop :=
  validateRole value = .ok role ∧ role ≠ .swarm ∧
    ¬(role = .master ∧ (t.containers.get a.key.containerId).any ContainerRow.active = false)

/-- What the request and the tables need for a field to be written. -/
def FieldStep.accepted (t : Tables) (agentId : String) (a : AgentRecord) : FieldStep → Prop
  | .role value => Writable agentId a ∧ ∃ role, RoleAllowed t a value role
  | .capability value => Writable agentId a ∧ (validateCapability value).isOk = true
  | .label value => Writable agentId a ∧ (Agents.validateLabel value).isOk = true
  | .projectPath _ => True

/-- The column has the value already. -/
def FieldStep.hasValue (a : AgentRecord) : FieldStep → Prop
  | .role value => validateRole value = .ok a.role
  | .capability value => validateCapability value = .ok a.capability
  | .label value => Agents.validateLabel value = .ok a.label
  | .projectPath value => value = a.projectPath

def UpdateCall.writing (c : UpdateCall) : Bool := c.outcome.isNone && !c.commits.isEmpty

/-- The fields after the first pass the service's checks; no transaction of a call raises once it has
committed; no other writer makes its agent inactive between. -/
def undisturbed (v : AgentService) (s : AppState) : AppLabel → Bool
  | .beginUpdate r => (beginUpdate r).todo.tail.all FieldStep.passesService
  | .nextUpdate i raises => !(raises && s.calls[i]?.any UpdateCall.writing)
  | l =>
    (appStep v s l).all fun s' => s.calls.all fun c =>
      !(c.writing && agentActive s.tables c.agentId) || agentActive s'.tables c.agentId

/-! ## What a field's transaction needs and keeps -/

variable {t t' : Tables} {agentId : String} {v : AgentService} {st : FieldStep} {c : UpdateCall}
  {s : AppState}

theorem agentActive_iff :
    agentActive t agentId = true ↔ ∃ a, t.agents.get agentId = some a ∧ a.active = true :=
  any_eq_true _ _

variable {α : Type} {s' : AppState} {l : AppLabel} {validate : String → Except RegistrationError α}
  {column : AgentRecord → α} {patch : α → AgentPatch} {a : AgentRecord} {value : String}

theorem set_of_unchanged {p : AgentPatch} (hget : t.agents.get agentId = some a)
    (h : { t with agents := t.agents.updateAll (ofAgentId agentId) p } = t) : p.set a = a := by
  have hrow := get_updateAll t.agents (ofAgentId agentId) p agentId
  have hagents : t.agents.updateAll (ofAgentId agentId) p = t.agents := congrArg Tables.agents h
  have hid : ofAgentId agentId a = true := decide_eq_true (key_of_get hget)
  rw [hagents, hget, Option.map_some, Table.patched, if_pos hid] at hrow
  exact (Option.some.inj hrow).symm

theorem setField_inv [DecidableEq α] {updated : Updated α}
    (hcolumn : ∀ checked a, column ((patch checked).set a) = checked)
    (h : setField v validate column patch t ⟨none, agentId, value⟩ = .ok updated) :
    ∃ a checked, t.agents.get agentId = some a ∧ Writable agentId a ∧
      validate value = .ok checked ∧ (updated.tables = t ↔ checked = column a) := by
  unfold setField at h
  obtain ⟨-, -, h⟩ := bind_eq_ok.mp h
  obtain ⟨_, hshape, h⟩ := bind_eq_ok.mp h
  obtain ⟨checked, hvalue, h⟩ := bind_eq_ok.mp h
  obtain ⟨a, hfresh, h⟩ := bind_eq_ok.mp h
  obtain ⟨hget, hactive⟩ := selectActiveAgent_eq_ok.mp hfresh
  refine ⟨a, checked, hget, ⟨hshape, hactive⟩, hvalue, ?_⟩
  split_ifs at h with hsame
  · cases h
    exact iff_of_true rfl hsame.symm
  · cases h
    exact ⟨fun hall => (hcolumn checked a).symm.trans (congrArg column (set_of_unchanged hget hall)),
      fun heq => absurd heq.symm hsame⟩

theorem setField_succeeds [DecidableEq α] (hget : t.agents.get agentId = some a)
    (hwritable : Writable agentId a) (hvalue : (validate value).isOk = true) :
    ∃ updated, setField v validate column patch t ⟨none, agentId, value⟩ = .ok updated := by
  have hfresh := selectActiveAgent_eq_ok.mpr ⟨hget, hwritable.2⟩
  cases hchecked : validate value with
  | error e =>
    rw [hchecked] at hvalue
    cases hvalue
  | ok checked =>
    unfold setField
    show ∃ updated, (validateAgentIdShape agentId >>= _) = _
    rw [bind_of_ok hwritable.1, bind_of_ok hchecked, bind_of_ok hfresh]
    split_ifs
    · exact ⟨_, rfl⟩
    · exact ⟨_, rfl⟩

theorem setRole_inv {updated : Updated Role}
    (h : setRole v t ⟨none, agentId, value, true⟩ = .ok updated) :
    ∃ a role, t.agents.get agentId = some a ∧ Writable agentId a ∧ RoleAllowed t a value role ∧
      (updated.tables = t ↔ role = a.role) := by
  unfold setRole at h
  obtain ⟨role, hrole, h⟩ := bind_eq_ok.mp h
  obtain ⟨a, hfresh, h⟩ := bind_eq_ok.mp h
  obtain ⟨hget, hactive⟩ := selectActiveAgent_eq_ok.mp hfresh
  obtain ⟨hvalid, hswarm⟩ := validateSetRole_eq_ok hrole
  unfold validateSetRole at hrole
  obtain ⟨-, -, hrole⟩ := bind_eq_ok.mp hrole
  obtain ⟨_, hshape, -⟩ := bind_eq_ok.mp hrole
  split_ifs at h with hmaster hsame
  all_goals
    cases h
    refine ⟨a, role, hget, ⟨hshape, hactive⟩, ⟨hvalid, hswarm, hmaster⟩, ?_⟩
  · exact iff_of_true rfl hsame.symm
  · exact ⟨fun hall => congrArg AgentRecord.role (set_of_unchanged hget hall),
      fun heq => absurd heq.symm hsame⟩

theorem setRole_succeeds {role : Role} (hget : t.agents.get agentId = some a)
    (hwritable : Writable agentId a) (hrole : RoleAllowed t a value role) :
    ∃ updated, setRole v t ⟨none, agentId, value, true⟩ = .ok updated := by
  obtain ⟨hrole, hswarm, hmaster⟩ := hrole
  have hvalid : validateSetRole v ⟨none, agentId, value, true⟩ = .ok role := by
    unfold validateSetRole
    show (validateAgentIdShape agentId >>= _) = _
    rw [bind_of_ok hwritable.1, bind_of_ok hrole, if_neg hswarm, if_neg (by simp)]
    rfl
  have hfresh := selectActiveAgent_eq_ok.mpr ⟨hget, hwritable.2⟩
  unfold setRole
  rw [bind_of_ok hvalid, bind_of_ok hfresh, if_neg hmaster]
  split_ifs
  · exact ⟨_, rfl⟩
  · exact ⟨_, rfl⟩

theorem serviceCall_of_ok {result : Except RegistrationError (Updated α)}
    (h : ∃ updated, result = .ok updated) : ∃ t', serviceCall agentId result = .ok t' := by
  obtain ⟨updated, rfl⟩ := h
  exact ⟨updated.tables, rfl⟩

theorem applyStep_of_accepted (hget : t.agents.get agentId = some a)
    (h : st.accepted t agentId a) : ∃ t', applyStep v t agentId st = .ok t' := by
  cases st with
  | role value =>
    obtain ⟨hwritable, role, hrole⟩ := h
    exact serviceCall_of_ok (setRole_succeeds hget hwritable hrole)
  | capability value | label value =>
    exact serviceCall_of_ok (setField_succeeds hget h.1 h.2)
  | projectPath value =>
    unfold applyStep
    simp only
    rw [hget]
    exact ⟨_, rfl⟩

theorem ok_iff_of_ok {β : Type} {result : Except RegistrationError β} {x y : β}
    (h : result = .ok x) : result = .ok y ↔ x = y := by
  rw [h, Except.ok.injEq]

/-- A field that is written has been accepted, and leaves the tables as they are exactly if the row has
its value. -/
theorem applyStep_inv (h : applyStep v t agentId st = .ok t') :
    ∃ a, t.agents.get agentId = some a ∧ st.accepted t agentId a ∧ (t' = t ↔ st.hasValue a) := by
  cases st with
  | role value =>
    obtain ⟨updated, hok, rfl⟩ := serviceCall_eq_ok h
    obtain ⟨a, role, hget, hwritable, hrole, hsame⟩ := setRole_inv hok
    exact ⟨a, hget, ⟨hwritable, role, hrole⟩, hsame.trans (ok_iff_of_ok hrole.1).symm⟩
  | capability value | label value =>
    obtain ⟨updated, hok, rfl⟩ := serviceCall_eq_ok h
    obtain ⟨a, checked, hget, hwritable, hvalue, hsame⟩ := setField_inv (fun _ _ => rfl) hok
    exact ⟨a, hget, ⟨hwritable, by rw [hvalue]; rfl⟩, hsame.trans (ok_iff_of_ok hvalue).symm⟩
  | projectPath value =>
    unfold applyStep at h
    simp only at h
    split at h <;> cases h
    rename_i a hget
    refine ⟨a, hget, trivial, ?_, ?_⟩
    · exact fun hall => congrArg AgentRecord.projectPath (set_of_unchanged hget hall)
    · rintro rfl
      have hsame : t.agents.updateAll (ofAgentId agentId) (updateAgentProjectPath a.projectPath) =
          t.agents := by
        refine updateAll_of_unchanged _ _ _ fun r hr hsel => ?_
        have hr' := Table.get_of_mem hr
        rw [of_decide_eq_true hsel, hget] at hr'
        cases hr'
        rfl
      rw [hsame]

theorem applyStep_needs (h : applyStep v t agentId st = .ok t') (hrank : st.rank < 3) :
    validateAgentIdShape agentId = .ok () ∧ agentActive t agentId = true := by
  obtain ⟨a, hget, haccepted, -⟩ := applyStep_inv h
  have hwritable : Writable agentId a := by
    cases st with
    | role | capability | label => exact haccepted.1
    | projectPath => exact absurd hrank (lt_irrefl 3)
  exact ⟨hwritable.1, agentActive_iff.mpr ⟨a, hget, hwritable.2⟩⟩

theorem applyStep_passes (h : applyStep v t agentId st = .ok t') : st.passesService = true := by
  obtain ⟨a, -, haccepted, -⟩ := applyStep_inv h
  cases st with
  | role | projectPath => rfl
  | capability | label => exact haccepted.2

theorem applyStep_row (h : applyStep v t agentId st = .ok t') :
    (t.agents.get agentId).isSome = true := by
  obtain ⟨a, hget, -⟩ := applyStep_inv h
  rw [hget]
  rfl

/-- A field after the first commits if its value passes the service's check and the agent is active, and
changes nothing exactly if the row has its value. -/
theorem applyStep_later (hlater : 0 < st.rank) (hpasses : st.passesService = true)
    (hshape : validateAgentIdShape agentId = .ok ()) (hactive : agentActive t agentId = true) :
    (∃ t', applyStep v t agentId st = .ok t') ∧ ∀ a, t.agents.get agentId = some a →
      (applyStep v t agentId st = .ok t ↔ st.hasValue a) := by
  obtain ⟨a, hget, hon⟩ := agentActive_iff.mp hactive
  have haccepted : st.accepted t agentId a := by
    cases st with
    | role value => exact absurd hlater (lt_irrefl 0)
    | capability value | label value => exact ⟨⟨hshape, hon⟩, hpasses⟩
    | projectPath value => trivial
  obtain ⟨t', happly⟩ := applyStep_of_accepted (v := v) hget haccepted
  refine ⟨⟨t', happly⟩, fun b hb => ?_⟩
  obtain ⟨c, hc, -, hsame⟩ := applyStep_inv happly
  cases hc.symm.trans hb
  rw [happly, Except.ok.injEq, hsame]

theorem FieldStep.Writes.keeps {p : AgentPatch} (h : st.Writes p) :
    KeepsIdentity p ∧ ∀ a, (p.set a).active = a.active := by
  cases h <;> exact ⟨fun _ => rfl, fun _ => rfl⟩

theorem applyStep_kept (h : applyStep v t agentId st = .ok t') : Kept t t' := by
  rcases applyStep_eq_ok h with rfl | ⟨p, hp, rfl⟩
  · exact Kept.refl _
  · exact kept_updateAll hp.keeps.1 (Kept.refl t) rfl

theorem applyStep_active (h : applyStep v t agentId st = .ok t') (agentId' : String) :
    agentActive t' agentId' = agentActive t agentId' := by
  rcases applyStep_eq_ok h with rfl | ⟨p, hp, rfl⟩
  · rfl
  · unfold agentActive
    rw [get_updateAll, Option.any_map]
    congr 1
    funext a
    show (Table.patched p _ a).active = a.active
    unfold Table.patched
    split
    · exact hp.keeps.2 a
    · rfl

theorem isSome_of_kept (h : Kept t t')
    (hrow : (t.agents.get agentId).isSome = true) : (t'.agents.get agentId).isSome = true := by
  obtain ⟨a, hget⟩ := isSome_iff_exists.mp hrow
  obtain ⟨b, hb, hid⟩ := h a (mem_of_get hget)
  have hagentId : b.agentId = a.agentId := congrArg Prod.fst hid
  have hget' := Table.get_of_mem hb
  rw [hagentId, Table.key_of_get hget] at hget'
  rw [hget']
  rfl

/-! ## The invariant of a call -/

structure Writing (t : Tables) (c : UpdateCall) : Prop where
  row : (t.agents.get c.agentId).isSome = true
  later : ∀ st ∈ c.todo, 0 < st.rank ∧ st.passesService = true
  active : c.todo ≠ [] → validateAgentIdShape c.agentId = .ok () ∧ agentActive t c.agentId = true

structure CallOk (t : Tables) (c : UpdateCall) : Prop where
  ordered : c.todo.Pairwise fun a b => a.rank < b.rank
  tail : ∀ st ∈ c.todo.tail, st.passesService = true
  failed : ∀ f, c.outcome = some (.error f) → c.commits = []
  writing : c.writing = true → Writing t c

theorem callOk_beginUpdate (t : Tables) {r : UpdateRequest}
    (h : (beginUpdate r).todo.tail.all FieldStep.passesService = true) :
    CallOk t (beginUpdate r) := by
  have htail := all_eq_true.mp h
  unfold beginUpdate at htail ⊢
  cases hvalid : validateUpdate r with
  | error f => exact ⟨.nil, fun st hst => absurd hst not_mem_nil, fun _ _ => rfl, nofun⟩
  | ok args =>
    rw [hvalid] at htail
    exact ⟨args.steps_ordered, htail, nofun, nofun⟩

theorem CallOk.transfer (h : CallOk t c) (hkept : Kept t t')
    (hactive : c.writing = true → agentActive t c.agentId = true →
      agentActive t' c.agentId = true) : CallOk t' c where
  ordered := h.ordered
  tail := h.tail
  failed := h.failed
  writing hw :=
    have hwriting := h.writing hw
    { row := isSome_of_kept hkept hwriting.row
      later := hwriting.later
      active := fun htodo =>
        ⟨(hwriting.active htodo).1, hactive hw (hwriting.active htodo).2⟩ }

theorem CallOk.commit {todo : List FieldStep} (h : CallOk t c) (hrunning : c.outcome = none)
    (htodo : c.todo = st :: todo) (happly : applyStep v t c.agentId st = .ok t') :
    CallOk t' { c with todo, commits := c.commits ++ [(t, t')] } := by
  have hordered := h.ordered
  have htail := h.tail
  rw [htodo] at hordered htail
  rw [pairwise_cons] at hordered
  refine ⟨hordered.2, fun st' hst' => htail st' (mem_of_mem_tail hst'), ?_, fun _ => ?_⟩
  · intro f hf
    rw [hrunning] at hf
    cases hf
  · refine ⟨isSome_of_kept (applyStep_kept happly) (applyStep_row happly), fun st' hst' => ?_,
      fun hne => ?_⟩
    · exact ⟨Nat.zero_lt_of_lt (hordered.1 st' hst'), htail st' hst'⟩
    · -- a field is left, so this one was not the project path
      have hrank : st.rank < 3 := by
        obtain ⟨st', hst'⟩ := exists_mem_of_ne_nil todo hne
        have hlt := hordered.1 st' hst'
        exact lt_of_lt_of_le hlt st'.rank_le
      obtain ⟨hshape, hactive⟩ := applyStep_needs happly hrank
      exact ⟨hshape, (applyStep_active happly c.agentId).trans hactive⟩

theorem Writing.not_failed {f : Failure} (h : Writing t c) (hrunning : c.outcome = none) :
    (c.next v t false).2.outcome ≠ some (.error f) := by
  unfold UpdateCall.next
  split
  · obtain ⟨a, hget⟩ := isSome_iff_exists.mp h.row
    rw [if_neg Bool.false_ne_true, hget]
    simp
  · rename_i st todo htodo
    have hmem : st ∈ c.todo := htodo ▸ mem_cons_self
    obtain ⟨hshape, hactive⟩ := h.active (ne_nil_of_mem hmem)
    obtain ⟨hlater, hpasses⟩ := h.later st hmem
    obtain ⟨⟨t', hok⟩, -⟩ := applyStep_later (v := v) hlater hpasses hshape hactive
    rw [if_neg Bool.false_ne_true, hok]
    simp [hrunning]

theorem CallOk.next {raises : Bool}
    (h : CallOk t c) (hrunning : c.outcome = none) (hraises : (raises && c.writing) = false) :
    CallOk (c.next v t raises).1 (c.next v t raises).2 := by
  rcases c.next_cases v t raises with ⟨result, hnext⟩ | ⟨st, todo, t', htodo, happly, hnext⟩
  · rw [hnext]
    refine ⟨h.ordered, h.tail, fun f hf => ?_, nofun⟩
    by_contra hcommits
    have hw : c.writing = true := by
      unfold UpdateCall.writing
      rw [hrunning]
      simpa using hcommits
    have hfalse : raises = false := by simpa [hw] using hraises
    have hnot := (h.writing hw).not_failed (v := v) (f := f) hrunning
    rw [hfalse] at hnext
    rw [hnext] at hnot
    exact hnot hf
  · rw [hnext]
    exact h.commit hrunning htodo happly

/-! ## Runs -/

def CallsOk (s : AppState) : Prop := ∀ c ∈ s.calls, CallOk s.tables c

theorem CallsOk.other (h : CallsOk s)
    (hstep : appStep v s l = some s') (hcalls : s'.calls = s.calls)
    (hkept : Kept s.tables s'.tables) (hok : ((appStep v s l).all fun s' => s.calls.all fun c =>
      !(c.writing && agentActive s.tables c.agentId) || agentActive s'.tables c.agentId) = true) :
    CallsOk s' := by
  intro c hc
  rw [hcalls] at hc
  rw [hstep] at hok
  have hc' := all_eq_true.mp hok c hc
  refine (h c hc).transfer hkept fun hw hactive => ?_
  rw [hw, hactive] at hc'
  simpa using hc'

theorem CallsOk.step (h : CallsOk s)
    (hok : undisturbed v s l = true) (hstep : appStep v s l = some s') : CallsOk s' := by
  cases l with
  | service l =>
    have hstep' := hstep
    obtain ⟨t, ht, rfl⟩ := map_eq_some_iff.mp hstep
    exact h.other hstep' rfl (step_effect ht).kept hok
  | registerFromPane pre r o =>
    have hkept : Kept s.tables
        (tablesAfter s.tables (appAgentRegisterFromPane v pre s.tables r o)) := by
      rcases tablesAfter_step v pre s.tables r o with hsame | ⟨l, hl⟩
      · rw [hsame]
        exact Kept.refl _
      · exact (step_effect hl).kept
    have hstep' := hstep
    cases hstep
    exact h.other hstep' rfl hkept hok
  | beginUpdate r =>
    cases hstep
    intro c hc
    rcases mem_append.mp hc with hc | hc
    · exact h c hc
    · rw [mem_singleton.mp hc]
      exact callOk_beginUpdate s.tables hok
  | nextUpdate i raises =>
    unfold appStep at hstep
    simp only at hstep
    split at hstep
    · rename_i c hget
      split_ifs at hstep with houtcome
      cases hstep
      have hrunning : c.outcome = none := by simpa using houtcome
      have hraises : (raises && c.writing) = false := by
        unfold undisturbed at hok
        simp only at hok
        rw [hget] at hok
        exact (Bool.not_eq_true' _).mp hok
      intro c' hc'
      rcases mem_or_eq_of_mem_set hc' with hother | rfl
      · -- the transaction of one call keeps what the others rely on
        rcases c.next_cases v s.tables raises with ⟨result, hnext⟩ |
          ⟨st, todo, t', -, happly, hnext⟩
        · rw [hnext]
          exact h c' hother
        · rw [hnext]
          exact (h c' hother).transfer (applyStep_kept happly) fun _ hactive =>
            (applyStep_active happly c'.agentId).trans hactive
      · exact (h c (mem_of_getElem? hget)).next hrunning hraises
    · cases hstep

theorem callsOk_of_reach (h : Reach (appStep v) (fun s l => undisturbed v s l = true) (.init t) s) :
    CallsOk s :=
  h.invariant CallsOk (fun _ hc => absurd hc not_mem_nil) fun _ _ _ hinv hok hstep =>
    hinv.step hok hstep

/-! ## One call by itself -/

def UpdateCall.finish (v : AgentService) : Nat → Tables → UpdateCall → UpdateCall
  | 0, _, c => c
  | n + 1, t, c =>
    if c.outcome.isSome then c else (c.next v t false).2.finish v n (c.next v t false).1

/-- A call that no other writer and no exception disturbs. -/
def appAgentUpdate (v : AgentService) (t : Tables) (r : UpdateRequest) : UpdateCall :=
  (beginUpdate r).finish v ((beginUpdate r).todo.length + 1) t

def UpdateCall.leavesRows (c : UpdateCall) : Prop :=
  ∀ f, c.outcome = some (.error f) → ∀ commit ∈ c.commits, commit.2 = commit.1

/-- If the first field is accepted, then so are the later ones, or those before the first that is not
have the values of the row. -/
def UpdateCall.whole (t : Tables) (c : UpdateCall) : Prop :=
  match c.todo with
  | [] => True
  | first :: rest => ∀ a, t.agents.get c.agentId = some a → first.accepted t c.agentId a →
      rest.all FieldStep.passesService = true ∨
        ∀ q ∈ first :: rest.takeWhile FieldStep.passesService, q.hasValue a

theorem UpdateCall.finish_of_outcome (h : c.outcome.isSome = true) (n : Nat) (t : Tables) :
    c.finish v n t = c := by
  cases n with
  | zero => rfl
  | succ n => exact if_pos h

theorem UpdateCall.finish_next (h : c.outcome = none) (n : Nat) :
    c.finish v (n + 1) t = (c.next v t false).2.finish v n (c.next v t false).1 :=
  if_neg (by simp [h])

theorem UpdateCall.next_ok {todo : List FieldStep} (htodo : c.todo = st :: todo)
    (happly : applyStep v t c.agentId st = .ok t') :
    c.next v t false = (t', { c with todo, commits := c.commits ++ [(t, t')] }) := by
  unfold UpdateCall.next
  rw [htodo]
  simp only [Bool.false_eq_true, if_false]
  rw [happly]

theorem UpdateCall.next_error {todo : List FieldStep} {f : Failure} (htodo : c.todo = st :: todo)
    (happly : applyStep v t c.agentId st = .error f) :
    c.next v t false = (t, { c with outcome := some (.error f) }) := by
  unfold UpdateCall.next
  rw [htodo]
  simp only [Bool.false_eq_true, if_false]
  rw [happly]

/-- The fields after the first: each is committed until one does not pass the service's check. -/
theorem leavesRows_finish_iff (hrunning : c.outcome = none) (hrow : (t.agents.get c.agentId).isSome = true)
    (hlater : ∀ st ∈ c.todo, 0 < st.rank)
    (hactive : c.todo ≠ [] →
      validateAgentIdShape c.agentId = .ok () ∧ agentActive t c.agentId = true) :
    (c.finish v (c.todo.length + 1) t).leavesRows ↔
      c.todo.all FieldStep.passesService = true ∨ (∀ commit ∈ c.commits, commit.2 = commit.1) ∧
        ∀ q ∈ c.todo.takeWhile FieldStep.passesService, applyStep v t c.agentId q = .ok t := by
  obtain ⟨agentId, todo, commits, outcome⟩ := c
  obtain rfl : outcome = none := hrunning
  induction todo generalizing t commits with
  | nil =>
    obtain ⟨a, hget⟩ := isSome_iff_exists.mp hrow
    have hnext : (UpdateCall.mk agentId [] commits none).next v t false =
        (t, ⟨agentId, [], commits, some (.ok a)⟩) := by
      unfold UpdateCall.next
      simp only [Bool.false_eq_true, if_false]
      rw [hget]
    rw [UpdateCall.finish_next rfl, hnext]
    exact ⟨fun _ => .inl rfl, fun _ _ hf => by cases hf⟩
  | cons q rest ih =>
    obtain ⟨hq, hrest⟩ := forall_mem_cons.mp hlater
    obtain ⟨hshape, hon⟩ := hactive (cons_ne_nil _ _)
    rw [UpdateCall.finish_next rfl]
    cases hpasses : q.passesService with
    | true =>
      obtain ⟨⟨t', happly⟩, -⟩ := applyStep_later (v := v) hq hpasses hshape hon
      rw [UpdateCall.next_ok rfl happly]
      refine (ih _ (isSome_of_kept (applyStep_kept happly) hrow) hrest (fun _ => ⟨hshape,
        (applyStep_active happly agentId).trans hon⟩)).trans ?_
      simp only [all_cons, hpasses, Bool.true_and, takeWhile_cons_of_pos, forall_mem_append,
        forall_mem_singleton, forall_mem_cons, happly, Except.ok.injEq]
      refine or_congr_right ⟨?_, ?_⟩
      · rintro ⟨⟨hold, rfl⟩, hkeep⟩
        exact ⟨hold, rfl, hkeep⟩
      · rintro ⟨hold, rfl, hkeep⟩
        exact ⟨⟨hold, rfl⟩, hkeep⟩
    | false =>
      cases happly : applyStep v t agentId q with
      | ok t' => exact absurd (applyStep_passes happly) (by simp [hpasses])
      | error f =>
        rw [UpdateCall.next_error rfl happly, UpdateCall.finish_of_outcome rfl]
        simp [UpdateCall.leavesRows, hpasses]

theorem leavesRows_of_commits (h : c.commits = []) : c.leavesRows := by
  intro f _ commit hcommit
  rw [h] at hcommit
  exact absurd hcommit not_mem_nil

/-- The first field commits: what is left is the run over the later ones. -/
theorem leavesRows_first {first : FieldStep} {rest : List FieldStep}
    (hordered : (first :: rest).Pairwise fun a b => a.rank < b.rank)
    (happly : applyStep v t agentId first = .ok t') (hget : t.agents.get agentId = some a) :
    (UpdateCall.finish v (rest.length + 1) t' ⟨agentId, rest, [(t, t')], none⟩).leavesRows ↔
      rest.all FieldStep.passesService = true ∨
        ∀ q ∈ first :: rest.takeWhile FieldStep.passesService, q.hasValue a := by
  rw [pairwise_cons] at hordered
  have hlater : ∀ st ∈ rest, 0 < st.rank := fun st hst => Nat.zero_lt_of_lt (hordered.1 st hst)
  have hneeds : ∀ st ∈ rest, validateAgentIdShape agentId = .ok () ∧ agentActive t agentId = true :=
    fun st hst => applyStep_needs happly (lt_of_lt_of_le (hordered.1 st hst) st.rank_le)
  refine (leavesRows_finish_iff rfl (isSome_of_kept (applyStep_kept happly) (applyStep_row happly))
    hlater fun hne => ?_).trans (or_congr_right ?_)
  · obtain ⟨st, hst⟩ := exists_mem_of_ne_nil _ hne
    exact ⟨(hneeds st hst).1, (applyStep_active happly _).trans (hneeds st hst).2⟩
  · obtain ⟨b, hb, -, hsame⟩ := applyStep_inv happly
    cases hb.symm.trans hget
    rw [forall_mem_singleton, forall_mem_cons, ← hsame]
    refine and_congr_right fun hunchanged => ?_
    -- nothing has changed so far, so that the later fields meet the row of before
    obtain rfl : t' = t := hunchanged
    refine forall₂_congr fun q hq => ?_
    have hmem := (takeWhile_sublist _).mem hq
    exact (applyStep_later (hlater q hmem) (all_eq_true.mp all_takeWhile q hq) (hneeds q hmem).1
      (hneeds q hmem).2).2 _ hb

theorem leavesRows_appAgentUpdate_iff (v : AgentService) (t : Tables) (r : UpdateRequest) :
    (appAgentUpdate v t r).leavesRows ↔ (beginUpdate r).whole t := by
  obtain ⟨hordered, hcommits, hrunning⟩ : (beginUpdate r).todo.Pairwise (fun a b => a.rank < b.rank) ∧
      (beginUpdate r).commits = [] ∧ ((beginUpdate r).todo ≠ [] → (beginUpdate r).outcome = none) := by
    unfold beginUpdate
    cases validateUpdate r with
    | error f => exact ⟨.nil, rfl, fun hne => absurd rfl hne⟩
    | ok args => exact ⟨args.steps_ordered, rfl, fun _ => rfl⟩
  unfold appAgentUpdate
  generalize beginUpdate r = c at hordered hcommits hrunning
  obtain ⟨agentId, todo, commits, outcome⟩ := c
  obtain rfl : commits = [] := hcommits
  cases todo with
  | nil =>
    refine iff_of_true (leavesRows_of_commits ?_) trivial
    show UpdateCall.commits (if outcome.isSome then _ else _) = []
    split_ifs
    · rfl
    · rcases UpdateCall.next_cases v t false ⟨agentId, [], [], outcome⟩ with
        ⟨result, hnext⟩ | ⟨_, _, _, hcons, -⟩
      · rw [hnext]
        rfl
      · cases hcons
  | cons first rest =>
    obtain rfl : outcome = none := hrunning (cons_ne_nil _ _)
    rw [length_cons, UpdateCall.finish_next rfl]
    cases happly : applyStep v t agentId first with
    | error f =>
      rw [UpdateCall.next_error rfl happly, UpdateCall.finish_of_outcome rfl]
      refine iff_of_true (leavesRows_of_commits rfl) fun a hget haccepted => ?_
      obtain ⟨t', hok⟩ := applyStep_of_accepted (v := v) hget haccepted
      cases happly.symm.trans hok
    | ok t' =>
      obtain ⟨a, hget, haccepted, -⟩ := applyStep_inv happly
      rw [UpdateCall.next_ok rfl happly]
      refine (leavesRows_first hordered happly hget).trans ⟨fun h b hb _ => ?_, fun h => ?_⟩
      · cases hget.symm.trans hb
        exact h
      · exact h a hget haccepted

/-- A call that has answered with a failure has left every row as it was, in every undisturbed run; a call
by itself does so exactly when no field is refused after one that has been changed. -/
theorem failed_update_leaves_rows (v : AgentService) (t : Tables) :
    (∀ s, Reach (appStep v) (fun s l => undisturbed v s l = true) (.init t) s →
      ∀ c ∈ s.calls, c.leavesRows) ∧
    ∀ r, (appAgentUpdate v t r).leavesRows ↔ (beginUpdate r).whole t := by
  refine ⟨fun s h c hc f hf commit hcommit => ?_, leavesRows_appAgentUpdate_iff v t⟩
  rw [(callsOk_of_reach h c hc).failed f hf] at hcommit
  cases hcommit

def sampleUpdate (role : String) (capability label : Option String) : UpdateRequest :=
  ⟨some (.text "agt_000000000000"), some (.text role), capability.map .text, label.map .text, none⟩

def swarmRefused : Failure :=
  .validationFailed "params" "swarm_role_via_set_role_rejected"
    ("set-role --role swarm is rejected; use " ++
      "`agenttower register-self --role swarm --parent <agent-id>` instead")

theorem failed_update_leaves_rows_swarm :
    ∃ s c, Reach (appStep sampleService)
        (fun s l => undisturbed sampleService s l = true) (.init Tables.empty) s ∧
      c ∈ s.calls ∧ c.outcome = some (.error swarmRefused) ∧
      ∀ commit ∈ c.commits, commit.2 = commit.1 := by
  obtain ⟨s, hs, c, hc, houtcome⟩ : ∃ s, runWhile (appStep sampleService) (undisturbed sampleService)
      (.init Tables.empty) (setupLabels.map .service ++
        [.beginUpdate (sampleUpdate "swarm" none (some "builder")), .nextUpdate 0 false]) = some s ∧
      ∃ c ∈ s.calls, c.outcome = some (.error swarmRefused) := by decide +kernel
  have hreach := reach_of_runWhile .start hs
  exact ⟨s, c, hreach, hc, houtcome, (failed_update_leaves_rows _ _).1 s hreach c hc _ houtcome⟩

def capabilityRefused : Failure :=
  .validationFailed "params" "value_out_of_set"
    ("capability must be one of ['claude', 'codex', 'gemini', 'opencode', 'shell', " ++
      "'test-runner', 'unknown']; got 'vim'")

/-- The capability is refused after the role has been committed. -/
theorem failed_update_writes_role :
    ∃ s c commit, Reach (appStep sampleService) anyStep (.init Tables.empty) s ∧
      c ∈ s.calls ∧ c.outcome = some (.error capabilityRefused) ∧ commit ∈ c.commits ∧
      (commit.1.agents.get "agt_000000000000").map AgentRecord.role = some .slave ∧
      (commit.2.agents.get "agt_000000000000").map AgentRecord.role = some .shell := by
  simp only [exists_and_left]
  exact exists_reach (setupLabels.map .service ++ [.beginUpdate (sampleUpdate "shell" (some "vim") none),
    .nextUpdate 0 false, .nextUpdate 0 false]) (by decide +kernel)

end AgentTower.App
