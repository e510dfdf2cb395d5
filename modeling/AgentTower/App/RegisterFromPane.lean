import AgentTower.App.AgentMutations

/-!
# Registering a pane that has an agent

The service takes a registration of a pane with an agent as an update in place, and the handler always
passes a label on.  So no such request is refused, and one that has no label clears the stored one.
-/

namespace AgentTower.App

open Transition Sql Fallible Option Table
open Agents
open Fallible (eq_none_of_optionMapM)
open Routing (PaneKey)

variable {params : RegisterParams} {t : Tables} {existing : AgentRecord} {args : RegisterArgs}
  {now : String}

theorem registerParams_eq_ok {r : FromPaneRequest} {identity : PaneKey} {label : String}
    {parentAgentId : Option String}
    (h : registerParams r identity label parentAgentId = .ok params) :
    params.paneCompositeKey = identity ∧ params.label = some label ∧
      (given r.role = none → params.role = none) ∧
      (given r.capability = none → params.capability = none) ∧
      (given r.projectPath = none → params.projectPath = none) := by
  unfold registerParams at h
  split_ifs at h
  obtain ⟨role, hrole, h⟩ := bind_eq_ok.mp h
  obtain ⟨capability, hcapability, h⟩ := bind_eq_ok.mp h
  obtain ⟨-, -, h⟩ := bind_eq_ok.mp h
  obtain ⟨projectPath, hprojectPath, h⟩ := bind_eq_ok.mp h
  cases h
  exact ⟨rfl, rfl, eq_none_of_optionMapM hrole, eq_none_of_optionMapM hcapability,
    eq_none_of_optionMapM hprojectPath⟩

theorem validateLabel_of_not_given {value : Option Param} (h : given value = none) :
    validateLabel value = .ok "" := by
  match value with
  | none => rfl
  | some .null => rfl

/-! ## The row of the agent -/

theorem get_of_selectAgentByPaneKey {key : PaneKey}
    (h : t.selectAgentByPaneKey key = some existing) :
    t.agents.get existing.agentId = some existing :=
  get_of_mem (List.mem_of_find?_eq_some h)

theorem registerAgent_again {v : AgentService} {o : RegisterOutside} {registered : Registered}
    (hexisting : t.selectAgentByPaneKey (coercePaneKey params.paneCompositeKey) = some existing)
    (h : registerAgent v t params o = .ok registered) :
    ∃ args, validateRegister v.schemaVersion params = .ok args ∧
      registered = reRegistered t args existing o.now := by
  obtain ⟨args, hargs, hrow⟩ := registerAgent_eq_ok h
  have hkey := (validateRegister_eq_ok hargs).1
  obtain ⟨-, ⟨hnew, -⟩ | ⟨existing', hexisting', hagain⟩⟩ := registerRow_eq_ok hrow
  · rw [hkey, hexisting] at hnew
    cases hnew
  · rw [hkey, hexisting] at hexisting'
    cases hexisting'
    exact ⟨args, hargs, (reRegisterAgent_eq_ok hagain).2.2⟩

theorem get_reRegistered (h : t.agents.get existing.agentId = some existing) :
    (reRegistered t args existing now).tables.agents.get existing.agentId =
      some ((reRegistration args existing now).set existing) := by
  show (t.agents.updateAll _ _).get _ = _
  rw [get_updateAll, h]
  unfold Table.patched
  simp [ofAgentId]

theorem get_reRegistered_of_ne {agentId : String} (h : agentId ≠ existing.agentId) :
    (reRegistered t args existing now).tables.agents.get agentId = t.agents.get agentId := by
  show (t.agents.updateAll _ _).get _ = _
  rw [get_updateAll]
  cases hget : t.agents.get agentId with
  | none => rfl
  | some a =>
    have hid : a.agentId ≠ existing.agentId := by
      rw [key_of_get hget]
      exact h
    show some (Table.patched _ _ a) = _
    unfold Table.patched ofAgentId
    rw [if_neg (by simpa using hid)]

/-! ## No refusal of a pane that has an agent -/

/-- Whatever it fails with is not the refusal of a registered pane. -/
def FailsOtherwise {α : Type} (x : Except Failure α) : Prop :=
  ∀ f, x = .error f → f.code ≠ .paneAlreadyRegistered

theorem failsOtherwise_ok {α : Type} (a : α) : FailsOtherwise (.ok a) := fun _ h => by cases h

theorem failsOtherwise_error {α : Type} {f : Failure}
    (h : decide (f.code = .paneAlreadyRegistered) = false) :
    FailsOtherwise (.error f : Except Failure α) := by
  rintro _ ⟨⟩
  exact of_decide_eq_false h

theorem FailsOtherwise.bind {α β : Type} {x : Except Failure α} {g : α → Except Failure β}
    (hx : FailsOtherwise x) (hg : ∀ a, FailsOtherwise (g a)) : FailsOtherwise (x >>= g) := by
  cases x with
  | error f => exact failsOtherwise_error (decide_eq_false (hx f rfl))
  | ok a => exact hg a

theorem failsOtherwise_identityText (field : String) (value : Option Param) :
    FailsOtherwise (identityText field value) := by
  unfold identityText
  split
  · split_ifs
    · exact failsOtherwise_error rfl
    · exact failsOtherwise_ok _
  · exact failsOtherwise_error rfl

theorem failsOtherwise_identityIndex (field : String) (value : Option Param) :
    FailsOtherwise (identityIndex field value) := by
  unfold identityIndex
  split
  · split_ifs
    · exact failsOtherwise_error rfl
    · exact failsOtherwise_ok _
  · exact failsOtherwise_error rfl

theorem failsOtherwise_validateIdentity (r : FromPaneRequest) :
    FailsOtherwise (validateIdentity r) := by
  unfold validateIdentity
  split
  · exact failsOtherwise_error rfl
  · refine (failsOtherwise_identityText _ _).bind fun _ => ?_
    refine (failsOtherwise_identityText _ _).bind fun _ => ?_
    refine (failsOtherwise_identityText _ _).bind fun _ => ?_
    refine (failsOtherwise_identityText _ _).bind fun _ => ?_
    refine (failsOtherwise_identityIndex _ _).bind fun _ => ?_
    exact (failsOtherwise_identityIndex _ _).bind fun _ => failsOtherwise_ok _

theorem failsOtherwise_validateLabel (value : Option Param) : FailsOtherwise (validateLabel value) := by
  unfold validateLabel
  split
  · exact failsOtherwise_ok _
  · exact failsOtherwise_ok _
  · simp only
    split_ifs
    · exact failsOtherwise_error rfl
    · exact failsOtherwise_error rfl
    · exact failsOtherwise_ok _
  · exact failsOtherwise_error rfl

theorem failsOtherwise_preflight (t : Tables) (identity : PaneKey) (parentAgentId : Option String)
    (attachLog : Bool) : FailsOtherwise (preflight t identity parentAgentId attachLog) := by
  unfold preflight
  split
  · exact failsOtherwise_error rfl
  · split_ifs
    · exact failsOtherwise_error rfl
    · split
      · exact failsOtherwise_ok _
      · exact failsOtherwise_ok _
      · split_ifs
        · exact failsOtherwise_ok _
        · exact failsOtherwise_error rfl

theorem failsOtherwise_registerFromPane (v : AgentService) (pre t : Tables) (r : FromPaneRequest)
    (o : RegisterOutside) : FailsOtherwise (appAgentRegisterFromPane v pre t r o) := by
  refine (failsOtherwise_validateIdentity r).bind fun identity => ?_
  refine (failsOtherwise_validateLabel r.label).bind fun label => ?_
  refine FailsOtherwise.bind ?_ fun parentAgentId => ?_
  · unfold validateParentParam
    split
    · exact failsOtherwise_ok _
    · exact failsOtherwise_ok _
    · exact failsOtherwise_error rfl
  refine (failsOtherwise_preflight _ _ _ _).bind fun _ => ?_
  split
  · exact failsOtherwise_ok _
  · -- none of the service's codes is mapped to it
    refine failsOtherwise_error ?_
    unfold mapRegistrationError
    split <;> rfl

/-! ## What a request keeps -/

/-- A column whose field the request does not give stays. -/
def KeepsOmitted (r : FromPaneRequest) (existing a : AgentRecord) : Prop :=
  (given r.label = none → a.label = existing.label) ∧
    (given r.role = none → a.role = existing.role) ∧
    (given r.capability = none → a.capability = existing.capability) ∧
    (given r.projectPath = none → a.projectPath = existing.projectPath)

/-- What is asked of a request for the pane of an agent: a refusal if the agent is active. -/
def AskedOfRequest (r : FromPaneRequest) (existing : AgentRecord) (before after : Tables)
    (result : Except Failure Registered) : Prop :=
  if existing.active then ∃ f, result = .error f ∧ f.code = .paneAlreadyRegistered ∧ after = before
  else ∃ a, after.agents.get existing.agentId = some a ∧ KeepsOmitted r existing a

theorem keepsOmitted_iff {v : AgentService} {pre : Tables} {r : FromPaneRequest} {o : RegisterOutside}
    {key : PaneKey} {registered : Registered} (hkey : validateIdentity r = .ok key)
    (hexisting : t.selectAgentByPaneKey (coercePaneKey key) = some existing)
    (h : appAgentRegisterFromPane v pre t r o = .ok registered) :
    (∀ agentId, agentId ≠ existing.agentId →
      registered.tables.agents.get agentId = t.agents.get agentId) ∧
    ((∃ a, registered.tables.agents.get existing.agentId = some a ∧ KeepsOmitted r existing a) ↔
      (given r.label = none → existing.label = "")) := by
  have hget := get_of_selectAgentByPaneKey hexisting
  obtain ⟨identity, label, parentAgentId, params, hidentity, hvalid, hparams, hok⟩ :=
    appAgentRegisterFromPane_eq_ok h
  rw [hkey] at hidentity
  cases hidentity
  obtain ⟨hpane, hlabelParam, hrole, hcapability, hprojectPath⟩ := registerParams_eq_ok hparams
  rw [← hpane] at hexisting
  obtain ⟨args, hargs, rfl⟩ := registerAgent_again hexisting hok
  obtain ⟨-, hroleArg, hcapabilityArg, hlabelArg, hpathArg, -⟩ := validateRegister_eq_ok hargs
  refine ⟨fun agentId hne => get_reRegistered_of_ne hne, ?_⟩
  -- the label of a request without one is the empty text, which the service takes as it is
  have hlabel : given r.label = none → args.label.getD existing.label = "" := by
    intro hnone
    rw [validateLabel_of_not_given hnone] at hvalid
    cases hvalid
    rw [hlabelParam] at hlabelArg
    have hempty : args.label = some "" := (Except.ok.inj hlabelArg).symm
    rw [hempty]
    rfl
  rw [get_reRegistered hget]
  simp only [Option.some.injEq, exists_eq_left']
  constructor
  · exact fun hkeeps hnone => (hkeeps.1 hnone).symm.trans (hlabel hnone)
  · intro hcond
    refine ⟨fun hnone => ?_, fun hnone => ?_, fun hnone => ?_, fun hnone => ?_⟩
    · exact (hlabel hnone).trans (hcond hnone).symm
    · show args.role.getD existing.role = existing.role
      rw [eq_none_of_optionMapM hroleArg (hrole hnone)]
      rfl
    · show args.capability.getD existing.capability = existing.capability
      rw [eq_none_of_optionMapM hcapabilityArg (hcapability hnone)]
      rfl
    · show args.projectPath.getD existing.projectPath = existing.projectPath
      rw [eq_none_of_optionMapM hpathArg (hprojectPath hnone)]
      rfl

/-- A request that is refused changes nothing, and is never refused for the agent of its pane.  One that
is accepted does what is asked exactly when the agent is inactive and no stored label is left out. -/
theorem register_from_pane_keeps {v : AgentService} {s s' : AppState} {pre : Tables}
    {r : FromPaneRequest} {o : RegisterOutside} {key : PaneKey} {existing : AgentRecord}
    (hkey : validateIdentity r = .ok key)
    (hexisting : s.tables.selectAgentByPaneKey (coercePaneKey key) = some existing)
    (hstep : appStep v s (.registerFromPane pre r o) = some s') :
    (∀ f, appAgentRegisterFromPane v pre s.tables r o = .error f →
      s'.tables = s.tables ∧ f.code ≠ .paneAlreadyRegistered) ∧
    ∀ registered, appAgentRegisterFromPane v pre s.tables r o = .ok registered →
      (∀ agentId, agentId ≠ existing.agentId →
        s'.tables.agents.get agentId = s.tables.agents.get agentId) ∧
      (AskedOfRequest r existing s.tables s'.tables (.ok registered) ↔
        existing.active = false ∧ (given r.label = none → existing.label = "")) := by
  cases hstep
  refine ⟨fun f hf => ⟨?_, failsOtherwise_registerFromPane _ _ _ _ _ f hf⟩, fun registered hok => ?_⟩
  · show tablesAfter s.tables _ = _
    rw [hf]
    rfl
  · obtain ⟨hothers, hkeeps⟩ := keepsOmitted_iff hkey hexisting hok
    simp only [hok, tablesAfter]
    refine ⟨hothers, ?_⟩
    unfold AskedOfRequest
    split_ifs with hactive
    · exact ⟨fun ⟨f, hf, _⟩ => (by cases hf), fun h => absurd hactive (by simp [h.1])⟩
    · rw [hkeeps]
      exact ⟨fun h => ⟨by simpa using hactive, h⟩, And.right⟩

def samplePaneRequest (paneId : String) (label : Option Param) : FromPaneRequest where
  containerId := some (.text "c0")
  tmuxSocket := some (.text "/tmp/tmux/default")
  sessionName := some (.text "main")
  windowIndex := some (.int 0)
  paneIndex := some (.int 0)
  paneId := some (.text paneId)
  label := label
  role := none
  capability := none
  projectPath := none
  parentAgentId := none
  attachLog := none

/-- The pane of the slave of `setupLabels` goes away and comes back. -/
def paneBackLabels : List Label :=
  [.scanPanes ⟨[samplePane "%1"], [samplePane "%0"], "t3"⟩,
    .scanPanes ⟨[samplePane "%0", samplePane "%1"], [], "t4"⟩]

theorem register_from_pane_keeps_paneBack :
    ∃ (s s' : AppState) (existing : AgentRecord) (registered : Registered),
      s.tables.selectAgentByPaneKey (samplePane "%0") = some existing ∧ existing.active = false ∧
      appStep sampleService s (.registerFromPane s.tables (samplePaneRequest "%0" none)
        (sampleOutside "t5" 1)) = some s' ∧
      AskedOfRequest (samplePaneRequest "%0" none) existing s.tables s'.tables (.ok registered) := by
  obtain ⟨t, -, existing, hexisting, hinactive, hlabel, hisOk⟩ : ∃ t,
      run (step sampleService) Tables.empty (setupLabels ++ paneBackLabels) = some t ∧
      ∃ existing, t.selectAgentByPaneKey (samplePane "%0") = some existing ∧
        existing.active = false ∧ existing.label = "" ∧
        (appAgentRegisterFromPane sampleService t t (samplePaneRequest "%0" none)
          (sampleOutside "t5" 1)).toOption.isSome = true := by decide +kernel
  obtain ⟨registered, hok⟩ := Option.isSome_iff_exists.mp hisOk
  have hidentity : validateIdentity (samplePaneRequest "%0" none) = .ok (samplePane "%0") := by
    decide +kernel
  have hcoerce : coercePaneKey (samplePane "%0") = samplePane "%0" := by decide +kernel
  let s : AppState := .init t
  have hstep : appStep sampleService s (.registerFromPane t (samplePaneRequest "%0" none)
      (sampleOutside "t5" 1)) = some { s with
        tables := tablesAfter t (appAgentRegisterFromPane sampleService t t
          (samplePaneRequest "%0" none) (sampleOutside "t5" 1)) } := rfl
  exact ⟨s, _, existing, registered, hexisting, hinactive, hstep,
    ((register_from_pane_keeps hidentity (hcoerce.symm ▸ hexisting) hstep).2 registered
      (eq_ok_of_toOption hok)).2.mpr ⟨hinactive, fun _ => hlabel⟩⟩

/-- A request with the pane of a labelled agent and no label succeeds and clears the label. -/
def ClearsLabel (active : Bool) (s : AppState) : Prop :=
  ∃ existing registered, s.tables.selectAgentByPaneKey (samplePane "%0") = some existing ∧
    existing.active = active ∧ existing.label = "builder" ∧
    appAgentRegisterFromPane sampleService s.tables s.tables (samplePaneRequest "%0" none)
      (sampleOutside "t5" 1) = .ok registered ∧
    (registered.tables.agents.get existing.agentId).map AgentRecord.label = some ""

def clearsLabel (active : Bool) (s : AppState) : Bool :=
  (s.tables.selectAgentByPaneKey (samplePane "%0")).any fun existing =>
    (appAgentRegisterFromPane sampleService s.tables s.tables (samplePaneRequest "%0" none)
      (sampleOutside "t5" 1)).toOption.any fun registered =>
      decide (existing.active = active ∧ existing.label = "builder" ∧
        (registered.tables.agents.get existing.agentId).map AgentRecord.label = some "")

theorem clearsLabel_of_eq_true {active : Bool} {s : AppState} (h : clearsLabel active s = true) :
    ClearsLabel active s := by
  obtain ⟨existing, hexisting, h⟩ := (any_eq_true _ _).mp h
  obtain ⟨registered, hok, h⟩ := (any_eq_true _ _).mp h
  obtain ⟨hactive, hlabel, hcleared⟩ := of_decide_eq_true h
  exact ⟨existing, registered, hexisting, hactive, hlabel, eq_ok_of_toOption hok, hcleared⟩

def setBuilder : Label := .setLabel ⟨some 8, "agt_000000000000", "builder"⟩

/-- An active agent is not refused, and neither an active nor an inactive one keeps its label. -/
theorem register_from_pane_clears_label :
    (∃ s, Reach (appStep sampleService) anyStep (.init Tables.empty) s ∧
      ClearsLabel true s) ∧
    ∃ s, Reach (appStep sampleService) anyStep (.init Tables.empty) s ∧
      ClearsLabel false s := by
  have hactive : (run (appStep sampleService) (.init Tables.empty)
      ((setupLabels ++ [setBuilder]).map .service)).any (clearsLabel true) = true := by
    decide +kernel
  have hinactive : (run (appStep sampleService) (.init Tables.empty)
      ((setupLabels ++ [setBuilder] ++ paneBackLabels).map .service)).any
        (clearsLabel false) = true := by
    decide +kernel
  obtain ⟨s, hs, hclears⟩ := (any_eq_true _ _).mp hactive
  obtain ⟨s', hs', hclears'⟩ := (any_eq_true _ _).mp hinactive
  exact ⟨⟨s, reach_of_run hs, clearsLabel_of_eq_true hclears⟩,
    ⟨s', reach_of_run hs', clearsLabel_of_eq_true hclears'⟩⟩

end AgentTower.App
