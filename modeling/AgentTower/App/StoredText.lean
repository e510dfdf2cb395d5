import AgentTower.App.AgentMutations

/-!
# The texts in the agents table

All writers pass a label through `validate_label`, and what that returns it returns again.  A project
path comes from `validate_project_path`, but for the one that `app.agent.update` writes itself.
-/

namespace AgentTower.App

open Transition Sql Fallible List
open Agents

/-! ## What the checks return -/

abbrev printable (c : Char) : Prop := 0x20 ≤ c.toNat ∧ c.toNat ≠ 0x7F

structure PlainLabel (label : String) : Prop where
  printable : ∀ c ∈ label.toList, printable c
  length : label.length ≤ labelMax

variable {value path : String} {t' t : Tables} {args : RegisterArgs} {v : AgentService}

theorem plainLabel_of_validateLabel {label : String}
    (h : Agents.validateLabel value = .ok label) : PlainLabel label := by
  unfold Agents.validateLabel sanitizeText at h
  simp only at h
  split_ifs at h with htruncated
  cases h
  have hlength := Nat.le_of_not_lt (of_decide_eq_false (Bool.eq_false_iff.mpr htruncated))
  refine ⟨fun c hc => ?_, ?_⟩
  · rw [String.toList_ofList] at hc
    obtain ⟨d, -, hd⟩ := mem_filterMap.mp (mem_of_mem_take hc)
    unfold printable
    split_ifs at hd with hnul htab hcontrol
    · cases hd
      decide
    · cases hd
      omega
  · rw [String.length_ofList, length_take]
    exact Nat.min_le_left _ _

theorem validateLabel_of_plainLabel {label : String} (h : PlainLabel label) :
    Agents.validateLabel label = .ok label := by
  have hcleaned : (label.toList.filterMap fun c =>
      if c.toNat = 0 then none
      else if c = '\t' ∨ c = '\n' then some ' '
      else if c.toNat < 0x20 ∨ c.toNat = 0x7F then none
      else some c) = label.toList := by
    refine (filterMap_congr fun c hc => ?_).trans filterMap_some
    obtain ⟨hlow, hdel⟩ := h.printable c hc
    have htab : ¬(c = '\t' ∨ c = '\n') := by
      rintro (rfl | rfl)
      · exact absurd hlow (by decide)
      · exact absurd hlow (by decide)
    rw [if_neg (by omega), if_neg htab, if_neg (by omega)]
  have hlength : ¬labelMax < label.toList.length := by
    rw [String.length_toList]
    exact Nat.not_lt.mpr h.length
  unfold Agents.validateLabel sanitizeText
  simp only
  rw [hcleaned, decide_eq_false hlength, take_of_length_le (Nat.le_of_not_lt hlength),
    String.ofList_toList]
  rfl

structure PlainPath (path : String) : Prop where
  printable : ∀ c ∈ path.toList, printable c
  length : path.toList.length ≤ projectPathMax
  absolute : path.toList.head? = some '/'
  noParent : ['.', '.'] ∉ path.toList.splitOn '/'

theorem plainPath_of_validateProjectPath
    (h : validateProjectPath value = .ok path) : PlainPath path := by
  unfold validateProjectPath at h
  simp only at h
  split_ifs at h with hnul hlong hempty hrelative hparent
  cases h
  refine ⟨fun c hc => ?_, ?_, ?_, ?_⟩
  · rw [String.toList_ofList] at hc
    exact of_decide_eq_true (mem_filter.mp hc).2
  · rw [String.toList_ofList]
    exact Nat.le_of_not_lt hlong
  · rw [String.toList_ofList]
    exact not_not.mp hrelative
  · rw [String.toList_ofList]
    exact hparent

theorem validateProjectPath_of_plainPath (h : PlainPath path) :
    validateProjectPath path = .ok path := by
  have hnul : '\x00' ∉ path.toList := fun hmem => absurd (h.printable _ hmem).1 (by decide)
  have hcleaned : (path.toList.filter fun c => decide (0x20 ≤ c.toNat ∧ c.toNat ≠ 0x7F)) =
      path.toList :=
    filter_eq_self.mpr fun c hc => decide_eq_true (h.printable c hc)
  have hne : path.toList ≠ [] := by
    intro hempty
    have habsolute := h.absolute
    rw [hempty] at habsolute
    cases habsolute
  unfold validateProjectPath
  simp only
  rw [if_neg hnul, hcleaned, if_neg (Nat.not_lt.mpr h.length), if_neg hne,
    if_neg (not_not.mpr h.absolute), if_neg h.noParent, String.ofList_toList]

/-! ## Rows -/

structure TextOk (a : AgentRecord) : Prop where
  label : PlainLabel a.label
  projectPath : a.projectPath = "" ∨ PlainPath a.projectPath

def StoredOk (t : Tables) : Prop := ∀ a ∈ t.agents.rows, TextOk a

theorem plainLabel_empty : PlainLabel "" := ⟨by simp, by decide⟩

theorem textOk_of_validateOptionalProjectPath
    (h : validateOptionalProjectPath value = .ok path) : path = "" ∨ PlainPath path := by
  unfold validateOptionalProjectPath at h
  split_ifs at h
  · cases h
    exact .inl rfl
  · exact .inr (plainPath_of_validateProjectPath h)

theorem storedOk_updateAll {agents : AgentTable} {sel : AgentRecord → Bool}
    {p : AgentPatch} (hp : ∀ a, TextOk a → TextOk (p.set a))
    (hbefore : ∀ a ∈ agents.rows, TextOk a) (h : t'.agents = agents.updateAll sel p) :
    StoredOk t' := by
  intro a ha
  rw [h, Table.rows_updateAll] at ha
  obtain ⟨b, hb, rfl⟩ := mem_map.mp ha
  unfold Table.patched
  split
  · exact hp b (hbefore b hb)
  · exact hbefore b hb

structure ArgsOk (args : RegisterArgs) : Prop where
  label : ∀ label, args.label = some label → PlainLabel label
  projectPath : ∀ path, args.projectPath = some path → path = "" ∨ PlainPath path

theorem argsOk_of_validateRegister {daemonSchemaVersion : Int} {params : RegisterParams}
    (h : validateRegister daemonSchemaVersion params = .ok args) :
    ArgsOk args := by
  obtain ⟨-, -, -, hlabel, hpath, -⟩ := validateRegister_eq_ok h
  refine ⟨fun label hsome => ?_, fun path hsome => ?_⟩
  · rw [hsome] at hlabel
    obtain ⟨value, -, hvalue⟩ := exists_of_optionMapM hlabel
    exact plainLabel_of_validateLabel hvalue
  · rw [hsome] at hpath
    obtain ⟨value, -, hvalue⟩ := exists_of_optionMapM hpath
    exact textOk_of_validateOptionalProjectPath hvalue

theorem textOk_newAgent (h : ArgsOk args) (now agentId : String) :
    TextOk (newAgent args now agentId) := by
  refine ⟨?_, ?_⟩
  · show PlainLabel (args.label.getD "")
    cases hlabel : args.label with
    | none => exact plainLabel_empty
    | some label => exact h.label label hlabel
  · show args.projectPath.getD "" = "" ∨ PlainPath (args.projectPath.getD "")
    cases hpath : args.projectPath with
    | none => exact .inl rfl
    | some path => exact h.projectPath path hpath

theorem textOk_reRegistration {existing : AgentRecord} (h : ArgsOk args)
    (hexisting : TextOk existing) (now : String) (a : AgentRecord) :
    TextOk ((reRegistration args existing now).set a) := by
  refine ⟨?_, ?_⟩
  · show PlainLabel (args.label.getD existing.label)
    cases hlabel : args.label with
    | none => exact hexisting.label
    | some label => exact h.label label hlabel
  · show args.projectPath.getD existing.projectPath = "" ∨
      PlainPath (args.projectPath.getD existing.projectPath)
    cases hpath : args.projectPath with
    | none => exact hexisting.projectPath
    | some path => exact h.projectPath path hpath

/-! ## Steps of the service -/

theorem StoredOk.registerAgent {params : RegisterParams}
    {o : RegisterOutside} {registered : Registered} (ht : StoredOk t)
    (h : registerAgent v t params o = .ok registered) : StoredOk registered.tables := by
  obtain ⟨args, hargs, hrow⟩ := registerAgent_eq_ok h
  have hok := argsOk_of_validateRegister hargs
  obtain ⟨-, ⟨-, hcreate⟩ | ⟨existing, hexisting, hagain⟩⟩ := registerRow_eq_ok hrow
  · obtain ⟨agentId, agents, -, hinsert, rfl⟩ := createAgent_eq_ok hcreate
    intro a ha
    change a ∈ agents.rows at ha
    rw [(Table.insert_eq_some hinsert).2] at ha
    rcases mem_append.mp ha with ha | ha
    · exact ht a ha
    · rw [mem_singleton.mp ha]
      exact textOk_newAgent hok o.now agentId
  · obtain ⟨-, -, rfl⟩ := reRegisterAgent_eq_ok hagain
    have hold := ht existing (mem_of_find?_eq_some hexisting)
    exact storedOk_updateAll (fun a _ => textOk_reRegistration hok hold o.now a) ht rfl

theorem TextOk.of_eq {a b : AgentRecord} (h : TextOk a) (hlabel : b.label = a.label)
    (hpath : b.projectPath = a.projectPath) : TextOk b := by
  refine ⟨?_, ?_⟩
  · rw [hlabel]
    exact h.label
  · rw [hpath]
    exact h.projectPath

theorem StoredOk.commitScan {scan : PaneScan} (ht : StoredOk t)
    (h : commitScan t scan = some t') : StoredOk t' := by
  have hseen : StoredOk { t with
      agents := t.agents.updateAll (fun a => decide (a.key ∈ scan.upserts))
        (updateLastSeenAt scan.startedAt) } :=
    storedOk_updateAll (fun a ha => ha.of_eq rfl rfl) ht rfl
  exact storedOk_updateAll (fun a ha => ha.of_eq rfl rfl) hseen (commitScan_agents h)

theorem StoredOk.writes {st : FieldStep} {p : AgentPatch} {agentId : String}
    (ht : StoredOk t) (hp : st.Writes p)
    (hpath : ∀ value, st = .projectPath value → value = "" ∨ PlainPath value) :
    StoredOk { t with agents := t.agents.updateAll (ofAgentId agentId) p } := by
  refine storedOk_updateAll (fun a ha => ?_) ht rfl
  cases hp with
  | role hrole | capability hcapability => exact ha.of_eq rfl rfl
  | label hlabel => exact ⟨plainLabel_of_validateLabel hlabel, ha.projectPath⟩
  | projectPath => exact ⟨ha.label, hpath _ rfl⟩

theorem StoredOk.after {α : Type} {tables : α → Tables}
    {result : Except RegistrationError α} (ht : StoredOk t)
    (h : ∀ a, result = .ok a → StoredOk (tables a)) : StoredOk (t.after tables result) := by
  cases result with
  | error e => exact ht
  | ok a => exact h a rfl

theorem StoredOk.step {l : Label} (ht : StoredOk t) (h : step v t l = some t') : StoredOk t' := by
  cases l with
  | registerAgent params o =>
    cases h
    exact ht.after fun _ hok => ht.registerAgent hok
  | setRole params =>
    cases h
    refine ht.after fun updated hok => ?_
    have heffect := setRole_effect hok
    generalize updated.tables = t' at heffect
    cases heffect with
    | same => exact ht
    | roleSet hrole hswarm hfresh => exact ht.writes (.role hrole) nofun
  | setLabel params =>
    cases h
    refine ht.after fun updated hok => ?_
    rcases setField_eq_ok hok with hsame | ⟨label, hlabel, hset⟩
    · rw [hsame]
      exact ht
    · rw [hset]
      exact ht.writes (.label hlabel) nofun
  | setCapability params =>
    cases h
    refine ht.after fun updated hok => ?_
    rcases setField_eq_ok hok with hsame | ⟨capability, hcapability, hset⟩
    · rw [hsame]
      exact ht
    · rw [hset]
      exact ht.writes (.capability hcapability) nofun
  | scanPanes scan => exact ht.commitScan h
  | scanContainers upserts inactivate =>
    obtain ⟨g, -, rfl⟩ := Option.map_eq_some_iff.mp h
    exact ht

/-! ## Runs -/

def pathsAccepted : AppLabel → Bool
  | .beginUpdate r =>
    match r.projectPath with
    | some (.text value) => decide (validateOptionalProjectPath value = .ok value)
    | _ => true
  | _ => true

structure TextInv (s : AppState) : Prop where
  stored : StoredOk s.tables
  todo : ∀ c ∈ s.calls, ∀ value, .projectPath value ∈ c.todo → value = "" ∨ PlainPath value

theorem projectPath_of_mem_steps {args : UpdateArgs}
    (h : .projectPath value ∈ args.steps) : args.projectPath = some value := by
  obtain ⟨agentId, role, capability, label, projectPath⟩ := args
  simpa [UpdateArgs.steps] using h

theorem plainPath_of_mem_beginUpdate {r : UpdateRequest}
    (hok : pathsAccepted (.beginUpdate r) = true)
    (h : .projectPath value ∈ (beginUpdate r).todo) : value = "" ∨ PlainPath value := by
  unfold beginUpdate at h
  split at h
  · cases h
  · rename_i args hargs
    have hpath := projectPath_of_mem_steps h
    unfold validateUpdate at hargs
    obtain ⟨agentId, -, hargs⟩ := bind_eq_ok.mp hargs
    obtain ⟨role, -, hargs⟩ := bind_eq_ok.mp hargs
    obtain ⟨capability, -, hargs⟩ := bind_eq_ok.mp hargs
    obtain ⟨label, -, hargs⟩ := bind_eq_ok.mp hargs
    obtain ⟨path, hparam, hargs⟩ := bind_eq_ok.mp hargs
    cases hargs
    change path = some value at hpath
    rw [hpath] at hparam
    obtain ⟨param, hsome, hvalue⟩ := exists_of_optionMapM hparam
    unfold pathsAccepted at hok
    simp only at hok
    rw [hsome] at hok
    cases param with
    | null =>
      cases hvalue
      exact .inl rfl
    | text text =>
      cases hvalue
      exact textOk_of_validateOptionalProjectPath (of_decide_eq_true hok)
    | int n | bool b | other typeName repr truthy => cases hvalue

theorem TextInv.step {s s' : AppState} {l : AppLabel} (h : TextInv s)
    (hok : pathsAccepted l = true) (hstep : appStep v s l = some s') : TextInv s' := by
  cases l with
  | service l =>
    obtain ⟨t, ht, rfl⟩ := Option.map_eq_some_iff.mp hstep
    exact ⟨h.stored.step ht, h.todo⟩
  | registerFromPane pre r o =>
    cases hstep
    refine ⟨?_, h.todo⟩
    show StoredOk (tablesAfter s.tables (appAgentRegisterFromPane v pre s.tables r o))
    rcases tablesAfter_step v pre s.tables r o with hsame | ⟨l, hl⟩
    · rw [hsame]
      exact h.stored
    · exact h.stored.step hl
  | beginUpdate r =>
    cases hstep
    refine ⟨h.stored, fun c hc value hvalue => ?_⟩
    rcases mem_append.mp hc with hc | hc
    · exact h.todo c hc value hvalue
    · rw [mem_singleton.mp hc] at hvalue
      exact plainPath_of_mem_beginUpdate hok hvalue
  | nextUpdate i raises =>
    unfold appStep at hstep
    simp only at hstep
    split at hstep
    · rename_i c hget
      split_ifs at hstep
      cases hstep
      have hc := mem_of_getElem? hget
      rcases c.next_cases v s.tables raises with ⟨result, hnext⟩ |
        ⟨st, todo, t', htodo, happly, hnext⟩
      · rw [hnext]
        refine ⟨h.stored, fun c' hc' value hvalue => ?_⟩
        rcases mem_or_eq_of_mem_set hc' with hother | rfl
        · exact h.todo c' hother value hvalue
        · exact h.todo c hc value hvalue
      · rw [hnext]
        have hpath : ∀ value, st = .projectPath value → value = "" ∨ PlainPath value := by
          rintro value rfl
          exact h.todo c hc value (htodo ▸ mem_cons_self)
        refine ⟨?_, fun c' hc' value hvalue => ?_⟩
        · rcases applyStep_eq_ok happly with rfl | ⟨p, hp, rfl⟩
          · exact h.stored
          · exact h.stored.writes hp hpath
        · rcases mem_or_eq_of_mem_set hc' with hother | rfl
          · exact h.todo c' hother value hvalue
          · exact h.todo c hc value (htodo ▸ mem_cons_of_mem _ hvalue)
    · cases hstep

theorem textInv_init : TextInv (.init Tables.empty) :=
  ⟨fun _ ha => absurd ha not_mem_nil, fun _ hc => absurd hc not_mem_nil⟩

/-- Every stored label and every stored path is one that its check returns as it is. -/
theorem stored_text_valid {v : AgentService} {s : AppState}
    (h : Reach (appStep v) (fun _ l => pathsAccepted l = true) (.init Tables.empty) s) :
    ∀ a ∈ s.tables.agents.rows,
      Agents.validateLabel a.label = .ok a.label ∧
      (a.projectPath = "" ∨
        validateProjectPath a.projectPath = .ok a.projectPath ∧ PlainPath a.projectPath) := by
  intro a ha
  have hinv : TextInv s :=
    h.invariant TextInv textInv_init fun _ _ _ hinv hok hstep => hinv.step hok hstep
  have htext := hinv.stored a ha
  refine ⟨validateLabel_of_plainLabel htext.label, ?_⟩
  rcases htext.projectPath with hempty | hplain
  · exact .inl hempty
  · exact .inr ⟨validateProjectPath_of_plainPath hplain, hplain⟩

def pathUpdate (path : String) : List AppLabel :=
  setupLabels.map .service ++
    [.beginUpdate ⟨some (.text "agt_000000000000"), none, none, none, some (.text path)⟩,
      .nextUpdate 0 false]

theorem stored_text_valid_workspace :
    ∃ s a, Reach (appStep sampleService) (fun _ l => pathsAccepted l = true)
        (.init Tables.empty) s ∧
      a ∈ s.tables.agents.rows ∧ a.projectPath = "/workspace" ∧
      Agents.validateLabel a.label = .ok a.label := by
  obtain ⟨s, hs, a, ha, hpath⟩ : ∃ s, runWhile (appStep sampleService) (fun _ l => pathsAccepted l)
      (.init Tables.empty) (pathUpdate "/workspace") = some s ∧
      ∃ a ∈ s.tables.agents.rows, a.projectPath = "/workspace" := by decide +kernel
  have hreach := reach_of_runWhile .start hs
  exact ⟨s, a, hreach, ha, hpath, (stored_text_valid hreach a ha).1⟩

/-- `app.agent.update` stores any text as the path. -/
theorem stored_path_refused :
    ∃ s a, Reach (appStep sampleService) anyStep (.init Tables.empty) s ∧
      a ∈ s.tables.agents.rows ∧ a.projectPath = "../x" ∧
      (validateProjectPath a.projectPath).isOk = false := by
  simp only [exists_and_left]
  exact exists_reach (pathUpdate "../x") (by decide +kernel)

end AgentTower.App
