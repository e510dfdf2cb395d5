import AgentTower.Agents.Attachments
import AgentTower.Discovery.Reconcile

/-!
# A pane scan

`_scan_locked` reads the tables three times, runs `docker exec` for each container and socket,
reconciles, and writes in one transaction.  The scan mutex keeps other pane scans out; every other
writer may come in between, so the three reads may be of three states.
-/

namespace AgentTower.Discovery

open Transition Sql Fallible List Table
open Agents (AgentService AttachLabel LogState PaneScan Tables attachStep)
open Logs (strip)
open Routing (ContainerRow PaneKey PaneRow)
open Agents (sampleService)

/-! ## One container -/

/-- What the three commands come to in one container; `listPanes i` is the call for the `i`-th socket of
the listing.  `resolve_uid` is taken with its outcome. -/
structure ContainerEnv where
  resolveUid : Except Fault String
  ls : RunResult
  listPanes : Nat → RunResult

structure ScanEnv where
  user : Option String
  pwName : Option String
  container : String → ContainerEnv

def resolveBenchUser (env : ScanEnv) (configUser : Option String) : Option String :=
  let head := configUser.map fun user => strip (String.ofList (user.toList.takeWhile (· ≠ ':')))
  ((head.filter (· ≠ "")).or (env.user.filter (· ≠ ""))).or (env.pwName.filter (· ≠ ""))

def socketPath (uid name : String) : String := "/tmp/tmux-" ++ uid ++ "/" ++ name

def boundMessage (text : String) : String :=
  String.ofList ((text.toList.filter fun c =>
    decide (c = '\t' ∨ c = '\n' ∨ 0x20 ≤ c.toNat)).take 2048)

/-- The handler around `list_panes`: an error that carries panes counts as a success with them. -/
def socketOutcome : Except Fault (List ParsedPane) → Except Fault SocketScanOutcome
  | .ok panes => .ok (.ok panes)
  | .error .raised => .error .raised
  | .error (.tmux e) =>
    if e.code = .dockerUnavailable then .error (.tmux e)
    else if e.code = .outputMalformed ∧ e.partialPanes ≠ [] then .ok (.ok e.partialPanes)
    else .ok (.failed e.code (boundMessage e.message))

structure ContainerScanState where
  containerId : String
  info : ContainerMeta
  socketOutcomes : SocketResults
  tmuxUnavailable : Bool

/-- The handlers around `resolve_uid` and `list_socket_dir`: `none` leaves the container alone. -/
def orUnavailable {α : Type} : Except Fault α → Except Fault (Option α)
  | .ok a => .ok (some a)
  | .error .raised => .error .raised
  | .error (.tmux e) => if e.code = .dockerUnavailable then .error (.tmux e) else .ok none

def scanSockets (containerId uid : String) (c : ContainerEnv) (sockets : List String) :
    Except Fault (List ((String × String) × SocketScanOutcome)) :=
  sockets.zipIdx.mapM fun (name, i) => do
    let outcome ← socketOutcome (listPanes containerId (socketPath uid name) (c.listPanes i))
    pure ((containerId, socketPath uid name), outcome)

def scanOneContainer (containerId : String) (info : ContainerMeta) (c : ContainerEnv) :
    Except Fault ContainerScanState := do
  match ← orUnavailable c.resolveUid with
  | none => pure ⟨containerId, info, .empty, true⟩
  | some uid =>
    match ← orUnavailable (listSocketDir containerId uid c.ls) with
    | none => pure ⟨containerId, info, .empty, true⟩
    | some sockets => do
      let outcomes ← scanSockets containerId uid c sockets
      pure ⟨containerId, info, Dict.empty.setAll outcomes,
        !outcomes.any (fun e => e.2.isOk) && decide (sockets ≠ [])⟩

def scanContainer (env : ScanEnv) (row : ContainerRow) : Except Fault ContainerScanState :=
  match resolveBenchUser env row.configUser with
  | none => .ok ⟨row.containerId, ⟨row.name, ""⟩, .empty, true⟩
  | some benchUser =>
    scanOneContainer row.containerId ⟨row.name, benchUser⟩ (env.container row.containerId)

/-! ## The whole scan -/

/-- The tables at the time of each of the three reads. -/
structure Reads where
  containerFilter : Option String
  active : Tables
  cascade : Tables
  prior : Tables

namespace Reads

def inScope (r : Reads) (containerId : String) : Bool :=
  r.containerFilter.all fun c => decide (containerId = c)

def activeRows (r : Reads) : List ContainerRow :=
  ((r.active.containers.rows.filter ContainerRow.active).insertionSort
    fun a b => a.containerId ≤ b.containerId).filter fun row => r.inScope row.containerId

def cascadeIds (r : Reads) : List String :=
  ((r.cascade.containers.rows.filter fun row =>
    !row.active && r.cascade.panes.rows.any fun p => decide (p.key.containerId = row.containerId)).map
      ContainerRow.containerId).filter r.inScope

def priorPanes (r : Reads) : List PaneRow := r.prior.panes.rows

end Reads

def socketResults (states : List ContainerScanState) : SocketResults :=
  Dict.empty.setAll (states.flatMap fun st => st.socketOutcomes.entries)

def unavailableContainers (states : List ContainerScanState) : List String :=
  (states.filter ContainerScanState.tmuxUnavailable).map ContainerScanState.containerId

def containerMetadata (states : List ContainerScanState) (containerId : String) : ContainerMeta :=
  ((states.find? fun st => decide (st.containerId = containerId)).map
    ContainerScanState.info).getD ⟨"", ""⟩

/-- `_scan_locked` up to its transaction. -/
def scanLocked (env : ScanEnv) (r : Reads) (startedAt : String) :
    Except Fault PaneReconcileWriteSet := do
  let states ← r.activeRows.mapM (scanContainer env)
  pure (reconcile r.priorPanes (socketResults states) (unavailableContainers states) r.cascadeIds
    (containerMetadata states) startedAt)

def PaneUpsert.storable (u : PaneUpsert) : Bool :=
  [u.key.tmuxWindowIndex, u.key.tmuxPaneIndex, u.panePid].all fun n =>
    decide (-2 ^ 63 ≤ n ∧ n < 2 ^ 63)

def PaneReconcileWriteSet.scan (w : PaneReconcileWriteSet) (startedAt : String) : PaneScan :=
  ⟨w.upserts.map PaneUpsert.key, w.inactivate, startedAt⟩

/-- `_commit_scan`. -/
def commitWriteSet (v : AgentService) (s : LogState) (w : PaneReconcileWriteSet) (startedAt : String) :
    Option LogState :=
  if w.upserts.all PaneUpsert.storable then attachStep v s (.scanPanes (w.scan startedAt)) else none

/-- The scan from its last read to its commit; `none` if it ends without one. -/
def finishScan (v : AgentService) (s : LogState) (r : Reads) (env : ScanEnv) (startedAt : String) :
    Option LogState :=
  match scanLocked env r startedAt with
  | .error _ => none
  | .ok w => commitWriteSet v s w startedAt

/-! ## Runs -/

inductive ScanPhase where
  | idle
  | activeRead (containerFilter : Option String) (active : Tables)
  | cascadeRead (containerFilter : Option String) (active cascade : Tables)
  | ready (reads : Reads)

structure ScanState where
  base : LogState
  phase : ScanPhase

def ScanState.init : ScanState := ⟨LogState.start, .idle⟩

inductive ScanLabel where
  | begin (containerFilter : Option String)
  | readCascade
  | readPanes
  | finish (env : ScanEnv) (startedAt : String)
  | fail
  | other (l : AttachLabel)

def isPaneScan : AttachLabel → Bool
  | .scanPanes _ => true
  | _ => false

def scanStep (v : AgentService) (s : ScanState) : ScanLabel → Option ScanState
  | .begin containerFilter =>
    match s.phase with
    | .idle => some { s with phase := .activeRead containerFilter s.base.tables }
    | _ => none
  | .readCascade =>
    match s.phase with
    | .activeRead containerFilter active =>
      some { s with phase := .cascadeRead containerFilter active s.base.tables }
    | _ => none
  | .readPanes =>
    match s.phase with
    | .cascadeRead containerFilter active cascade =>
      some { s with phase := .ready ⟨containerFilter, active, cascade, s.base.tables⟩ }
    | _ => none
  | .finish env startedAt =>
    match s.phase with
    | .ready reads => some ⟨(finishScan v s.base reads env startedAt).getD s.base, .idle⟩
    | _ => none
  | .fail => some { s with phase := .idle }
  | .other l =>
    if isPaneScan l then none
    else (attachStep v s.base l).map fun base => { s with base }

/-! ## What a scan has seen -/

structure Listed (env : ScanEnv) (r : Reads) (containerId uid : String) (sockets : List String) :
    Prop where
  scanned : ∃ row ∈ r.activeRows, row.containerId = containerId ∧
    (resolveBenchUser env row.configUser).isSome = true
  resolved : (env.container containerId).resolveUid = .ok uid
  listed : listSocketDir containerId uid (env.container containerId).ls = .ok sockets

def outcomeOf (env : ScanEnv) (containerId uid : String) (i : Nat) (name : String) :
    Except Fault SocketScanOutcome :=
  socketOutcome (listPanes containerId (socketPath uid name) ((env.container containerId).listPanes i))

variable {r : Reads} {containerId : String} {sockets : List String} {s : ScanState}
  {v : AgentService}

theorem Listed.unique {env : ScanEnv} {uid uid' : String}
    {sockets' : List String} (h : Listed env r containerId uid sockets)
    (h' : Listed env r containerId uid' sockets') : uid = uid' ∧ sockets = sockets' := by
  have huid : uid = uid' := Except.ok.inj (h.resolved.symm.trans h'.resolved)
  subst huid
  exact ⟨rfl, Except.ok.inj (h.listed.symm.trans h'.listed)⟩

/-- The last call for a socket path; it is the one whose outcome the dictionary keeps. -/
structure LastCall (uid path : String) (sockets : List String) (i : Nat) (name : String) : Prop where
  named : sockets[i]? = some name
  path_eq : path = socketPath uid name
  last : ∀ j other, sockets[j]? = some other → path = socketPath uid other → j ≤ i

theorem LastCall.mem_map {uid path name : String} {i : Nat} (h : LastCall uid path sockets i name) :
    path ∈ sockets.map (socketPath uid) :=
  List.mem_map.mpr ⟨name, mem_of_getElem? h.named, h.path_eq.symm⟩

theorem LastCall.unique {uid path name name' : String} {i i' : Nat}
    (h : LastCall uid path sockets i name) (h' : LastCall uid path sockets i' name') : i = i' :=
  Nat.le_antisymm (h'.last i name h.named h.path_eq) (h.last i' name' h'.named h'.path_eq)

theorem exists_lastCall {uid path : String} (h : path ∈ sockets.map (socketPath uid)) :
    ∃ i name, LastCall uid path sockets i name := by
  let called (j : Nat) : Prop := sockets[j]?.map (socketPath uid) = some path
  obtain ⟨name, hmem, hpath⟩ := List.mem_map.mp h
  obtain ⟨i, hi⟩ := mem_iff_getElem?.mp hmem
  have hlength : ∀ j other, sockets[j]? = some other → j ≤ sockets.length := fun j other hj =>
    (List.getElem?_eq_some_iff.mp hj).1.le
  have hcalled : called i := by
    show sockets[i]?.map _ = _
    rw [hi, Option.map_some, hpath]
  obtain ⟨other, hother, hpath'⟩ :=
    Option.map_eq_some_iff.mp (Nat.findGreatest_spec (P := called) (hlength i name hi) hcalled)
  refine ⟨_, other, hother, hpath'.symm, fun j other' hj hpath'' => ?_⟩
  refine Nat.le_findGreatest (hlength j other' hj) ?_
  show sockets[j]?.map _ = _
  rw [hj, Option.map_some, hpath'']

/-- The panes of an answer count unless none of its lines could be read. -/
theorem socketOutcome_ok {path : String} {result : RunResult} {panes : List ParsedPane} :
    socketOutcome (listPanes containerId path result) = .ok (.ok panes) ↔
      ∃ stdout stderr, result = .completed 0 stdout stderr ∧ panes = (parseListPanes stdout).1 ∧
        ((parseListPanes stdout).2 = [] ∨ panes ≠ []) := by
  cases result with
  | dockerMissing | timeoutExpired | fileNotFound exc | raised =>
    constructor
    · intro h
      cases h
    · rintro ⟨stdout, stderr, hcompleted, -⟩
      cases hcompleted
  | completed returncode stdout stderr =>
    by_cases hcode : returncode = 0
    · subst hcode
      rcases hparsed : parseListPanes stdout with ⟨parsed, malformed⟩
      have hpanes : socketOutcome (listPanes containerId path (.completed 0 stdout stderr)) =
          .ok (.ok panes) ↔ panes = parsed ∧ (malformed = [] ∨ panes ≠ []) := by
        simp only [listPanes, run, bind, Except.bind, hparsed, if_neg (not_not.mpr rfl)]
        by_cases hmalformed : malformed = []
        · simp [hmalformed, socketOutcome, pure, Except.pure, eq_comm]
        · by_cases hnone : parsed = []
          · simp [hmalformed, hnone, socketOutcome]
          · rw [if_neg fun hboth => hnone hboth.2, if_pos hmalformed]
            simp only [socketOutcome, hmalformed, false_or, hnone, ne_eq, not_false_eq_true, and_true,
              reduceCtorEq, if_true, if_false, Except.ok.injEq, SocketScanOutcome.ok.injEq]
            constructor
            · rintro rfl
              exact ⟨rfl, hnone⟩
            · exact fun heq => heq.1.symm
      rw [hpanes]
      constructor
      · rintro ⟨rfl, hread⟩
        exact ⟨stdout, stderr, rfl, by rw [hparsed], by rwa [hparsed]⟩
      · rintro ⟨stdout', stderr', hcompleted, rfl, hread⟩
        cases hcompleted
        rw [hparsed] at hread ⊢
        exact ⟨rfl, hread⟩
    · constructor
      · intro h
        simp only [listPanes, run, bind, Except.bind, if_pos hcode, socketOutcome] at h
        split_ifs at h with hdocker hpartial <;> cases h
        exact absurd rfl hpartial.2
      · rintro ⟨_, _, hcompleted, -⟩
        cases hcompleted
        exact absurd rfl hcode

section

variable {env : ScanEnv} {r : Reads} {row : ContainerRow} {containerId uid : String}
  {sockets : List String} {states : List ContainerScanState} {st : ContainerScanState}

variable {outcomes : List ((String × String) × SocketScanOutcome)} {i : Nat} {name : String}

theorem mem_scanSockets
    (h : scanSockets containerId uid (env.container containerId) sockets = .ok outcomes)
    {e : (String × String) × SocketScanOutcome} (he : e ∈ outcomes) :
    ∃ i name, sockets[i]? = some name ∧ e.1 = (containerId, socketPath uid name) ∧
      outcomeOf env containerId uid i name = .ok e.2 := by
  obtain ⟨⟨name, i⟩, hmem, hscan⟩ := exists_of_mem_mapM h he
  obtain ⟨outcome, houtcome, hpair⟩ := bind_eq_ok.mp hscan
  cases hpair
  exact ⟨i, name, mem_zipIdx_iff_getElem?.mp hmem, rfl, houtcome⟩

theorem scanSockets_mem
    (h : scanSockets containerId uid (env.container containerId) sockets = .ok outcomes)
    (hname : sockets[i]? = some name) :
    ∃ outcome, ((containerId, socketPath uid name), outcome) ∈ outcomes ∧
      outcomeOf env containerId uid i name = .ok outcome := by
  have hmem : (name, i) ∈ sockets.zipIdx := mem_zipIdx_iff_getElem?.mpr hname
  obtain ⟨e, he, hscan⟩ := exists_mem_of_mapM h hmem
  obtain ⟨outcome, houtcome, hpair⟩ := bind_eq_ok.mp hscan
  cases hpair
  exact ⟨outcome, he, houtcome⟩

theorem orUnavailable_eq_some {α : Type} {x : Except Fault α} {a : α}
    (h : orUnavailable x = .ok (some a)) : x = .ok a := by
  cases x with
  | ok b =>
    cases h
    rfl
  | error fault =>
    cases fault with
    | raised => cases h
    | tmux e =>
      simp only [orUnavailable] at h
      split_ifs at h
      cases h

theorem scanContainer_eq_ok (hrow : row ∈ r.activeRows) (h : scanContainer env row = .ok st) :
    st.containerId = row.containerId ∧
      (st.socketOutcomes = .empty ∧ st.tmuxUnavailable = true ∨
        ∃ uid sockets outcomes, Listed env r row.containerId uid sockets ∧
          scanSockets row.containerId uid (env.container row.containerId) sockets = .ok outcomes ∧
          st.socketOutcomes = Dict.empty.setAll outcomes ∧
          st.tmuxUnavailable = (!outcomes.any (fun e => e.2.isOk) && decide (sockets ≠ []))) := by
  unfold scanContainer at h
  split at h
  · cases h
    exact ⟨rfl, .inl ⟨rfl, rfl⟩⟩
  · rename_i benchUser hbench
    obtain ⟨uid?, huid, h⟩ := bind_eq_ok.mp h
    cases uid? with
    | none =>
      cases h
      exact ⟨rfl, .inl ⟨rfl, rfl⟩⟩
    | some uid =>
      obtain ⟨sockets?, hsockets, h⟩ := bind_eq_ok.mp h
      cases sockets? with
      | none =>
        cases h
        exact ⟨rfl, .inl ⟨rfl, rfl⟩⟩
      | some sockets =>
        obtain ⟨outcomes, houtcomes, h⟩ := bind_eq_ok.mp h
        cases h
        refine ⟨rfl, .inr ⟨uid, sockets, outcomes, ⟨⟨row, hrow, rfl, ?_⟩,
          orUnavailable_eq_some huid, orUnavailable_eq_some hsockets⟩, houtcomes, rfl, rfl⟩⟩
        rw [hbench]
        rfl

theorem get_setAll_scanSockets
    (h : scanSockets containerId uid (env.container containerId) sockets = .ok outcomes)
    {path : String} (hlast : LastCall uid path sockets i name) :
    ∃ outcome, (Dict.empty.setAll outcomes).get (containerId, path) = some outcome ∧
      outcomeOf env containerId uid i name = .ok outcome := by
  obtain ⟨hi, hname⟩ := List.getElem?_eq_some_iff.mp hlast.named
  have hsplit : sockets.zipIdx = sockets.zipIdx.take i ++ (name, i) :: sockets.zipIdx.drop (i + 1) := by
    have hlength : i < sockets.zipIdx.length := by rwa [length_zipIdx]
    have hdrop := drop_eq_getElem_cons hlength
    rw [getElem_zipIdx, hname, Nat.zero_add] at hdrop
    rw [← hdrop, take_append_drop]
  unfold scanSockets at h
  rw [hsplit] at h
  obtain ⟨before, e, after, rfl, he, hafter⟩ := mapM_split h
  obtain ⟨outcome, houtcome, hpair⟩ := bind_eq_ok.mp he
  cases hpair
  refine ⟨outcome, ?_, houtcome⟩
  rw [← hlast.path_eq]
  refine Dict.get_setAll_last _ fun hmem => ?_
  -- no later call is for this path
  obtain ⟨later, hlater, hkey⟩ := mem_map.mp hmem
  obtain ⟨⟨other, j⟩, hj, hscan⟩ := exists_of_mem_mapM hafter hlater
  obtain ⟨_, -, hpair⟩ := bind_eq_ok.mp hscan
  cases hpair
  obtain ⟨n, hn⟩ := mem_iff_getElem?.mp hj
  rw [getElem?_drop, getElem?_zipIdx] at hn
  obtain ⟨other', hother, hpair⟩ := Option.map_eq_some_iff.mp hn
  cases hpair
  have hle := hlast.last _ other hother (Prod.mk.inj hkey).2.symm
  omega

theorem scanContainer_of_listed (hlisted : Listed env r row.containerId uid sockets)
    (hbench : (resolveBenchUser env row.configUser).isSome = true)
    (h : scanContainer env row = .ok st) :
    ∃ outcomes, scanSockets row.containerId uid (env.container row.containerId) sockets = .ok outcomes ∧
      st.socketOutcomes = Dict.empty.setAll outcomes ∧
      st.tmuxUnavailable = (!outcomes.any (fun e => e.2.isOk) && decide (sockets ≠ [])) := by
  obtain ⟨benchUser, hbench⟩ := Option.isSome_iff_exists.mp hbench
  have huid : orUnavailable (env.container row.containerId).resolveUid = .ok (some uid) := by
    rw [hlisted.resolved]
    rfl
  have hsockets : orUnavailable (listSocketDir row.containerId uid (env.container row.containerId).ls) =
      .ok (some sockets) := by
    rw [hlisted.listed]
    rfl
  simp only [scanContainer, hbench, scanOneContainer, bind_of_ok huid, bind_of_ok hsockets] at h
  obtain ⟨outcomes, houtcomes, h⟩ := bind_eq_ok.mp h
  cases h
  exact ⟨outcomes, houtcomes, rfl, rfl⟩

theorem activeRows_eq {row row' : ContainerRow} (h : row ∈ r.activeRows) (h' : row' ∈ r.activeRows)
    (hid : row.containerId = row'.containerId) : row = row' := by
  have hmem : ∀ {x : ContainerRow}, x ∈ r.activeRows → x ∈ r.active.containers.rows := fun hx =>
    (mem_filter.mp ((mem_insertionSort _).mp (mem_filter.mp hx).1)).1
  exact inj_on_of_nodup_map r.active.containers.primary (hmem h) (hmem h') hid

theorem mem_entries_scanContainer (hrow : row ∈ r.activeRows) (h : scanContainer env row = .ok st)
    {key : String × String} {outcome : SocketScanOutcome} :
    (key, outcome) ∈ st.socketOutcomes.entries ↔
      ∃ uid sockets i name, key.1 = row.containerId ∧ Listed env r key.1 uid sockets ∧
        LastCall uid key.2 sockets i name ∧ outcomeOf env key.1 uid i name = .ok outcome := by
  constructor
  · intro hentry
    obtain ⟨-, ⟨hempty, -⟩ | ⟨uid, sockets, outcomes, hlisted, hsockets, hset, -⟩⟩ :=
      scanContainer_eq_ok hrow h
    · rw [hempty] at hentry
      cases hentry
    · rw [hset] at hentry
      obtain ⟨i, name, hname, hkey, -⟩ := mem_scanSockets hsockets (Dict.mem_of_mem_setAll_empty hentry)
      obtain ⟨containerId, path⟩ := key
      obtain ⟨rfl, rfl⟩ := Prod.mk.inj hkey
      obtain ⟨j, other, hlast⟩ := exists_lastCall (mem_map_of_mem (mem_of_getElem? hname))
      obtain ⟨outcome', hget, hout⟩ := get_setAll_scanSockets hsockets hlast
      rw [(Dict.get_eq_some_iff _).mpr hentry] at hget
      cases hget
      exact ⟨uid, sockets, j, other, rfl, hlisted, hlast, hout⟩
  · rintro ⟨uid, sockets, i, name, hkey, hlisted, hlast, hout⟩
    obtain ⟨containerId, path⟩ := key
    obtain rfl : containerId = row.containerId := hkey
    obtain ⟨row', hrow', hid, hbench⟩ := hlisted.scanned
    cases activeRows_eq hrow' hrow hid
    obtain ⟨outcomes, houtcomes, hset, -⟩ := scanContainer_of_listed hlisted hbench h
    obtain ⟨outcome', hget, hout'⟩ := get_setAll_scanSockets houtcomes hlast
    rw [hout] at hout'
    cases hout'
    rw [hset]
    exact (Dict.get_eq_some_iff _).mp hget

/-- The dictionary of a scan has the outcome of the last call for each socket that was listed. -/
theorem mem_socketResults (h : r.activeRows.mapM (scanContainer env) = .ok states)
    {socket : String} {outcome : SocketScanOutcome} :
    ((containerId, socket), outcome) ∈ (socketResults states).entries ↔
      ∃ uid sockets i name, Listed env r containerId uid sockets ∧
        LastCall uid socket sockets i name ∧ outcomeOf env containerId uid i name = .ok outcome := by
  have hpair : ∀ {key : String × String} {outcome : SocketScanOutcome},
      (key, outcome) ∈ (states.flatMap fun st => st.socketOutcomes.entries) ↔
        ∃ uid sockets i name, Listed env r key.1 uid sockets ∧ LastCall uid key.2 sockets i name ∧
          outcomeOf env key.1 uid i name = .ok outcome := by
    intro key outcome
    rw [mem_flatMap]
    constructor
    · rintro ⟨st, hst, hentry⟩
      obtain ⟨row, hrow, hscan⟩ := exists_of_mem_mapM h hst
      obtain ⟨uid, sockets, i, name, -, hcall⟩ := (mem_entries_scanContainer hrow hscan).mp hentry
      exact ⟨uid, sockets, i, name, hcall⟩
    · rintro ⟨uid, sockets, i, name, hlisted, hcall⟩
      obtain ⟨row, hrow, hid, -⟩ := hlisted.scanned
      obtain ⟨st, hst, hscan⟩ := exists_mem_of_mapM h hrow
      exact ⟨st, hst, (mem_entries_scanContainer hrow hscan).mpr
        ⟨uid, sockets, i, name, hid.symm, hlisted, hcall⟩⟩
  unfold socketResults
  rw [Dict.mem_setAll_empty_iff, hpair]
  intro key outcome outcome' hmem hmem'
  obtain ⟨uid, sockets, i, name, hlisted, hlast, hout⟩ := hpair.mp hmem
  obtain ⟨uid', sockets', i', name', hlisted', hlast', hout'⟩ := hpair.mp hmem'
  obtain ⟨rfl, rfl⟩ := hlisted.unique hlisted'
  obtain rfl := hlast.unique hlast'
  obtain rfl : name = name' := Option.some.inj (hlast.named.symm.trans hlast'.named)
  rw [hout] at hout'
  exact Except.ok.inj hout'

theorem mem_observedSockets (h : r.activeRows.mapM (scanContainer env) = .ok states)
    (hlisted : Listed env r containerId uid sockets) {socket : String} :
    socket ∈ observedSockets (socketResults states) containerId ↔
      socket ∈ sockets.map (socketPath uid) := by
  constructor
  · intro hmem
    obtain ⟨⟨⟨c, path⟩, outcome⟩, he, rfl⟩ := mem_map.mp hmem
    obtain ⟨hentry, hid⟩ := mem_filter.mp he
    obtain rfl : c = containerId := of_decide_eq_true hid
    obtain ⟨uid', sockets', i, name, hlisted', hlast, -⟩ := (mem_socketResults h).mp hentry
    obtain ⟨rfl, rfl⟩ := hlisted.unique hlisted'
    exact hlast.mem_map
  · intro hmem
    obtain ⟨i, name, hlast⟩ := exists_lastCall hmem
    obtain ⟨row, hrow, rfl, hbench⟩ := hlisted.scanned
    obtain ⟨st, -, hscan⟩ := exists_mem_of_mapM h hrow
    obtain ⟨outcomes, houtcomes, -, -⟩ := scanContainer_of_listed hlisted hbench hscan
    obtain ⟨outcome, -, hout⟩ := get_setAll_scanSockets houtcomes hlast
    have hentry := (mem_socketResults h).mpr ⟨uid, sockets, i, name, hlisted, hlast, hout⟩
    exact mem_map.mpr ⟨_, mem_filter.mpr ⟨hentry, decide_eq_true rfl⟩, rfl⟩

theorem mem_scannedContainers (h : r.activeRows.mapM (scanContainer env) = .ok states)
    (hlisted : Listed env r containerId uid sockets) :
    containerId ∈ scannedContainers (socketResults states) ↔ sockets ≠ [] := by
  have hobserved : containerId ∈ scannedContainers (socketResults states) ↔
      ∃ socket, socket ∈ observedSockets (socketResults states) containerId := by
    simp [scannedContainers, observedSockets]
  rw [hobserved]
  simp only [mem_observedSockets h hlisted]
  cases sockets with
  | nil => simp
  | cons name sockets => simp

theorem mem_unavailableContainers (h : r.activeRows.mapM (scanContainer env) = .ok states)
    (hlisted : Listed env r containerId uid sockets) (hsockets : sockets ≠ []) :
    containerId ∈ unavailableContainers states ↔
      ∀ i name panes, sockets[i]? = some name → outcomeOf env containerId uid i name ≠ .ok (.ok panes) := by
  obtain ⟨row, hrow, rfl, hbench⟩ := hlisted.scanned
  obtain ⟨st, hst, hscan⟩ := exists_mem_of_mapM h hrow
  obtain ⟨outcomes, houtcomes, -, hflag⟩ := scanContainer_of_listed hlisted hbench hscan
  have hunavailable : row.containerId ∈ unavailableContainers states ↔ st.tmuxUnavailable = true := by
    constructor
    · intro hmem
      obtain ⟨st', hst', hid⟩ := mem_map.mp hmem
      obtain ⟨hst', hflag'⟩ := mem_filter.mp hst'
      obtain ⟨row', hrow', hscan'⟩ := exists_of_mem_mapM h hst'
      obtain rfl := activeRows_eq hrow' hrow ((scanContainer_eq_ok hrow' hscan').1.symm.trans hid)
      cases hscan'.symm.trans hscan
      exact hflag'
    · intro hflag
      exact mem_map.mpr ⟨st, mem_filter.mpr ⟨hst, hflag⟩, (scanContainer_eq_ok hrow hscan).1⟩
  rw [hunavailable, hflag, decide_eq_true hsockets, Bool.and_true, Bool.not_eq_true', any_eq_false]
  constructor
  · intro hnone i name panes hname hok
    obtain ⟨outcome, hmem, hout⟩ := scanSockets_mem houtcomes hname
    rw [hok] at hout
    cases hout
    exact hnone _ hmem rfl
  · intro hnone e he hisOk
    obtain ⟨i, name, hname, -, hout⟩ := mem_scanSockets houtcomes he
    cases houtcome : e.2 with
    | failed => rw [houtcome] at hisOk; cases hisOk
    | ok panes => exact hnone i name panes hname (houtcome ▸ hout)

theorem mem_cascadeIds (h : containerId ∈ r.cascadeIds) :
    ∃ row, r.cascade.containers.get containerId = some row ∧ row.active = false := by
  obtain ⟨row, hrow, rfl⟩ := mem_map.mp (mem_filter.mp h).1
  obtain ⟨hmem, hsel⟩ := mem_filter.mp hrow
  exact ⟨row, Table.get_of_mem hmem, by simpa using (Bool.and_eq_true_iff.mp hsel).1⟩

end

/-! ## What the commit does -/

section

variable {v : AgentService} {s s' : LogState} {scan : PaneScan} {k : PaneKey}

/-- The row of a pane, or an agent or an attachment of it, is active before and not after. -/
inductive Lost (s s' : LogState) (k : PaneKey) : Prop
  | pane : s.tables.PaneActive k → ¬ s'.tables.PaneActive k → Lost s s' k
  | agent {a b : Agents.AgentRecord} : a ∈ s.tables.agents.rows → a.key = k → a.active = true →
      b ∈ s'.tables.agents.rows → b.agentId = a.agentId → b.active = false → Lost s s' k
  | attachment {r r' : Logs.LogAttachmentRecord} : r ∈ s.logs.attachments.rows → r.key = k →
      r.status = .active → r' ∈ s'.logs.attachments.rows → r'.attachmentId = r.attachmentId →
      r'.status ≠ .active → Lost s s' k

theorem attachStep_scanPanes (h : attachStep v s (.scanPanes scan) = some s') :
    ∃ t attachments, Agents.commitScan s.tables scan = some t ∧
      Logs.LogAttachments.cascadeToStaleForPanes s.logs.attachments scan.inactivate scan.startedAt =
        some attachments ∧
      s' = { s with tables := t, logs := { s.logs with attachments } } := by
  simp only [attachStep, Option.bind_eq_bind, Option.bind_eq_some_iff] at h
  obtain ⟨t, hscan, attachments, hcascade, h⟩ := h
  cases h
  exact ⟨t, attachments, hscan, hcascade, rfl⟩

theorem Lost.mem_inactivate (hlost : Lost s s' k) (h : attachStep v s (.scanPanes scan) = some s') :
    k ∈ scan.inactivate := by
  obtain ⟨t, attachments, hscan, hcascade, rfl⟩ := attachStep_scanPanes h
  by_contra hkey
  cases hlost with
  | pane hbefore hafter => exact hafter ((Agents.paneActive_commitScan hscan).mpr ⟨hkey, .inr hbefore⟩)
  | agent ha hkey' hactive hb hid hgone =>
    obtain ⟨c, hc, hcid, -, hkept⟩ := Agents.agentsKept_commitScan hscan _ ha
    have hsame := inj_on_of_nodup_map t.agents.primary hb hc (hid.trans hcid.symm)
    rw [hsame, hkept hactive (hkey' ▸ hkey)] at hgone
    cases hgone
  | @attachment r r' hr hkey' hactive hr' hid hgone =>
    have hrows := Logs.LogAttachments.rows_cascadeToStaleForPanes hcascade
    have hstays : r ∈ attachments.rows := by
      rw [hrows]
      refine mem_map.mpr ⟨r, hr, if_neg ?_⟩
      rw [hkey']
      exact fun hboth => hkey hboth.1
    have hsame := inj_on_of_nodup_map attachments.primary hr' hstays hid
    exact hgone (hsame ▸ hactive)

theorem lost_of_mem_inactivate (hactive : s.tables.PaneActive k) (hkey : k ∈ scan.inactivate)
    (h : attachStep v s (.scanPanes scan) = some s') : Lost s s' k := by
  obtain ⟨t, attachments, hscan, -, rfl⟩ := attachStep_scanPanes h
  exact .pane hactive fun hafter => ((Agents.paneActive_commitScan hscan).mp hafter).1 hkey

theorem finishScan_eq_some {r : Reads} {env : ScanEnv} {startedAt : String}
    (h : finishScan v s r env startedAt = some s') :
    ∃ states, r.activeRows.mapM (scanContainer env) = .ok states ∧
      attachStep v s (.scanPanes ((reconcile r.priorPanes (socketResults states)
        (unavailableContainers states) r.cascadeIds (containerMetadata states) startedAt).scan
          startedAt)) = some s' := by
  unfold finishScan at h
  split at h
  · cases h
  · rename_i w hw
    obtain ⟨states, hstates, hpure⟩ := bind_eq_ok.mp hw
    cases hpure
    unfold commitWriteSet at h
    split_ifs at h
    exact ⟨states, hstates, h⟩

end

/-! ## The panes read are the panes written -/

theorem panes_effect {t t' : Tables} {l : Agents.Label} (h : Agents.Effect t l t')
    (hl : ∀ scan, l ≠ .scanPanes scan) : t'.panes = t.panes := by
  cases h with
  | scanned => exact absurd rfl (hl _)
  | containers hscan =>
    obtain ⟨g, -, rfl⟩ := Option.map_eq_some_iff.mp hscan
    rfl
  | same | created | reRegistered | roleSet | labelSet | capabilitySet => rfl

theorem attachStep_panes {s s' : LogState} {l : AttachLabel}
    (hl : isPaneScan l = false) (h : attachStep v s l = some s') :
    s'.tables.panes = s.tables.panes := by
  cases l with
  | scanPanes => cases hl
  | registry l =>
    cases l with
    | registerAgent | scanPanes => cases h
    | setRole | setLabel | setCapability | scanContainers =>
      simp only [attachStep] at h
      obtain ⟨t, hstep, rfl⟩ := Option.map_eq_some_iff.mp h
      exact panes_effect (Agents.step_effect hstep) fun _ hl => by cases hl
  | registerAgent params o attach =>
    simp only [attachStep] at h
    split at h <;> cases h
    · rename_i t logs hregister
      obtain ⟨registered, hregistered, rfl, -⟩ := Agents.registerAndAttach_effect hregister
      exact panes_effect (Agents.registerAgent_effect hregistered) fun _ hl => by cases hl
    · rfl
  | resolveAgent agentId =>
    simp only [attachStep] at h
    split at h
    · split_ifs at h <;> cases h <;> rfl
    · cases h
      rfl
  | resolveContainer i | requirePane i =>
    simp only [attachStep, LogState.check] at h
    split at h
    · split_ifs at h <;> cases h <;> rfl
    · cases h
  | attach i target o =>
    simp only [attachStep] at h
    split at h
    · split at h <;> cases h <;> rfl
    · cases h
  | abandon i =>
    cases h
    rfl
  | logs op =>
    cases op <;> cases h <;> rfl
  | recovery w =>
    obtain ⟨logs, -, rfl⟩ := Option.map_eq_some_iff.mp h
    rfl

def PriorCurrent (s : ScanState) : Prop :=
  ∀ r, s.phase = .ready r → r.prior.panes = s.base.tables.panes

abbrev ScanReachable (v : AgentService) : ScanState → Prop :=
  Reach (scanStep v) anyStep ScanState.init

theorem PriorCurrent.step {s' : ScanState} {l : ScanLabel}
    (h : PriorCurrent s) (hstep : scanStep v s l = some s') : PriorCurrent s' := by
  intro r hready
  cases l with
  | begin containerFilter | readCascade | finish env startedAt =>
    simp only [scanStep] at hstep
    split at hstep <;> cases hstep
    cases hready
  | readPanes =>
    simp only [scanStep] at hstep
    split at hstep <;> cases hstep
    cases hready
    rfl
  | fail =>
    cases hstep
    cases hready
  | other l =>
    simp only [scanStep] at hstep
    split_ifs at hstep with hscan
    obtain ⟨base, hbase, rfl⟩ := Option.map_eq_some_iff.mp hstep
    exact (h r hready).trans (attachStep_panes (by simpa using hscan) hbase).symm

theorem ScanReachable.priorCurrent (h : ScanReachable v s) : PriorCurrent s :=
  Reach.invariant PriorCurrent (fun _ hready => ScanPhase.noConfusion hready)
    (fun _ _ _ hinv _ hstep => hinv.step hstep) h

/-! ## What a scan takes away -/

/-- Why a pane may be lost; `tmux` is what the servers have when they answer. -/
inductive Gone (env : ScanEnv) (r : Reads) (tmux : String → Nat → List ParsedPane) (k : PaneKey) : Prop
  | container {row : ContainerRow} : r.cascade.containers.get k.containerId = some row →
      row.active = false → Gone env r tmux k
  | socket {uid : String} {sockets : List String} : Listed env r k.containerId uid sockets →
      k.tmuxSocketPath ∉ sockets.map (socketPath uid) → Gone env r tmux k
  | pane {uid : String} {sockets : List String} {i : Nat} {name stderr : String} :
      Listed env r k.containerId uid sockets → LastCall uid k.tmuxSocketPath sockets i name →
      (env.container k.containerId).listPanes i =
        .completed 0 (listPanesStdout (tmux k.containerId i)) stderr →
      (∀ p ∈ tmux k.containerId i, upsertKey k.containerId k.tmuxSocketPath p ≠ k) → Gone env r tmux k

/-- If the server answers and has the pane, then a line of the answer is read as that pane, or none is
read at all. -/
def LineRead (env : ScanEnv) (r : Reads) (tmux : String → Nat → List ParsedPane) (k : PaneKey) : Prop :=
  ∀ uid sockets i name stdout stderr, Listed env r k.containerId uid sockets →
    LastCall uid k.tmuxSocketPath sockets i name →
    (env.container k.containerId).listPanes i = .completed 0 stdout stderr →
    (∃ p ∈ tmux k.containerId i, upsertKey k.containerId k.tmuxSocketPath p = k) →
    k ∈ (parseListPanes stdout).1.map (upsertKey k.containerId k.tmuxSocketPath) ∨
      (parseListPanes stdout).1 = [] ∧ (parseListPanes stdout).2 ≠ []

theorem lineRead_of_plain {env : ScanEnv} {tmux : String → Nat → List ParsedPane} {k : PaneKey}
    (hprints : ∀ i stdout stderr,
      (env.container k.containerId).listPanes i = .completed 0 stdout stderr →
        stdout = listPanesStdout (tmux k.containerId i))
    (hplain : ∀ i, ∀ p ∈ tmux k.containerId i,
      upsertKey k.containerId k.tmuxSocketPath p = k → p.plain = true) : LineRead env r tmux k := by
  rintro uid sockets i name stdout stderr - - hrun ⟨p, hp, hkey⟩
  rw [hprints i stdout stderr hrun]
  exact .inl (mem_map.mpr ⟨p, mem_parseListPanes hp (hplain i p hp hkey), hkey⟩)

theorem row_of_paneActive {k : PaneKey} (h : ScanReachable v s) (hphase : s.phase = .ready r) :
    s.base.tables.PaneActive k ↔ ∃ p ∈ r.priorPanes, p.active = true ∧ p.key = k := by
  show (s.base.tables.panes.get k).any PaneRow.active = true ↔ _
  unfold Reads.priorPanes
  rw [h.priorCurrent r hphase]
  constructor
  · intro hactive
    obtain ⟨p, hp, hon⟩ := (Option.any_eq_true _ _).mp hactive
    exact ⟨p, mem_of_get hp, hon, key_of_get hp⟩
  · rintro ⟨p, hp, hon, rfl⟩
    rw [Table.get_of_mem hp]
    exact hon

/-- A pane is lost in a scan only with its container, with its socket, or because the server has no such
pane, exactly when the line of an active pane can be read or no line of its socket can. -/
theorem lost_only_if_gone {v : AgentService} {s : ScanState} {s' : LogState} {r : Reads} {env : ScanEnv}
    {startedAt : String} {k : PaneKey} (tmux : String → Nat → List ParsedPane)
    (h : ScanReachable v s) (hphase : s.phase = .ready r)
    (hcommit : finishScan v s.base r env startedAt = some s')
    (hprints : ∀ i stdout stderr,
      (env.container k.containerId).listPanes i = .completed 0 stdout stderr →
        stdout = listPanesStdout (tmux k.containerId i)) :
    (Lost s.base s' k → Gone env r tmux k) ↔
      (s.base.tables.PaneActive k →
        (∃ row, r.cascade.containers.get k.containerId = some row ∧ row.active = false) ∨
          LineRead env r tmux k) := by
  obtain ⟨states, hstates, hstep⟩ := finishScan_eq_some hcommit
  constructor
  · intro hgone hactive
    by_contra hnot
    obtain ⟨hcontainer, hline⟩ := not_or.mp hnot
    refine hline fun uid sockets i name stdout stderr hlisted hlast hrun hserver => ?_
    by_contra hread
    obtain ⟨hunread, hsome⟩ := not_or.mp hread
    -- the panes of the answer replace the rows of the socket
    have hok : outcomeOf env k.containerId uid i name = .ok (.ok (parseListPanes stdout).1) := by
      refine socketOutcome_ok.mpr ⟨stdout, stderr, hrun, rfl, ?_⟩
      by_contra hnone
      obtain ⟨hmalformed, hempty⟩ := not_or.mp hnone
      exact hsome ⟨not_not.mp hempty, hmalformed⟩
    have hentry := (mem_socketResults hstates).mpr ⟨uid, sockets, i, name, hlisted, hlast, hok⟩
    have hrow := (row_of_paneActive h hphase).mp hactive
    have hlost := lost_of_mem_inactivate hactive ((mem_inactivate (containerMetadata states)
      startedAt).mpr ⟨hrow, .disappeared hentry hunread⟩) hstep
    cases hgone hlost with
    | container hrow hoff => exact hcontainer ⟨_, hrow, hoff⟩
    | socket hlisted' hmissing =>
      obtain ⟨rfl, rfl⟩ := hlisted.unique hlisted'
      exact hmissing hlast.mem_map
    | pane hlisted' hlast' _ hnone =>
      obtain ⟨rfl, rfl⟩ := hlisted.unique hlisted'
      obtain rfl := hlast.unique hlast'
      obtain ⟨p, hp, hkey⟩ := hserver
      exact hnone p hp hkey
  · intro hcond hlost
    obtain ⟨hrow, hreason⟩ := (mem_inactivate (containerMetadata states) startedAt).mp
      (hlost.mem_inactivate hstep)
    cases hreason with
    | cascaded hmem =>
      obtain ⟨row, hget, hoff⟩ := mem_cascadeIds hmem
      exact .container hget hoff
    | socketGone hscanned _ _ hsocket =>
      obtain ⟨⟨⟨containerId, socket⟩, outcome⟩, he, hid⟩ := mem_map.mp (mem_dedup.mp hscanned)
      obtain rfl : containerId = k.containerId := hid
      obtain ⟨uid, sockets, -, -, hlisted, -⟩ := (mem_socketResults hstates).mp he
      exact .socket hlisted fun hmem => hsocket ((mem_observedSockets hstates hlisted).mpr hmem)
    | disappeared hentry hnot =>
      obtain ⟨uid, sockets, i, name, hlisted, hlast, hok⟩ := (mem_socketResults hstates).mp hentry
      obtain ⟨stdout, stderr, hrun, rfl, hsome⟩ := socketOutcome_ok.mp hok
      obtain rfl := hprints i stdout stderr hrun
      by_cases hserver : ∃ p ∈ tmux k.containerId i, upsertKey k.containerId k.tmuxSocketPath p = k
      · rcases hcond ((row_of_paneActive h hphase).mpr hrow) with ⟨row, hget, hoff⟩ | hline
        · exact .container hget hoff
        · rcases hline uid sockets i name _ stderr hlisted hlast hrun hserver with hread | hnone
          · exact absurd hread hnot
          · exact (hsome.elim hnone.2 fun hpanes => hpanes hnone.1).elim
      · exact .pane hlisted hlast hrun fun p hp hkey => hserver ⟨p, hp, hkey⟩

def samplePath : String := "/tmp/tmux-1000/default"

def shellPane (paneId directory : String) : ParsedPane :=
  ⟨"main", 0, 0, paneId, 100, "/dev/pts/1", "bash", directory, "work", true⟩

def listedEnv (listing : String) (panes : List ParsedPane) : ScanEnv where
  user := some "dev"
  pwName := none
  container _ :=
    ⟨.ok "1000", .completed 0 listing "", fun _ => .completed 0 (listPanesStdout panes) ""⟩

def sampleEnv (panes : List ParsedPane) : ScanEnv := listedEnv "default\n" panes

def readLabels : List ScanLabel := [.begin none, .readCascade, .readPanes]

def sampleKey : PaneKey := upsertKey "c0" samplePath (shellPane "%0" "/w")

/-- Two panes are found, a slave is registered on the first and its log attached; then the next scan has
done its reads. -/
def nextScanLabels : List ScanLabel :=
  [.other (.registry (.scanContainers [Agents.sampleContainer] []))] ++ readLabels ++
    [.finish (sampleEnv [shellPane "%0" "/w", shellPane "%1" "/w"]) "t1",
      .other (.registerAgent { Agents.sampleSlave "%0" with paneCompositeKey := sampleKey }
        (Agents.sampleOutside "t2" 0) none)] ++
    Agents.checkLabels.map .other ++ [.other Agents.sampleAttach] ++ readLabels

def ScanState.reads (s : ScanState) : Option Reads :=
  match s.phase with
  | .ready r => some r
  | _ => none

theorem ScanState.phase_of_reads (h : s.reads = some r) : s.phase = .ready r := by
  unfold reads at h
  split at h <;> cases h
  rename_i hphase
  exact hphase

def sampleRows (s : LogState) : Option Bool × List Bool × List Logs.AttachmentStatus :=
  ((s.tables.panes.get sampleKey).map PaneRow.active,
    (s.tables.agents.rows.filter fun a => decide (a.key = sampleKey)).map Agents.AgentRecord.active,
    (s.logs.attachments.rows.filter fun r => decide (r.key = sampleKey)).map
      Logs.LogAttachmentRecord.status)

/-- The server has the second pane only. -/
theorem lost_only_if_gone_closed :
    ∃ s s' r, ScanReachable sampleService s ∧ s.phase = .ready r ∧
      finishScan sampleService s.base r (sampleEnv [shellPane "%1" "/w"]) "t9" = some s' ∧
      Lost s.base s' sampleKey ∧
      Gone (sampleEnv [shellPane "%1" "/w"]) r (fun _ _ => [shellPane "%1" "/w"]) sampleKey := by
  obtain ⟨s, hs, hbefore, r, hr, s', hfinish, hafter⟩ :
      ∃ s, Transition.run (scanStep sampleService) ScanState.init nextScanLabels = some s ∧
      (s.base.tables.panes.get sampleKey).any PaneRow.active = true ∧
      ∃ r, s.reads = some r ∧
        ∃ s', finishScan sampleService s.base r (sampleEnv [shellPane "%1" "/w"]) "t9" = some s' ∧
          (s'.tables.panes.get sampleKey).any PaneRow.active = false := by decide +kernel
  have hreach : ScanReachable sampleService s := reach_of_run hs
  have hphase := ScanState.phase_of_reads hr
  have hlost : Lost s.base s' sampleKey := by
    refine .pane hbefore fun hactive => ?_
    unfold Tables.PaneActive at hactive
    rw [hactive] at hafter
    cases hafter
  have hprints : ∀ i stdout stderr,
      ((sampleEnv [shellPane "%1" "/w"]).container sampleKey.containerId).listPanes i =
        .completed 0 stdout stderr → stdout = listPanesStdout [shellPane "%1" "/w"] :=
    fun _ _ _ hrun => (RunResult.completed.inj hrun).2.1.symm
  refine ⟨s, s', r, hreach, hphase, hfinish, hlost, ?_⟩
  refine (lost_only_if_gone (fun _ _ => [shellPane "%1" "/w"]) hreach hphase hfinish hprints).mpr
    (fun _ => .inr (lineRead_of_plain hprints fun i p hp _ => ?_)) hlost
  rw [mem_singleton.mp hp]
  decide +kernel

/-- The same two panes, but the first has gone to a directory with a tab in its name. -/
theorem pane_with_tab_lost :
    ∃ s s', Transition.run (scanStep sampleService) ScanState.init nextScanLabels = some s ∧
      scanStep sampleService s
        (.finish (sampleEnv [shellPane "%0" "/w/a\tb", shellPane "%1" "/w"]) "t9") = some s' ∧
      upsertKey "c0" samplePath (shellPane "%0" "/w/a\tb") = sampleKey ∧
      sampleRows s.base = (some true, [true], [.active]) ∧
      sampleRows s'.base = (some false, [false], [.stale]) := by
  decide +kernel

/-! ## What a scan leaves -/

/-- After the commit the active panes of a container are on sockets of its listing exactly when one of the
sockets could be read, or the container has become inactive, or they all were before. -/
theorem active_panes_listed {v : AgentService} {s : ScanState} {s' : LogState} {r : Reads}
    {env : ScanEnv} {startedAt containerId uid : String} {sockets : List String}
    (h : ScanReachable v s) (hphase : s.phase = .ready r)
    (hcommit : finishScan v s.base r env startedAt = some s')
    (hlisted : Listed env r containerId uid sockets) :
    (∀ k : PaneKey, k.containerId = containerId → s'.tables.PaneActive k →
      k.tmuxSocketPath ∈ sockets.map (socketPath uid)) ↔
    (∃ i name panes, sockets[i]? = some name ∧ outcomeOf env containerId uid i name = .ok (.ok panes)) ∨
      containerId ∈ r.cascadeIds ∨
      ∀ k : PaneKey, k.containerId = containerId → s.base.tables.PaneActive k →
        k.tmuxSocketPath ∈ sockets.map (socketPath uid) := by
  obtain ⟨states, hstates, hstep⟩ := finishScan_eq_some hcommit
  obtain ⟨t, attachments, hscan, -, rfl⟩ := attachStep_scanPanes hstep
  have hactive : ∀ {k : PaneKey}, t.PaneActive k ↔ _ := Agents.paneActive_commitScan hscan
  constructor
  · intro hafter
    by_contra hnot
    simp only [not_or, not_exists, not_and] at hnot
    obtain ⟨hunread, hcascade, hbefore⟩ := hnot
    refine hbefore fun k hid hon => hafter k hid (hactive.mpr ⟨fun hmem => ?_, .inr hon⟩)
    subst hid
    cases ((mem_inactivate (containerMetadata states) startedAt).mp hmem).2 with
    | cascaded hmem => exact hcascade hmem
    | disappeared hentry _ =>
      obtain ⟨uid', sockets', i, name, hlisted', hlast, hok⟩ := (mem_socketResults hstates).mp hentry
      obtain ⟨rfl, rfl⟩ := hlisted.unique hlisted'
      exact hunread i name _ hlast.named hok
    | socketGone hscanned havailable _ _ =>
      refine havailable ((mem_unavailableContainers hstates hlisted
        ((mem_scannedContainers hstates hlisted).mp hscanned)).mpr fun i name panes hname => ?_)
      exact hunread i name panes hname
  · rintro hcond k rfl hon
    obtain ⟨hstays, hupserted | hbefore⟩ := hactive.mp hon
    · -- an upserted pane was parsed on one of the sockets
      obtain ⟨u, hu, rfl⟩ := mem_map.mp hupserted
      obtain ⟨panes, hentry⟩ := mem_upserts hu
      obtain ⟨uid', sockets', i, name, hlisted', hlast, -⟩ := (mem_socketResults hstates).mp hentry
      obtain ⟨rfl, rfl⟩ := hlisted.unique hlisted'
      exact hlast.mem_map
    · -- a row that was there is on a socket that was observed, or it would have been made inactive
      by_contra hsocket
      refine hstays ((mem_inactivate (containerMetadata states) startedAt).mpr
        ⟨(row_of_paneActive h hphase).mp hbefore, ?_⟩)
      by_cases hcascade : k.containerId ∈ r.cascadeIds
      · exact .cascaded hcascade
      · rcases hcond with ⟨i, name, panes, hname, hok⟩ | hmem | hlast
        · have hsockets : sockets ≠ [] := ne_nil_of_mem (mem_of_getElem? hname)
          refine .socketGone ((mem_scannedContainers hstates hlisted).mpr hsockets) ?_ hcascade ?_
          · intro hmem
            exact (mem_unavailableContainers hstates hlisted hsockets).mp hmem i name panes hname hok
          · exact fun hmem => hsocket ((mem_observedSockets hstates hlisted).mp hmem)
        · exact absurd hmem hcascade
        · exact absurd (hlast k rfl hbefore) hsocket

/-- Two servers have a pane each; the second one ends, and a scan has done its reads. -/
def serverGoneLabels : List ScanLabel :=
  [.other (.registry (.scanContainers [Agents.sampleContainer] []))] ++ readLabels ++
    [.finish (listedEnv "default\nwork\n" [shellPane "%0" "/w"]) "t1"] ++ readLabels

def activeSockets (s : LogState) : List String :=
  (s.tables.panes.rows.filter PaneRow.active).map fun p => p.key.tmuxSocketPath

def scansSample (r : Reads) : Bool := r.activeRows.any fun row => decide (row.containerId = "c0")

theorem listed_sample {listing : String} {panes : List ParsedPane} (h : scansSample r = true)
    (hlisted : listSocketDir "c0" "1000" (.completed 0 listing "") = .ok sockets) :
    Listed (listedEnv listing panes) r "c0" "1000" sockets := by
  obtain ⟨row, hrow, hid⟩ := any_eq_true.mp h
  refine ⟨⟨row, hrow, of_decide_eq_true hid, ?_⟩, rfl, hlisted⟩
  simp [resolveBenchUser, listedEnv]

theorem active_panes_listed_serverGone :
    ∃ s s' r, ScanReachable sampleService s ∧ s.phase = .ready r ∧
      activeSockets s.base = [samplePath, "/tmp/tmux-1000/work"] ∧
      finishScan sampleService s.base r (sampleEnv [shellPane "%0" "/w"]) "t9" = some s' ∧
      activeSockets s' = [samplePath] ∧
      ∀ k : PaneKey, k.containerId = "c0" → s'.tables.PaneActive k →
        k.tmuxSocketPath ∈ ["default"].map (socketPath "1000") := by
  obtain ⟨s, hs, hbefore, r, hr, hscans, s', hfinish, hafter⟩ :
      ∃ s, Transition.run (scanStep sampleService) ScanState.init serverGoneLabels = some s ∧
      activeSockets s.base = [samplePath, "/tmp/tmux-1000/work"] ∧
      ∃ r, s.reads = some r ∧ scansSample r = true ∧
        ∃ s', finishScan sampleService s.base r (sampleEnv [shellPane "%0" "/w"]) "t9" = some s' ∧
          activeSockets s' = [samplePath] := by decide +kernel
  have hreach : ScanReachable sampleService s := reach_of_run hs
  have hphase := ScanState.phase_of_reads hr
  have hlisted : Listed (sampleEnv [shellPane "%0" "/w"]) r "c0" "1000" ["default"] :=
    listed_sample hscans (by decide +kernel)
  refine ⟨s, s', r, hreach, hphase, hbefore, hfinish, hafter, ?_⟩
  refine (active_panes_listed hreach hphase hfinish hlisted).mpr
    (.inl ⟨0, "default", [shellPane "%0" "/w"], rfl, ?_⟩)
  decide +kernel

/-- All servers of the container have ended: the listing is empty, the scan commits, and the panes stay
active on a socket that is not listed. -/
theorem active_panes_not_listed :
    ∃ s s' r, ScanReachable sampleService s ∧ s.phase = .ready r ∧ r.containerFilter = none ∧
      finishScan sampleService s.base r (listedEnv "" []) "t9" = some s' ∧
      Listed (listedEnv "" []) r "c0" "1000" [] ∧
      activeSockets s' = [samplePath, "/tmp/tmux-1000/work"] := by
  obtain ⟨s, hs, r, hr, hfilter, hscans, s', hfinish, hafter⟩ :
      ∃ s, Transition.run (scanStep sampleService) ScanState.init serverGoneLabels = some s ∧
      ∃ r, s.reads = some r ∧ r.containerFilter = none ∧ scansSample r = true ∧
        ∃ s', finishScan sampleService s.base r (listedEnv "" []) "t9" = some s' ∧
          activeSockets s' = [samplePath, "/tmp/tmux-1000/work"] := by decide +kernel
  exact ⟨s, s', r, reach_of_run hs, ScanState.phase_of_reads hr, hfilter, hfinish,
    listed_sample hscans (by decide +kernel), hafter⟩

end AgentTower.Discovery
