import AgentTower.Events.Reader
import AgentTower.Logs.Rows

/-!
# Synthesized events

`_run_one_cycle` with the two events that stand for no record: `pane_exited`, once the pane of an
attachment is gone and has been silent for the grace, and `long_running`, once a running task has.
Attaches, detaches and pane scans may commit between any two of its steps.
-/

namespace AgentTower.Events

open List Option

open Routing (EventType PaneKey Registry)
open Logs

def synthesizedTypes : List EventType := [.paneExited, .longRunning]

def longRunningEligible : List EventType :=
  [.activity, .error, .testFailed, .manualReviewNeeded, .swarmMemberReported]

structure SynthEnv extends ReaderEnv where
  /-- The time from the first to the second; `none` where parsing or subtracting them raises. -/
  elapsed : String → String → Option Int
  paneExitedGrace : Int
  longRunningGrace : Int
  /-- No rule of `RULES` has a synthesized type. -/
  classify_types : ∀ record, (classify record).eventType ∉ synthesizedTypes

/-- `last_output_at or updated_at`; an empty text counts as missing. -/
def lastOutput (row : LogOffsetRecord) : Option String :=
  match row.lastOutputAt with
  | none | some "" => if row.updatedAt = "" then none else some row.updatedAt
  | some lastOutputAt => some lastOutputAt

def graceOver (env : SynthEnv) (grace : Int) (nowIso : String) (row : LogOffsetRecord) : Bool :=
  ((lastOutput row).bind fun last => env.elapsed last nowIso).any fun elapsed =>
    decide (grace ≤ elapsed)

/-- The row of `_persist_synthetic_event`: an empty range where the offset stands. -/
def syntheticRow (eventType : EventType) (ruleId : String) (a : LogAttachmentRecord)
    (row : LogOffsetRecord) (nowIso : String) : EventRow where
  eventType := eventType
  agentId := a.agentId
  attachmentId := a.attachmentId
  logPath := a.logPath
  byteRangeStart := row.byteOffset
  byteRangeEnd := row.byteOffset
  lineOffsetStart := row.lineOffset
  lineOffsetEnd := row.lineOffset
  observedAt := nowIso
  excerpt := ""
  classifierRuleId := ruleId
  debounceWindowId := none
  debounceCollapsedCount := 1
  debounceWindowStartedAt := none
  debounceWindowEndedAt := none
  jsonlAppendedAt := none

/-! ## The system -/

inductive Visit where
  | entered | paneExitedDone | longRunningDone
  deriving DecidableEq, Repr

/-- A cycle under way; the first of `todo` is being visited. -/
structure Cycle where
  nowIso : String
  nowMonotonic : Int
  todo : List LogAttachmentRecord
  visit : Visit
  deriving DecidableEq, Repr

structure SynthState where
  base : State
  registry : Registry
  paneExitedEmitted : List String
  longRunningMarked : List String
  cycle : Option Cycle

namespace SynthState

def init : SynthState := ⟨State.init, Registry.empty, [], [], none⟩

def offsetRow (s : SynthState) (a : LogAttachmentRecord) : Option LogOffsetRecord :=
  s.base.tables.offsets.get (a.agentId, a.logPath)

def insertEvent (s : SynthState) (row : EventRow) : SynthState :=
  { s with base := { s.base with events := s.base.events ++ [row] } }

/-- `_last_event_for_attachment`. -/
def lastEvent (s : SynthState) (attachmentId : String) : Option EventRow :=
  (s.base.events.filter fun e => decide (e.attachmentId = attachmentId)).getLast?

end SynthState

section

variable (env : SynthEnv) (s : SynthState) (a : LogAttachmentRecord) (nowIso : String)

/-- The offset row of an attachment whose pane is seen to be gone, once the grace is over. -/
def paneExitedDue : Option LogOffsetRecord :=
  if a.attachmentId ∈ s.paneExitedEmitted then none
  else
    match s.registry.panes.get a.key with
    -- the pane has not been observed yet
    | none => none
    | some pane =>
      if pane.active then none
      else (s.offsetRow a).filter (graceOver env env.paneExitedGrace nowIso)

/-- `_maybe_synthesize_pane_exited`; `commits` says if the insert does. -/
def maybeSynthesizePaneExited (commits : Bool) : SynthState :=
  match paneExitedDue env s a nowIso with
  | none => s
  | some row =>
    if commits then
      { s.insertEvent (syntheticRow .paneExited "pane_exited.synth.v1" a row nowIso) with
        paneExitedEmitted := a.attachmentId :: s.paneExitedEmitted }
    else s

end

/-- An eligible event after the last `long_running` clears the marker. -/
def clearMarker (marked : List String) (attachmentId : String) (last : EventRow) : List String :=
  if attachmentId ∈ marked ∧ last.eventType ∈ longRunningEligible then
    marked.filter fun id => !decide (id = attachmentId)
  else marked

def maybeSynthesizeLongRunning (env : SynthEnv) (s : SynthState) (a : LogAttachmentRecord)
    (nowIso : String) (commits : Bool) : SynthState :=
  match s.lastEvent a.attachmentId with
  | none => s
  | some last =>
    let marked := clearMarker s.longRunningMarked a.attachmentId last
    let s₁ := { s with longRunningMarked := marked }
    if a.attachmentId ∈ marked ∨ last.eventType ∉ longRunningEligible then s₁
    else
      match (s.offsetRow a).filter (graceOver env env.longRunningGrace nowIso) with
      | none => s₁
      | some row =>
        if commits then
          { s₁.insertEvent (syntheticRow .longRunning "long_running.synth.v1" a row nowIso) with
            longRunningMarked := a.attachmentId :: marked }
        else s₁

inductive SynthLabel where
  | system (l : Label)
  | commit (op : Registry.Op) (now : String)
  | startCycle (nowIso : String) (nowMonotonic : Int)
  | paneExited (commits : Bool)
  | longRunning (commits : Bool)
  | read (io : CycleInput)
  | raised
  | endCycle
  | restart
  deriving Repr

def Label.outsideReader : Label → Bool
  | .attach .. | .detach .. | .append .. | .truncate .. | .delete .. | .create .. => true
  | .cascade .. | .cycle .. | .restart => false

def synthStep (env : SynthEnv) (s : SynthState) : SynthLabel → Option SynthState
  | .system l =>
    if l.outsideReader then (step env.toReaderEnv s.base l).map fun base => { s with base }
    else none
  -- `_commit_scan`: the attachments of the panes go stale in the transaction of the panes
  | .commit op now => do
    let registry ← op.apply s.registry
    let base ← step env.toReaderEnv s.base (.cascade op.inactivated now)
    pure { s with base, registry }
  | .startCycle nowIso nowMonotonic =>
    match s.cycle with
    | some _ => none
    | none =>
      some { s with
        cycle := some ⟨nowIso, nowMonotonic,
          LogAttachments.listActiveAttachments s.base.tables.attachments, .entered⟩ }
  | .paneExited commits =>
    match s.cycle with
    | some ⟨nowIso, nowMonotonic, a :: todo, .entered⟩ =>
      some { maybeSynthesizePaneExited env s a nowIso commits with
        cycle := some ⟨nowIso, nowMonotonic, a :: todo, .paneExitedDone⟩ }
    | _ => none
  | .longRunning commits =>
    match s.cycle with
    | some ⟨nowIso, nowMonotonic, a :: todo, .paneExitedDone⟩ =>
      some { maybeSynthesizeLongRunning env s a nowIso commits with
        cycle := some ⟨nowIso, nowMonotonic, a :: todo, .longRunningDone⟩ }
    | _ => none
  | .read io =>
    match s.cycle with
    | some ⟨nowIso, nowMonotonic, a :: todo, .longRunningDone⟩ =>
      some { s with
        base := runCycleForAttachment env.toReaderEnv s.base a
          { io with nowIso, nowMonotonic }
        cycle := some ⟨nowIso, nowMonotonic, todo, .entered⟩ }
    | _ => none
  -- whatever a visit raises, the loop goes on with the next attachment
  | .raised =>
    match s.cycle with
    | some ⟨nowIso, nowMonotonic, _ :: todo, _⟩ =>
      some { s with cycle := some ⟨nowIso, nowMonotonic, todo, .entered⟩ }
    | _ => none
  | .endCycle =>
    match s.cycle with
    | some ⟨_, _, [], _⟩ => some { s with cycle := none }
    | _ => none
  -- neither the windows nor the markers survive
  | .restart =>
    (step env.toReaderEnv s.base .restart).map fun base =>
      { s with base, paneExitedEmitted := [], longRunningMarked := [], cycle := none }

/-! ## What a step does -/

inductive SynthEffect (env : SynthEnv) (s : SynthState) : SynthLabel → SynthState → Prop
  | system {l : Label} {base : State} (hl : l.outsideReader = true)
      (hstep : step env.toReaderEnv s.base l = some base) :
      SynthEffect env s (.system l) { s with base }
  | commit {op : Registry.Op} {now : String} {registry : Registry} {attachments : LogAttachments}
      (hop : op.apply s.registry = some registry)
      (hcascade : LogAttachments.cascadeToStaleForPanes s.base.tables.attachments op.inactivated
        now = some attachments) :
      SynthEffect env s (.commit op now)
        { s with
          base := { s.base with tables := { s.base.tables with attachments } }
          registry }
  | startCycle {nowIso : String} {nowMonotonic : Int} (hidle : s.cycle = none) :
      SynthEffect env s (.startCycle nowIso nowMonotonic)
        { s with
          cycle := some ⟨nowIso, nowMonotonic,
            LogAttachments.listActiveAttachments s.base.tables.attachments, .entered⟩ }
  | paneExited {nowIso : String} {nowMonotonic : Int} {a : LogAttachmentRecord}
      {todo : List LogAttachmentRecord} {commits : Bool}
      (hcycle : s.cycle = some ⟨nowIso, nowMonotonic, a :: todo, .entered⟩) :
      SynthEffect env s (.paneExited commits)
        { maybeSynthesizePaneExited env s a nowIso commits with
          cycle := some ⟨nowIso, nowMonotonic, a :: todo, .paneExitedDone⟩ }
  | longRunning {nowIso : String} {nowMonotonic : Int} {a : LogAttachmentRecord}
      {todo : List LogAttachmentRecord} {commits : Bool}
      (hcycle : s.cycle = some ⟨nowIso, nowMonotonic, a :: todo, .paneExitedDone⟩) :
      SynthEffect env s (.longRunning commits)
        { maybeSynthesizeLongRunning env s a nowIso commits with
          cycle := some ⟨nowIso, nowMonotonic, a :: todo, .longRunningDone⟩ }
  | read {nowIso : String} {nowMonotonic : Int} {a : LogAttachmentRecord}
      {todo : List LogAttachmentRecord} {io : CycleInput}
      (hcycle : s.cycle = some ⟨nowIso, nowMonotonic, a :: todo, .longRunningDone⟩) :
      SynthEffect env s (.read io)
        { s with
          base := runCycleForAttachment env.toReaderEnv s.base a
            { io with nowIso, nowMonotonic }
          cycle := some ⟨nowIso, nowMonotonic, todo, .entered⟩ }
  | raised {nowIso : String} {nowMonotonic : Int} {a : LogAttachmentRecord}
      {todo : List LogAttachmentRecord} {visit : Visit}
      (hcycle : s.cycle = some ⟨nowIso, nowMonotonic, a :: todo, visit⟩) :
      SynthEffect env s .raised { s with cycle := some ⟨nowIso, nowMonotonic, todo, .entered⟩ }
  | endCycle : SynthEffect env s .endCycle { s with cycle := none }
  | restart :
      SynthEffect env s .restart
        { s with
          base := { s.base with windows := Dict.empty }
          paneExitedEmitted := []
          longRunningMarked := []
          cycle := none }

theorem synthStep_effect {env : SynthEnv} {s s' : SynthState} {l : SynthLabel}
    (h : synthStep env s l = some s') : SynthEffect env s l s' := by
  cases l with
  | system l =>
    simp only [synthStep] at h
    split at h
    · obtain ⟨base, hstep, rfl⟩ := map_eq_some_iff.mp h
      exact .system ‹_› hstep
    · cases h
  | commit op now =>
    simp only [synthStep, step, bind_eq_bind, bind_eq_some_iff, map_eq_some_iff] at h
    obtain ⟨registry, hop, base, ⟨attachments, hcascade, rfl⟩, heq⟩ := h
    cases heq
    exact .commit hop hcascade
  | startCycle nowIso nowMonotonic =>
    simp only [synthStep] at h
    split at h <;> cases h
    exact .startCycle ‹_›
  | paneExited commits =>
    simp only [synthStep] at h
    split at h <;> cases h
    exact .paneExited ‹_›
  | longRunning commits =>
    simp only [synthStep] at h
    split at h <;> cases h
    exact .longRunning ‹_›
  | read io =>
    simp only [synthStep] at h
    split at h <;> cases h
    exact .read ‹_›
  | raised =>
    simp only [synthStep] at h
    split at h <;> cases h
    exact .raised ‹_›
  | endCycle =>
    simp only [synthStep] at h
    split at h <;> cases h
    exact .endCycle
  | restart =>
    cases h
    exact .restart

variable {env : SynthEnv} {s s' : SynthState} {l : SynthLabel}

/-! ### Rows -/

def attaches (k : String × String) : SynthLabel → Bool
  | .system (.attach c _ _) => decide (k = (c.agent.agentId, c.hostPath))
  | _ => false

def SynthState.attachments (s : SynthState) : LogAttachments := s.base.tables.attachments

theorem follows_outsideReader {base base' : State} {l : Label} (hl : l.outsideReader = true)
    (h : step env.toReaderEnv base l = some base') :
    Follows (fun r => attaches r.agentPath (.system l) = true) base.tables.attachments
      base'.tables.attachments := by
  cases l with
  | attach c o newInode =>
    cases h
    rcases attach_cases base c o newInode with hsame | ⟨f, attached, -, hattach, heq⟩
    · rw [hsame]
      exact .refl _ _
    · rw [heq]
      simpa only [attaches, decide_eq_true_eq] using follows_attach hattach
  | detach agentId o =>
    simp only [step] at h
    split at h
    · cases h
      exact .refl _ _
    · rename_i hdetach
      cases h
      exact follows_detach hdetach
  | append path bytes | truncate path size | delete path =>
    obtain ⟨f, -, rfl⟩ := map_eq_some_iff.mp h
    exact .refl _ _
  | create path f =>
    simp only [step] at h
    split at h <;> cases h
    exact .refl _ _
  | cascade | cycle | restart => cases hl

theorem follows_cycle {P : LogAttachmentRecord → Prop} (env : ReaderEnv) (base : State)
    (a : LogAttachmentRecord) (io : CycleInput) :
    Follows P base.tables.attachments
      (runCycleForAttachment env base a io).tables.attachments := by
  obtain ⟨seen, heq⟩ := runCycleForAttachment_eq env base a io
  rw [heq]
  show Follows P _ (runCycle env base a io).tables.attachments
  have heffect := runCycle_effect env base a io
  generalize runCycle env base a io = base' at heffect ⊢
  cases heffect with
  | nothing | failed | committed => exact .refl _ _
  | recovered hrecovery => exact follows_recovery hrecovery

section

variable (env : SynthEnv) (s : SynthState) (a : LogAttachmentRecord) (nowIso : String) (commits : Bool)

theorem maybeSynthesizePaneExited_cases :
    maybeSynthesizePaneExited env s a nowIso commits = s ∨
    ∃ row, paneExitedDue env s a nowIso = some row ∧
      maybeSynthesizePaneExited env s a nowIso commits =
        { s.insertEvent (syntheticRow .paneExited "pane_exited.synth.v1" a row nowIso) with
          paneExitedEmitted := a.attachmentId :: s.paneExitedEmitted } := by
  unfold maybeSynthesizePaneExited
  cases hdue : paneExitedDue env s a nowIso with
  | none => exact .inl rfl
  | some row =>
    cases commits with
    | true => exact .inr ⟨row, rfl, rfl⟩
    | false => exact .inl rfl

theorem maybeSynthesizeLongRunning_eq :
    ∃ marked new, (∀ e ∈ new, e.eventType = EventType.longRunning) ∧
      maybeSynthesizeLongRunning env s a nowIso commits =
        { s with
          base := { s.base with events := s.base.events ++ new }
          longRunningMarked := marked } := by
  have hnothing : ∀ marked : List String,
      { s with longRunningMarked := marked } =
        { s with
          base := { s.base with events := s.base.events ++ [] }
          longRunningMarked := marked } := by
    intro marked
    rw [append_nil]
  have hnone : ∀ e ∈ ([] : List EventRow), e.eventType = EventType.longRunning := nofun
  unfold maybeSynthesizeLongRunning
  split
  · exact ⟨s.longRunningMarked, [], hnone, hnothing _⟩
  · simp only
    split
    · exact ⟨_, [], hnone, hnothing _⟩
    · split
      · exact ⟨_, [], hnone, hnothing _⟩
      · split
        · exact ⟨_, [_], fun e he => by rw [mem_singleton.mp he]; rfl, rfl⟩
        · exact ⟨_, [], hnone, hnothing _⟩

end

theorem SynthEffect.follows (h : SynthEffect env s l s') :
    Follows (fun r => attaches r.agentPath l = true) s.attachments s'.attachments := by
  cases h with
  | system hl hstep => exact follows_outsideReader hl hstep
  | commit hop hcascade => exact (follows_cascade hcascade).1
  | @paneExited nowIso _ a todo commits _ =>
    rcases maybeSynthesizePaneExited_cases env s a nowIso commits with heq | ⟨row, -, heq⟩
    · rw [heq]
      exact .refl _ _
    · rw [heq]
      exact .refl _ _
  | @longRunning nowIso _ a todo commits _ =>
    obtain ⟨marked, new, -, heq⟩ := maybeSynthesizeLongRunning_eq env s a nowIso commits
    rw [heq]
    exact .refl _ _
  | read hcycle => exact follows_cycle _ _ _ _
  | startCycle | raised | endCycle | restart => exact .refl _ _

/-! ### The cycle -/

/-- The attachments that the cycle has still to look at for `pane_exited`. -/
def Cycle.ahead (c : Cycle) : List LogAttachmentRecord :=
  match c.visit with
  | .entered => c.todo
  | .paneExitedDone | .longRunningDone => c.todo.tail

def SynthState.ahead (s : SynthState) : List LogAttachmentRecord := s.cycle.elim [] Cycle.ahead

theorem SynthState.ahead_eq {c : Cycle} (h : s.cycle = some c) : s.ahead = c.ahead := by
  unfold SynthState.ahead
  rw [h]
  rfl

theorem SynthEffect.ahead (h : SynthEffect env s l s') :
    s'.ahead.Sublist s.ahead ∨
      s'.ahead = LogAttachments.listActiveAttachments s.attachments := by
  cases h with
  | system | commit => exact .inl (List.Sublist.refl _)
  | startCycle => exact .inr rfl
  | paneExited hcycle =>
    rw [SynthState.ahead_eq hcycle]
    exact .inl (sublist_cons_self _ _)
  | longRunning hcycle | read hcycle =>
    rw [SynthState.ahead_eq hcycle]
    exact .inl (List.Sublist.refl _)
  | @raised _ _ _ _ visit hcycle =>
    rw [SynthState.ahead_eq hcycle]
    cases visit with
    | entered => exact .inl (sublist_cons_self _ _)
    | paneExitedDone | longRunningDone => exact .inl (List.Sublist.refl _)
  | endCycle | restart => exact .inl (nil_sublist _)

end AgentTower.Events
