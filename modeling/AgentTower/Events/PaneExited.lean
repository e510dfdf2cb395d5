import AgentTower.Events.Synthesis

/-!
# Pane exits

Only an attachment that was active when the cycle listed it is visited, and the scan that marks a pane
inactive takes the attachment off the active ones.  So the event of a pane exit is inserted, once,
exactly if the cycle under way at the scan has the attachment still ahead of it.
-/

namespace AgentTower.Events

open Transition List Option
open Routing (EventType PaneKey Registry)
open Logs
open LogAttachmentRecord (attachmentId)

/-! ## The events of the records -/

def Windows.Collapsing (windows : Windows) : Prop :=
  ∀ k w, windows.get k = some w → k.2 ∈ collapseEligible

def NoneSynthesized (events : List PendingEvent) : Prop :=
  ∀ ev ∈ events, ev.eventType ∉ synthesizedTypes

theorem not_synthesized_of_eligible {eventType : EventType} (h : eventType ∈ collapseEligible) :
    eventType ∉ synthesizedTypes := by
  rw [mem_singleton.mp h]
  decide

theorem NoneSynthesized.append {events events' : List PendingEvent} (h : NoneSynthesized events)
    (h' : NoneSynthesized events') : NoneSynthesized (events ++ events') := by
  intro ev hev
  rcases mem_append.mp hev with hev | hev
  · exact h ev hev
  · exact h' ev hev

theorem noneSynthesized_singleton {ev : PendingEvent} (h : ev.eventType ∉ synthesizedTypes) :
    NoneSynthesized [ev] := by
  intro ev' hev
  rw [mem_singleton.mp hev]
  exact h

namespace Windows

theorem Collapsing.empty : Collapsing Dict.empty := by
  intro k w hget
  cases hget

variable {windows : Windows}

section

variable (h : windows.Collapsing)
include h

theorem Collapsing.set {k : String × EventType}
    (hk : k.2 ∈ collapseEligible) (w : DebounceWindow) : Collapsing (Dict.set windows k w) := by
  intro j v hj
  by_cases hjk : j = k
  · rw [hjk]
    exact hk
  · rw [Dict.get_set_ne windows hjk] at hj
    exact h j v hj

theorem Collapsing.filter
    (p : String × EventType → DebounceWindow → Bool) : Collapsing (Dict.filter windows p) := by
  intro j v hj
  rw [Dict.get_filter] at hj
  exact h j v (filter_eq_some_iff.mp hj).1

theorem submit_types {outcome : ClassifierOutcome}
    (houtcome : outcome.eventType ∉ synthesizedTypes) (windowSeconds : Int) (attachmentId : String)
    (x : Submission) (windowId : String) :
    (windows.submit windowSeconds attachmentId outcome x windowId).1.Collapsing ∧
      NoneSynthesized (windows.submit windowSeconds attachmentId outcome x windowId).2 := by
  have hnone : NoneSynthesized [] := fun ev hev => absurd hev not_mem_nil
  unfold submit
  split
  · exact ⟨h, noneSynthesized_singleton houtcome⟩
  · rename_i heligible
    have hk : outcome.eventType ∈ collapseEligible := not_not.mp heligible
    simp only
    split
    · exact ⟨h.set hk _, hnone⟩
    · split
      · exact ⟨Collapsing.set (h.filter _) hk _, noneSynthesized_singleton houtcome⟩
      · exact ⟨h.set hk _, hnone⟩

theorem flushExpired_types (windowSeconds monotonic : Int) (observedAt attachmentId : String) :
    (windows.flushExpired windowSeconds monotonic observedAt attachmentId).1.Collapsing ∧
      NoneSynthesized (windows.flushExpired windowSeconds monotonic observedAt attachmentId).2 := by
  refine ⟨h.filter _, fun ev hev => ?_⟩
  obtain ⟨⟨k, w⟩, he, rfl⟩ := mem_map.mp hev
  have hget : windows.get k = some w := (Dict.get_eq_some_iff windows).mpr (mem_filter.mp he).1
  exact not_synthesized_of_eligible (h k w hget)

end

end Windows

section Batches

variable {env : SynthEnv} {attachmentId : String} {io : CycleInput} {windows : Windows}

theorem submitRecords_types (env : SynthEnv) (attachmentId : String) (io : CycleInput)
    (raws : List (List UInt8)) (h : windows.Collapsing) (byteStart line i : Nat) :
    let result := submitRecords env.toReaderEnv attachmentId io raws windows byteStart line i
    result.1.Collapsing ∧ NoneSynthesized result.2.1 := by
  -- the windows that one record leaves are those that the next one finds
  induction raws generalizing windows byteStart line i with
  | nil => exact ⟨h, fun ev hev => absurd hev not_mem_nil⟩
  | cons raw rest ih =>
    have hfirst := Windows.submit_types h (env.classify_types (stripCr raw)) env.windowSeconds
    exact ⟨(ih (hfirst ..).1 ..).1, (hfirst ..).2.append (ih (hfirst ..).1 ..).2⟩

variable {b : Batch}

theorem flushBatch_types (h : windows.Collapsing)
    (hbatch : flushBatch env.toReaderEnv attachmentId io windows = some b) :
    b.windows.Collapsing ∧ NoneSynthesized b.events := by
  unfold flushBatch at hbatch
  simp only at hbatch
  split at hbatch <;> cases hbatch
  exact Windows.flushExpired_types h _ _ _ _

theorem readBatch_types {row : LogOffsetRecord} {new : List UInt8} (h : windows.Collapsing)
    (hbatch : readBatch env.toReaderEnv attachmentId io windows row new = some b) :
    b.windows.Collapsing ∧ NoneSynthesized b.events := by
  unfold readBatch at hbatch
  split_ifs at hbatch with hempty hrecords hcap
  · exact flushBatch_types h hbatch
  · cases hbatch
    exact ⟨h, noneSynthesized_singleton (env.classify_types new)⟩
  · exact flushBatch_types h hbatch
  · cases hbatch
    have hsubmitted := submitRecords_types env attachmentId io (completeRaw new) h row.byteOffset
      row.lineOffset 0
    have hflushed := Windows.flushExpired_types hsubmitted.1 env.windowSeconds io.nowMonotonic
      io.nowIso attachmentId
    exact ⟨hflushed.1, hsubmitted.2.append hflushed.2⟩

end Batches

variable {base : State} {op : Registry.Op} {now nowIso : String}

theorem runCycle_types {env : SynthEnv} (h : base.windows.Collapsing)
    (a : LogAttachmentRecord) (io : CycleInput) :
    (runCycleForAttachment env.toReaderEnv base a io).windows.Collapsing ∧
      ∃ new, (runCycleForAttachment env.toReaderEnv base a io).events = base.events ++ new ∧
        ∀ e ∈ new, e.eventType ∉ synthesizedTypes := by
  obtain ⟨seen, heq⟩ := runCycleForAttachment_eq env.toReaderEnv base a io
  have hsame : ∃ new, base.events = base.events ++ new ∧ ∀ e ∈ new, e.eventType ∉ synthesizedTypes :=
    ⟨[], (append_nil _).symm, fun e he => absurd he not_mem_nil⟩
  have heffect := runCycle_effect env.toReaderEnv base a io
  rw [heq]
  generalize runCycle env.toReaderEnv base a io = base' at heffect ⊢
  cases heffect with
  | nothing | recovered => exact ⟨h, hsame⟩
  | failed hbatch hcommit =>
    -- the windows are in memory and stay as the batch left them
    obtain ⟨-, f, -, hread⟩ := cycleBatch_eq_some hbatch
    exact ⟨(readBatch_types h hread).1, hsame⟩
  | committed hbatch hadvance =>
    obtain ⟨-, f, -, hread⟩ := cycleBatch_eq_some hbatch
    refine ⟨(readBatch_types h hread).1, _, rfl, fun e he => ?_⟩
    obtain ⟨ev, hev, rfl⟩ := mem_map.mp he
    exact (readBatch_types h hread).2 ev hev

/-! ## Who adds a `pane_exited` event -/

def EventRow.isPaneExited (attachmentId : String) (e : EventRow) : Bool :=
  decide (e.attachmentId = attachmentId ∧ e.eventType = .paneExited)

def SynthState.paneExitedCount (s : SynthState) (attachmentId : String) : Nat :=
  s.base.events.countP (EventRow.isPaneExited attachmentId)

open SynthState (ahead_eq init paneExitedCount)

variable {env : SynthEnv} {s s' : SynthState} {l : SynthLabel}

theorem paneExitedCount_append {new : List EventRow}
    (hevents : s'.base.events = s.base.events ++ new)
    (hnew : ∀ e ∈ new, e.eventType ≠ .paneExited) (attachmentId : String) :
    s'.paneExitedCount attachmentId = s.paneExitedCount attachmentId := by
  unfold paneExitedCount
  rw [hevents, countP_append, Nat.add_eq_left, countP_eq_zero]
  intro e he hexited
  exact hnew e he (of_decide_eq_true hexited).2

theorem paneExitedCount_insert (s : SynthState) (a : LogAttachmentRecord) (row : LogOffsetRecord)
    (ruleId nowIso attachmentId : String) :
    (s.insertEvent (syntheticRow .paneExited ruleId a row nowIso)).paneExitedCount attachmentId
      = s.paneExitedCount attachmentId + if a.attachmentId = attachmentId then 1 else 0 := by
  unfold paneExitedCount SynthState.insertEvent
  rw [countP_append, countP_singleton]
  simp [EventRow.isPaneExited, syntheticRow]

/-- Neither the events nor the marker of the attachment's pane exit are new. -/
structure Quiet (s s' : SynthState) (attachmentId : String) : Prop where
  emitted : attachmentId ∈ s'.paneExitedEmitted → attachmentId ∈ s.paneExitedEmitted
  count : s'.paneExitedCount attachmentId = s.paneExitedCount attachmentId

theorem events_outsideReader {base' : State} {l : Label} (hl : l.outsideReader = true)
    (h : step env.toReaderEnv base l = some base') :
    base'.events = base.events ∧ base'.windows = base.windows := by
  cases l with
  | attach c o newInode =>
    cases h
    rcases attach_cases base c o newInode with hsame | ⟨f, attached, -, -, heq⟩
    · rw [hsame]
      exact ⟨rfl, rfl⟩
    · rw [heq]
      exact ⟨rfl, rfl⟩
  | detach | append | truncate | delete | create =>
    obtain ⟨hframe, hwindows⟩ := step_frame h (by simp) (by simp)
    exact ⟨hframe.events, hwindows (by simp)⟩
  | cascade | cycle | restart => cases hl

theorem SynthEffect.collapsing (h : SynthEffect env s l s') (hw : s.base.windows.Collapsing) :
    s'.base.windows.Collapsing := by
  cases h with
  | system hl hstep =>
    rw [(events_outsideReader hl hstep).2]
    exact hw
  | @paneExited nowIso _ a todo commits _ =>
    rcases maybeSynthesizePaneExited_cases env s a nowIso commits with heq | ⟨row, -, heq⟩
    · rw [heq]
      exact hw
    · rw [heq]
      exact hw
  | @longRunning nowIso _ a todo commits _ =>
    obtain ⟨marked, new, -, heq⟩ := maybeSynthesizeLongRunning_eq env s a nowIso commits
    rw [heq]
    exact hw
  | read hcycle => exact (runCycle_types hw _ _).1
  | restart => exact .empty
  | commit | startCycle | raised | endCycle => exact hw

/-- A `pane_exited` event is inserted in the visit of its attachment only. -/
theorem SynthEffect.quiet (h : SynthEffect env s l s') (hw : s.base.windows.Collapsing)
    (attachmentId : String) :
    Quiet s s' attachmentId ∨ ∃ a, s.ahead = a :: s'.ahead ∧ a.attachmentId = attachmentId := by
  cases h with
  | system hl hstep =>
    exact .inl ⟨fun hmem => hmem, congrArg (List.countP _) (events_outsideReader hl hstep).1⟩
  | @paneExited nowIso _ a todo commits hcycle =>
    by_cases ha : a.attachmentId = attachmentId
    · exact .inr ⟨a, ahead_eq hcycle, ha⟩
    · -- the event and the marker are those of another attachment
      left
      rcases maybeSynthesizePaneExited_cases env s a nowIso commits with heq | ⟨row, -, heq⟩
      · rw [heq]
        exact ⟨fun hmem => hmem, rfl⟩
      · rw [heq]
        refine ⟨fun hmem => ?_, ?_⟩
        · exact (mem_cons.mp hmem).resolve_left (Ne.symm ha)
        · refine (paneExitedCount_insert s a row _ nowIso attachmentId).trans ?_
          rw [if_neg ha, Nat.add_zero]
  | @longRunning nowIso _ a todo commits _ =>
    -- what is inserted here is a `long_running` event
    obtain ⟨marked, new, hnew, heq⟩ := maybeSynthesizeLongRunning_eq env s a nowIso commits
    rw [heq]
    refine .inl ⟨fun hmem => hmem, paneExitedCount_append rfl (fun e he => ?_) _⟩
    rw [hnew e he]
    decide
  | @read nowIso nowMonotonic a todo io _ =>
    obtain ⟨-, new, hevents, hnew⟩ := runCycle_types hw a
      { io with nowIso, nowMonotonic }
    refine .inl ⟨fun hmem => hmem,
      paneExitedCount_append hevents (fun e he hexited => hnew e he ?_) _⟩
    rw [hexited]
    decide
  | restart => exact .inl ⟨fun hmem => absurd hmem not_mem_nil, rfl⟩
  | commit | startCycle | raised | endCycle => exact .inl ⟨fun hmem => hmem, rfl⟩

def Retired (r : LogAttachmentRecord) (s : SynthState) : Prop :=
  ∃ r' ∈ s.attachments.rows, SameRow r r' ∧ r'.status ≠ .active

variable {r a : LogAttachmentRecord} {n : Nat}

theorem Retired.step (h : Retired r s) (heffect : SynthEffect env s l s')
    (hl : attaches r.agentPath l = false) : Retired r s' := by
  obtain ⟨r', hr', hsame, hstatus⟩ := h
  obtain ⟨r'', hr'', hsame', hactive⟩ := heffect.follows r' hr'
  refine ⟨r'', hr'', hsame.trans hsame', fun hr => ?_⟩
  rcases hactive hr with hbefore | hattach
  · exact hstatus hbefore
  · rw [hsame.agentPath, hl] at hattach
    cases hattach

theorem Retired.not_listed (h : Retired r s) :
    r.attachmentId ∉
      (LogAttachments.listActiveAttachments s.attachments).map attachmentId := by
  obtain ⟨r', hr', hsame, hstatus⟩ := h
  intro hlisted
  obtain ⟨a, ha, hid⟩ := mem_map.mp hlisted
  obtain ⟨hmem, hactive⟩ := LogAttachments.mem_listActiveAttachments ha
  have heq : a = r' :=
    inj_on_of_nodup_map s.attachments.primary hmem hr' (hid.trans hsame.attachmentId.symm)
  exact hstatus (heq ▸ hactive)

/-! ## Runs -/

structure ListedInv (s : SynthState) : Prop where
  collapsing : s.base.windows.Collapsing
  nodup : (s.ahead.map attachmentId).Nodup
  listed : ∀ a ∈ s.ahead, ∃ r ∈ s.attachments.rows, SameRow a r

theorem ListedInv.init : ListedInv init :=
  ⟨.empty, nodup_nil, fun _ ha => absurd ha not_mem_nil⟩

theorem ListedInv.step (h : ListedInv s) (heffect : SynthEffect env s l s') : ListedInv s' := by
  -- the list gets shorter, except when a cycle starts and reads it from the table
  have hlisted : ∀ a ∈ s'.ahead, ∃ r ∈ s.attachments.rows, SameRow a r := by
    intro a ha
    rcases heffect.ahead with hsub | heq
    · exact h.listed a (hsub.subset ha)
    · rw [heq] at ha
      exact ⟨a, (LogAttachments.mem_listActiveAttachments ha).1, SameRow.refl a⟩
  refine ⟨heffect.collapsing h.collapsing, ?_, fun a ha => ?_⟩
  · rcases heffect.ahead with hsub | heq
    · exact h.nodup.sublist (hsub.map _)
    · rw [heq]
      exact LogAttachments.nodup_listActiveAttachments _
  · obtain ⟨r, hr, hsame⟩ := hlisted a ha
    obtain ⟨r', hr', hsame', -⟩ := heffect.follows r hr
    exact ⟨r', hr', hsame.trans hsame'⟩

abbrev SynthReach (env : SynthEnv) : SynthState → Prop :=
  Reach (synthStep env) anyStep init

theorem ListedInv.of_reach (h : SynthReach env s) : ListedInv s :=
  h.invariant ListedInv ListedInv.init fun _ _ _ hinv _ hstep => hinv.step (synthStep_effect hstep)

theorem Retired.ahead_of_ahead (h : Retired r s) (heffect : SynthEffect env s l s')
    (hid : r.attachmentId ∈ s'.ahead.map attachmentId) :
    r.attachmentId ∈ s.ahead.map attachmentId := by
  rcases heffect.ahead with hsub | heq
  · exact (hsub.map _).subset hid
  · rw [heq] at hid
    exact absurd hid h.not_listed

/-- The attachment is retired and no cycle has it ahead: it has had its `n` events. -/
structure Settled (r : LogAttachmentRecord) (n : Nat) (s : SynthState) : Prop where
  retired : Retired r s
  notAhead : r.attachmentId ∉ s.ahead.map attachmentId
  count : s.paneExitedCount r.attachmentId = n

theorem Settled.step (h : Settled r n s)
    (hw : s.base.windows.Collapsing) (heffect : SynthEffect env s l s')
    (hl : attaches r.agentPath l = false) : Settled r n s' := by
  refine ⟨h.retired.step heffect hl, fun hid => h.notAhead (h.retired.ahead_of_ahead heffect hid),
    ?_⟩
  rcases heffect.quiet hw r.attachmentId with hquiet | ⟨a, hahead, ha⟩
  · exact hquiet.count.trans h.count
  · -- a visit of the attachment would have had it ahead
    refine absurd ?_ h.notAhead
    rw [hahead, map_cons, ha]
    exact mem_cons_self

def NotReattached (r : LogAttachmentRecord) (_ : SynthState) (l : SynthLabel) : Prop :=
  attaches r.agentPath l = false

theorem Settled.of_reach (h : Settled r n s)
    (hinv : ListedInv s) (hreach : Reach (synthStep env) (NotReattached r) s s') :
    Settled r n s' := by
  have hboth : ListedInv s' ∧ Settled r n s' :=
    hreach.invariant (fun s => ListedInv s ∧ Settled r n s) ⟨hinv, h⟩
      fun _ _ _ ⟨hlisted, hsettled⟩ hl hstep =>
        ⟨hlisted.step (synthStep_effect hstep),
          hsettled.step hlisted.collapsing (synthStep_effect hstep) hl⟩
  exact hboth.2

/-- The pane of the attachment is gone, the attachment is retired, and if the cycle under way has it
still ahead, its event has not been inserted. -/
structure Waiting (r : LogAttachmentRecord) (n : Nat) (s : SynthState) : Prop where
  retired : Retired r s
  gone : s.registry.PaneGone r.key
  ahead : r.attachmentId ∈ s.ahead.map attachmentId →
    r.attachmentId ∉ s.paneExitedEmitted ∧ s.paneExitedCount r.attachmentId = n

def Undisturbed (r : LogAttachmentRecord) (_ : SynthState) : SynthLabel → Prop
  | .restart => False
  | .commit op _ => r.key ∉ op.upserted
  | l => attaches r.agentPath l = false

theorem Undisturbed.notReattached (h : Undisturbed r s l) : attaches r.agentPath l = false := by
  cases l with
  | restart => exact h.elim
  | commit => rfl
  | system | startCycle | paneExited | longRunning | read | raised | endCycle => exact h

theorem paneGone_step {key : PaneKey} (h : s.registry.PaneGone key)
    (heffect : SynthEffect env s l s') (hl : ∀ op now, l = .commit op now → key ∉ op.upserted) :
    s'.registry.PaneGone key := by
  cases heffect with
  | commit hop => exact h.apply hop (hl _ _ rfl)
  | @paneExited nowIso _ a todo commits _ =>
    rcases maybeSynthesizePaneExited_cases env s a nowIso commits with heq | ⟨row, -, heq⟩
    · rw [heq]
      exact h
    · rw [heq]
      exact h
  | @longRunning nowIso _ a todo commits _ =>
    obtain ⟨marked, new, -, heq⟩ := maybeSynthesizeLongRunning_eq env s a nowIso commits
    rw [heq]
    exact h
  | system | startCycle | read | raised | endCycle | restart => exact h

theorem Waiting.step (h : Waiting r n s) (hinv : ListedInv s)
    (heffect : SynthEffect env s l s') (hl : Undisturbed r s l) : Waiting r n s' := by
  refine ⟨h.retired.step heffect hl.notReattached, paneGone_step h.gone heffect ?_, fun hid => ?_⟩
  · rintro op now rfl
    exact hl
  · obtain ⟨hunmarked, hcount⟩ := h.ahead (h.retired.ahead_of_ahead heffect hid)
    rcases heffect.quiet hinv.collapsing r.attachmentId with hquiet | ⟨a, hahead, ha⟩
    · exact ⟨fun hmem => hunmarked (hquiet.emitted hmem), hquiet.count.trans hcount⟩
    · -- the visit was its own, and the list has it only once
      have hnodup := hinv.nodup
      rw [hahead, map_cons, ha] at hnodup
      exact absurd hid (nodup_cons.mp hnodup).1

theorem Waiting.of_reach (h : Waiting r n s)
    (hinv : ListedInv s) (hreach : Reach (synthStep env) (Undisturbed r) s s') :
    ListedInv s' ∧ Waiting r n s' :=
  hreach.invariant (fun s => ListedInv s ∧ Waiting r n s) ⟨hinv, h⟩
    fun _ _ _ ⟨hlisted, hwaiting⟩ hl hstep =>
      ⟨hlisted.step (synthStep_effect hstep), hwaiting.step hlisted (synthStep_effect hstep) hl⟩

/-! ## The scan and the visit -/

theorem retired_of_scan
    (heffect : SynthEffect env s (.commit op now) s') (hr : r ∈ s.attachments.rows)
    (hkey : r.key ∈ op.inactivated) : Retired r s' := by
  cases heffect with
  | commit hop hcascade =>
    obtain ⟨hfollows, hstale⟩ := follows_cascade (P := fun _ => False) hcascade
    obtain ⟨r', hr', hsame, -⟩ := hfollows r hr
    refine ⟨r', hr', hsame, hstale r' hr' ?_⟩
    rw [hsame.key]
    exact hkey

theorem ListedInv.same_of_ahead (h : ListedInv s) (hr : Retired r s)
    (ha : a ∈ s.ahead) (hid : a.attachmentId = r.attachmentId) : SameRow a r := by
  obtain ⟨r₁, hr₁, hsame₁⟩ := h.listed a ha
  obtain ⟨r₂, hr₂, hsame₂, -⟩ := hr
  have heq : r₁ = r₂ := inj_on_of_nodup_map s.attachments.primary hr₁ hr₂
    (hsame₁.attachmentId.trans (hid.trans hsame₂.attachmentId.symm))
  subst heq
  exact ⟨hid.symm, hsame₂.agentPath.symm.trans hsame₁.agentPath, hsame₂.key.symm.trans hsame₁.key⟩

theorem Waiting.due (h : Waiting r n s)
    (hsame : SameRow a r) (hunmarked : r.attachmentId ∉ s.paneExitedEmitted)
    (hgrace : (s.base.tables.offsets.get r.agentPath).any
      (graceOver env env.paneExitedGrace nowIso) = true) :
    ∃ row, paneExitedDue env s a nowIso = some row := by
  obtain ⟨pane, hpane, hactive⟩ := h.gone
  obtain ⟨row, hrow, hover⟩ := (any_eq_true _ _).mp hgrace
  refine ⟨row, ?_⟩
  rw [hsame.attachmentId] at hunmarked
  rw [hsame.key] at hpane
  rw [hsame.agentPath] at hrow
  unfold paneExitedDue
  rw [if_neg hunmarked, hpane]
  simp only [hactive, Bool.false_eq_true, if_false]
  exact filter_eq_some_iff.mpr ⟨hrow, hover⟩

theorem paneExited_visit {nowMonotonic : Int}
    {todo : List LogAttachmentRecord} {row : LogOffsetRecord}
    (hcycle : s.cycle = some ⟨nowIso, nowMonotonic, a :: todo, .entered⟩)
    (hdue : paneExitedDue env s a nowIso = some row)
    (hvisit : synthStep env s (.paneExited true) = some s') :
    s'.ahead = todo ∧
      s'.paneExitedCount a.attachmentId = s.paneExitedCount a.attachmentId + 1 := by
  simp only [synthStep, hcycle, maybeSynthesizePaneExited, hdue, if_true] at hvisit
  cases hvisit
  refine ⟨rfl, ?_⟩
  refine (paneExitedCount_insert s a row _ nowIso a.attachmentId).trans ?_
  rw [if_pos rfl]

/-- If a pane scan marks the pane of an attachment inactive, and the cycle under way then comes to
visit it with the grace over since its last output, and the insert commits, there is exactly one
`pane_exited` event for this exit; and in no run that does not attach it again is there a second
one. -/
theorem pane_exited_exactly_once {s₁ s₂ s₃ : SynthState} {r a : LogAttachmentRecord}
    {upserts inactivate : List PaneKey} {now nowIso : String} {nowMonotonic : Int}
    {todo : List LogAttachmentRecord} (hs : SynthReach env s) (hr : r ∈ s.attachments.rows)
    (hscan : synthStep env s (.commit (.reconcilePanes upserts inactivate) now) = some s₁)
    (hkey : r.key ∈ inactivate) (hpane : (s.registry.panes.get r.key).isSome = true)
    (hunmarked : r.attachmentId ∉ s.paneExitedEmitted)
    (hrun : Reach (synthStep env) (Undisturbed r) s₁ s₂)
    (hcycle : s₂.cycle = some ⟨nowIso, nowMonotonic, a :: todo, .entered⟩)
    (ha : a.attachmentId = r.attachmentId)
    (hgrace : (s₂.base.tables.offsets.get r.agentPath).any
      (graceOver env env.paneExitedGrace nowIso) = true)
    (hvisit : synthStep env s₂ (.paneExited true) = some s₃) :
    s₃.paneExitedCount r.attachmentId = s.paneExitedCount r.attachmentId + 1 ∧
      ∀ s₄, Reach (synthStep env) (NotReattached r) s₃ s₄ →
        s₄.paneExitedCount r.attachmentId = s.paneExitedCount r.attachmentId + 1 := by
  have hinv := ListedInv.of_reach hs
  have heffect := synthStep_effect hscan
  have hretired := retired_of_scan heffect hr hkey
  have hwaiting : Waiting r (s.paneExitedCount r.attachmentId) s₁ := by
    cases heffect with
    | commit hop =>
      exact ⟨hretired, Registry.paneGone_reconcilePanes hop hkey hpane, fun _ => ⟨hunmarked, rfl⟩⟩
  obtain ⟨hinv₂, hwaiting₂⟩ := hwaiting.of_reach (hinv.step heffect) hrun
  -- it is the attachment's turn, so its event has not been inserted
  have hahead : s₂.ahead = a :: todo := ahead_eq hcycle
  have hmem : a ∈ s₂.ahead := by
    rw [hahead]
    exact mem_cons_self
  have hid : r.attachmentId ∈ s₂.ahead.map attachmentId := ha ▸ mem_map_of_mem hmem
  obtain ⟨hunmarked₂, hcount₂⟩ := hwaiting₂.ahead hid
  have hsame := hinv₂.same_of_ahead hwaiting₂.retired hmem ha
  obtain ⟨row, hdue⟩ := hwaiting₂.due hsame hunmarked₂ hgrace
  obtain ⟨hahead₃, hcount₃⟩ := paneExited_visit hcycle hdue hvisit
  rw [ha, hcount₂] at hcount₃
  -- and after it the attachment is on no list
  have hvisited := synthStep_effect hvisit
  have hsettled : Settled r (s.paneExitedCount r.attachmentId + 1) s₃ := by
    refine ⟨hwaiting₂.retired.step hvisited rfl, ?_, hcount₃⟩
    have hnodup := hinv₂.nodup
    rw [hahead, map_cons, ha] at hnodup
    rw [hahead₃]
    exact (nodup_cons.mp hnodup).1
  exact ⟨hcount₃, fun s₄ hlater => (hsettled.of_reach (hinv₂.step hvisited) hlater).count⟩

def sampleSeconds : String → Option Int
  | "t1" => some 10
  | "t9" => some 90
  | _ => none

def sampleSynthEnv : SynthEnv where
  toReaderEnv := sampleEnv
  elapsed last now := (sampleSeconds now).bind fun t => (sampleSeconds last).map fun t' => t - t'
  paneExitedGrace := 30
  longRunningGrace := 60
  classify_types _ := show EventType.activity ∉ synthesizedTypes by decide

def seenLabels : List SynthLabel :=
  [.system (.attach (sampleCall "/logs/a") (sampleOutside "lat_1" "t1") "8:1"),
    .commit (.reconcilePanes [sampleAgent.key] []) "t1"]

def paneGoneLabel : SynthLabel := .commit (.reconcilePanes [] [sampleAgent.key]) "t9"

def startLabel : SynthLabel := .startCycle "t9" 80

/-- The scan commits between the listing and the visit. -/
theorem pane_exited_exactly_once_listed :
    ∃ s s₃, run (synthStep sampleSynthEnv) init (seenLabels ++ [startLabel]) = some s ∧
      run (synthStep sampleSynthEnv) s [paneGoneLabel, .paneExited true] = some s₃ ∧
      s.paneExitedCount "lat_1" = 0 ∧ s₃.paneExitedCount "lat_1" = 1 := by
  obtain ⟨s, hs, hcount, hemitted, hpane, r, hr, hid, hkey, s₁, hscan, hcycle, hgrace, hvisit⟩ :
      ∃ s, run (synthStep sampleSynthEnv) init (seenLabels ++ [startLabel]) = some s ∧
      s.paneExitedCount "lat_1" = 0 ∧ s.paneExitedEmitted = [] ∧
      (s.registry.panes.get sampleAgent.key).isSome = true ∧
      ∃ r ∈ s.attachments.rows, r.attachmentId = "lat_1" ∧ r.key = sampleAgent.key ∧
        ∃ s₁, synthStep sampleSynthEnv s paneGoneLabel = some s₁ ∧
          s₁.cycle = some ⟨"t9", 80, [r], .entered⟩ ∧
          (s₁.base.tables.offsets.get r.agentPath).any
            (graceOver sampleSynthEnv sampleSynthEnv.paneExitedGrace "t9") = true ∧
          (synthStep sampleSynthEnv s₁ (.paneExited true)).isSome = true := by decide +kernel
  obtain ⟨s₃, hvisit⟩ := isSome_iff_exists.mp hvisit
  have hresult := pane_exited_exactly_once (reach_of_run hs) hr hscan
    (mem_singleton.mpr hkey) (hkey ▸ hpane)
    (hemitted ▸ not_mem_nil) .start hcycle rfl hgrace hvisit
  rw [hid, hcount] at hresult
  refine ⟨s, s₃, hs, ?_, hcount, hresult.1⟩
  simp only [run, hscan, hvisit, bind_some]

/-- The scan commits before the cycle starts: the cycle, eighty seconds after the last output, visits
nothing, and the active attachment's pane has exited without an event. -/
theorem pane_exit_unseen :
    ∃ s s₂, run (synthStep sampleSynthEnv) init seenLabels = some s ∧
      run (synthStep sampleSynthEnv) s [paneGoneLabel, startLabel, .endCycle] = some s₂ ∧
      s.attachments.rows.map (fun r => (r.attachmentId, r.key, r.status))
        = [("lat_1", sampleAgent.key, .active)] ∧
      (s.registry.panes.get sampleAgent.key).any (fun pane => pane.active) = true ∧
      (s₂.registry.panes.get sampleAgent.key).any (fun pane => !pane.active) = true ∧
      (s₂.base.tables.offsets.get sampleKey).any
        (graceOver sampleSynthEnv sampleSynthEnv.paneExitedGrace "t9") = true ∧
      s₂.paneExitedCount "lat_1" = 0 := by
  decide +kernel

end AgentTower.Events
