import AgentTower.Routing.RouteDecision

/-!
# Where an audit entry comes from

An entry about an event is born when the cursor passes the event, and from then on it only changes
hands.  The cursor passes an event once: as long as an event is under way, its route has decided only
earlier ones, even if the route has been removed in the meantime.
-/

namespace AgentTower.Routing.RouteWorker

open Transition Sql List
open Option (some)

variable {maxPending : Nat} {env : RouteEnv} {s s' : State maxPending}

def AuditEntry.about : AuditEntry → Option (String × Nat)
  | .routeMatched eventId routeId .. | .routeSkipped eventId routeId .. => some (routeId, eventId)
  | .other _ => none

def Outcome.entry : Outcome → Option AuditEntry
  | .noMatch _ => none
  | .matched entry | .skipped _ entry => some entry

/-! ## Entries change hands -/

/-- How an entry in sight after a step came there. -/
inductive EntrySource (s s' : State maxPending) (x : AuditEntry) : Prop where
  | known : s.Accounted x → EntrySource s s' x
  | other (eventType : String) : x = .other eventType → EntrySource s s' x
  | decided {j : Job} {outcome : Outcome} : s.worker = .job j (.advancing outcome) →
      s' = commitAdvance s j outcome → outcome.entry = some x → EntrySource s s' x

section Sources

variable {x : AuditEntry}

variable {l : Label} {j : Job}

theorem entrySource_commitAdvance {outcome : Outcome}
    (hworker : s.worker = .job j (.advancing outcome))
    (hx : (commitAdvance s j outcome).Accounted x) :
    EntrySource s (commitAdvance s j outcome) x := by
  rcases hx with hstored | hheld
  · exact .known (.inl hstored)
  · cases outcome with
    | noMatch => exact absurd hheld not_mem_nil
    | matched | skipped =>
      cases mem_singleton.mp hheld
      exact .decided hworker rfl rfl

theorem Change.entry (hchange : Change env s l s') (hx : s'.Accounted x) : EntrySource s s' x := by
  cases hchange with
  | @moved _ w hmove =>
    have hstored : s.Stored x ∨ x ∈ w.held := hx
    rw [hmove.held.2] at hstored
    exact .known (.inl (hstored.resolve_right not_mem_nil))
  | inserted => exact .known (.inl (hx.resolve_right not_mem_nil))
  | advanced hworker => exact entrySource_commitAdvance hworker hx
  | audited haudited =>
    refine ((haudited.accounted x).mp hx).elim .known fun hother => ?_
    cases l with
    | emitOther eventType => exact .other eventType (some.inj hother).symm
    | _ => cases hother
  | observed | routeAdded | enabledSet | routeRemoved | registered | queued => exact .known hx

end Sources

/-! ## An entry is that of a decision -/

def Outcome.Names (route : RouteRow) (ev : Event) (outcome : Outcome) : Prop :=
  ∀ entry, outcome.entry = some entry → entry.about = some (route.routeId, ev.eventId)

def Worker.Names : Worker → Prop
  | .job j (.advancing outcome) => outcome.Names j.route j.ev
  | _ => True

structure EntryInv (s : State maxPending) : Prop where
  worker : s.worker.Names
  decided : ∀ d ∈ s.decisions, d.outcome.Names d.route d.ev
  entries : ∀ entry, s.Accounted entry → (∃ eventType, entry = .other eventType) ∨
    ∃ d ∈ s.decisions, d.outcome.entry = some entry

theorem names_noMatch (route : RouteRow) (ev : Event) (source : Option AgentRecord) :
    (Outcome.noMatch source).Names route ev := by
  intro entry hentry
  cases hentry

theorem names_matchedOutcome (j : Job) (winner target : AgentRecord) :
    (matchedOutcome j winner target).Names j.route j.ev := by
  intro entry hentry
  cases hentry
  rfl

theorem names_skippedOutcome (j : Job) (winner target : Option AgentRecord) (reason : SkipReason)
    (subReason : Option String) :
    (skippedOutcome j winner target reason subReason).Names j.route j.ev := by
  intro entry hentry
  cases hentry
  rfl

variable {j : Job} {l : Label} {stage : Stage} {d : Decided}

theorem StageMove.names {l : WorkerLabel} {stage' : Stage}
    (hmove : StageMove env s j l stage stage') (h : (Worker.job j stage).Names) :
    (Worker.job j stage').Names := by
  have hhandled : ∀ {winner target : AgentRecord} {e : PyExc} {stage : Stage},
      Handled j winner target e stage → (Worker.job j stage).Names := by
    intro winner target e stage hhandled
    cases hhandled with
    | skip => exact names_skippedOutcome j _ _ _ _
    | duplicate => exact names_matchedOutcome j _ _
  cases hmove with
  | unmatched => exact names_noMatch _ _ _
  | matched | won | rendered | prepared | retried => trivial
  | noMaster | unresolved => exact names_skippedOutcome j _ _ _ _
  | refused _ hstage | rejected _ _ hstage | exhausted _ _ hstage => exact hhandled hstage
  | readBack => exact names_matchedOutcome j _ _

theorem Change.names (hchange : Change env s l s') (h : s.worker.Names) : s'.worker.Names := by
  cases hchange with
  | @moved _ w hmove =>
    show w.Names
    generalize s.worker = w₀ at hmove h
    cases hmove with
    | listed | unlisted | cycleEnd | nextRoute | selected | batchEnd | nextEvent | abandoned =>
      trivial
    | stage hstage => exact hstage.names h
  | inserted => trivial
  | @advanced j outcome hworker => cases outcome <;> trivial
  | audited haudited =>
    have hmove := haudited.worker
    generalize s.worker = w at hmove h
    generalize s'.worker = w' at hmove
    cases hmove with
    | same => exact h
    | idle | draining | listing | emitted | raised => trivial
  | observed | routeAdded | enabledSet | routeRemoved | registered | queued => exact h

theorem Change.decisions (hchange : Change env s l s') :
    s'.decisions = s.decisions ∨ ∃ j outcome, s.worker = .job j (.advancing outcome) ∧
      s' = commitAdvance s j outcome := by
  cases hchange with
  | advanced hworker => exact .inr ⟨_, _, hworker, rfl⟩
  | audited haudited =>
    obtain ⟨_, _, _, _, _, rfl⟩ := haudited.frame
    exact .inl rfl
  | moved | inserted | observed | routeAdded | enabledSet | routeRemoved | registered | queued =>
    exact .inl rfl

theorem Change.mem_decisions (hchange : Change env s l s')
    (hd : d ∈ s.decisions) : d ∈ s'.decisions := by
  rcases hchange.decisions with heq | ⟨j, outcome, -, rfl⟩
  · rw [heq]
    exact hd
  · exact mem_append_left _ hd

theorem EntryInv.step (hstep : step env s l = some s') (h : EntryInv s) : EntryInv s' := by
  have hchange := step_change hstep
  refine ⟨hchange.names h.worker, fun d hd => ?_, fun entry hentry => ?_⟩
  · rcases hchange.decisions with heq | ⟨j, outcome, hworker, rfl⟩
    · rw [heq] at hd
      exact h.decided d hd
    · rcases mem_append.mp hd with hold | hnew
      · exact h.decided d hold
      · cases mem_singleton.mp hnew
        have hnames := h.worker
        rw [hworker] at hnames
        exact hnames
  · cases hchange.entry hentry with
    | known hknown =>
      refine (h.entries entry hknown).imp_right ?_
      rintro ⟨d, hd, hd'⟩
      exact ⟨d, hchange.mem_decisions hd, hd'⟩
    | other eventType heq => exact .inl ⟨eventType, heq⟩
    | @decided j outcome _ heq houtcome =>
      refine .inr ⟨⟨j.route, j.ev, outcome⟩, ?_, houtcome⟩
      rw [heq]
      exact mem_append_right _ (mem_singleton_self _)

theorem EntryInv.init (maxPending : Nat) (agents : List AgentRecord) :
    EntryInv (State.init maxPending agents) := by
  refine ⟨trivial, fun d hd => absurd hd not_mem_nil, fun entry hentry => ?_⟩
  rcases hentry with (hfile | hpending | hlost) | hheld
  · exact absurd hfile not_mem_nil
  · exact absurd hpending not_mem_nil
  · exact absurd hlost not_mem_nil
  · exact absurd hheld not_mem_nil

theorem EntryInv.decision (h : EntryInv s) {entry : AuditEntry} (hentry : s.Accounted entry)
    {routeId : String} {eventId : Nat} (habout : entry.about = some (routeId, eventId)) :
    ∃ d ∈ s.decisions, d.outcome.entry = some entry ∧ d.route.routeId = routeId ∧
      d.ev.eventId = eventId := by
  rcases h.entries entry hentry with ⟨eventType, rfl⟩ | ⟨d, hd, houtcome⟩
  · cases habout
  · have hnames := h.decided d hd entry houtcome
    rw [habout] at hnames
    cases hnames
    exact ⟨d, hd, houtcome, rfl, rfl⟩

/-! ## Decided events are behind -/

/-- What the route has decided is not after `cursor`. -/
def Passed (decisions : List Decided) (routeId : String) (cursor : Nat) : Prop :=
  ∀ d ∈ decisions, d.route.routeId = routeId → d.ev.eventId ≤ cursor

/-- The events that are left of a batch, in order and after all that the route has decided.  This
does not ask for the route to be in the table still. -/
structure Fresh (decisions : List Decided) (routeId : String) (batch : List Event) : Prop where
  sorted : batch.Pairwise fun a b => a.eventId < b.eventId
  ahead : ∀ d ∈ decisions, d.route.routeId = routeId → ∀ e ∈ batch, d.ev.eventId < e.eventId

/-- The snapshots that the worker has not come to yet are not behind the decisions. -/
structure Worker.Fresh (decisions : List Decided) (w : Worker) : Prop where
  rest : ∀ r ∈ w.rest, Passed decisions r.routeId r.lastConsumedEventId
  unread : ∀ route batch, w.unread = some (route, batch) →
    RouteWorker.Fresh decisions route.routeId batch

structure PassedInv (s : State maxPending) : Prop where
  created : ∀ d ∈ s.decisions, d.route.routeId ∈ s.created.map RouteRow.routeId
  routes : ∀ k r, s.routes.get k = some r → Passed s.decisions k r.lastConsumedEventId
  worker : s.worker.Fresh s.decisions

section Fresh

variable {decisions : List Decided} {w w' : Worker}

theorem Worker.Fresh.of_rest
    (hrest : ∀ r ∈ w.rest, Passed decisions r.routeId r.lastConsumedEventId)
    (hunread : w.unread = none) : w.Fresh decisions :=
  ⟨hrest, fun route batch h => by cases hunread.symm.trans h⟩

theorem Worker.Fresh.of_eq (h : w.Fresh decisions) (hrest : w'.rest = w.rest)
    (hunread : w'.unread = w.unread) : w'.Fresh decisions :=
  ⟨fun r hr => h.rest r (hrest ▸ hr), fun route batch hb => h.unread route batch (hunread ▸ hb)⟩

theorem Worker.Fresh.of_rest_eq_nil (hrest : w.rest = []) (hunread : w.unread = none) :
    w.Fresh decisions :=
  .of_rest (fun _ hr => absurd (hrest ▸ hr) not_mem_nil) hunread

theorem fresh_selectEventsAfterCursor {routeId : String} {cursor : Nat}
    (h : Passed decisions routeId cursor) (log : EventLog) (eventType : EventType) (limit : Nat) :
    Fresh decisions routeId (EventLog.selectEventsAfterCursor log cursor eventType limit) := by
  have hahead := Log.ahead_after log cursor (EventLog.ofType eventType) limit
  refine ⟨hahead.sorted, fun d hd hroute e he => ?_⟩
  exact Nat.lt_of_le_of_lt (h d hd hroute) (hahead.unread e he).2.2

theorem passed_listRoutes (h : PassedInv s) {r : RouteRow} (hr : r ∈ listRoutes s.routes) :
    Passed s.decisions r.routeId r.lastConsumedEventId :=
  h.routes _ r (Table.get_of_mem (mem_of_mem_filter ((listRoutes_perm s.routes).mem_iff.mp hr)))

theorem Move.fresh {l : WorkerLabel} (hmove : Move env s l s.worker w) (h : PassedInv s) :
    w.Fresh s.decisions := by
  have hworker := h.worker
  generalize s.worker = w₀ at hmove hworker
  cases hmove with
  | listed => exact .of_rest (fun _ hr => passed_listRoutes h hr) rfl
  | unlisted | cycleEnd => exact .of_rest_eq_nil rfl rfl
  | nextRoute => exact .of_rest (fun r hr => hworker.rest r (mem_cons_of_mem _ hr)) rfl
  | batchEnd | abandoned => exact .of_rest hworker.rest rfl
  | nextEvent => exact hworker.of_eq rfl rfl
  | @stage _ j stage stage' hstage =>
    refine hworker.of_eq rfl ?_
    simp only [Worker.unread, hstage.isEmitting.1, hstage.isEmitting.2]
  | @selected route rest scope _ =>
    refine ⟨fun r hr => hworker.rest r (mem_cons_of_mem _ hr), fun route' batch hb => ?_⟩
    cases hb
    exact fresh_selectEventsAfterCursor (hworker.rest route mem_cons_self) _ _ _

theorem AuditMove.fresh (hmove : AuditMove w w') (h : w.Fresh decisions) : w'.Fresh decisions := by
  cases hmove with
  | same => exact h
  | idle | draining | listing => exact .of_rest_eq_nil rfl rfl
  | emitted => exact h.of_eq rfl rfl
  | raised => exact .of_rest h.rest rfl

end Fresh

/-- The event that the cursor passes is the first of those that are left, and it is after all that
the route has decided before. -/
theorem PassedInv.advance {outcome : Outcome}
    (hworker : s.worker = .job j (.advancing outcome)) (hcursor : CursorInv s)
    (h : PassedInv s) : PassedInv (commitAdvance s j outcome) := by
  have hbatch := hcursor.worker.unread
  have hjob := h.worker
  rw [hworker] at hbatch hjob
  obtain ⟨hbatch, hnotin⟩ := hbatch j.route (j.ev :: j.later) rfl
  have hfresh : Fresh s.decisions j.route.routeId (j.ev :: j.later) := hjob.unread _ _ rfl
  obtain ⟨hfirst, hsorted⟩ := pairwise_cons.mp hfresh.sorted
  -- the old decisions and the new one, for a route and a cursor
  have hpassed : ∀ {k : String} {cursor : Nat}, Passed s.decisions k cursor →
      (j.route.routeId = k → j.ev.eventId ≤ cursor) →
      Passed (s.decisions ++ [⟨j.route, j.ev, outcome⟩]) k cursor := by
    intro k cursor hold hnew d hd hroute
    rcases mem_append.mp hd with hd | hd
    · exact hold d hd hroute
    · cases mem_singleton.mp hd
      exact hnew hroute
  -- whether or not a line is to be written, the rest of the batch is unread
  have hafter : (Worker.batch j.route j.later j.rest).Fresh
      (s.decisions ++ [⟨j.route, j.ev, outcome⟩]) := by
    refine ⟨fun r hr => hpassed (hjob.rest r hr) fun hroute => absurd ?_ hnotin, ?_⟩
    · exact hroute ▸ mem_map_of_mem hr
    · intro route batch hb
      cases hb
      refine ⟨hsorted, fun d hd hroute e he => ?_⟩
      rcases mem_append.mp hd with hd | hd
      · exact hfresh.ahead d hd hroute e (mem_cons_of_mem _ he)
      · cases mem_singleton.mp hd
        exact hfirst e he
  refine ⟨fun d hd => ?_, fun k r' hget => ?_, ?_⟩
  · rcases mem_append.mp hd with hd | hd
    · exact h.created d hd
    · cases mem_singleton.mp hd
      exact hbatch.created
  · by_cases hk : k = j.route.routeId
    · subst hk
      obtain ⟨r, hr, -, hmax⟩ := get_advanceCursor_self hget
      refine hpassed (fun d hd hroute => ?_) fun _ => ?_
      · exact Nat.le_trans (h.routes _ r hr d hd hroute) (hmax ▸ Nat.le_max_left _ _)
      · rw [hmax]
        exact Nat.le_max_right _ _
    · obtain ⟨r, hr, -, heq⟩ := keptOn_advanceCursor _ _ _ k hk r' hget
      rw [heq]
      exact hpassed (h.routes k r hr) fun hroute => absurd hroute.symm hk
  · cases outcome with
    | noMatch => exact hafter
    | matched | skipped => exact hafter.of_eq rfl rfl

theorem PassedInv.kept (h : PassedInv s) {routes : Routes}
    (hkept : KeptOn (fun _ => True) s.routes routes) : PassedInv { s with routes } := by
  refine ⟨h.created, fun k r' hr' => ?_, h.worker⟩
  obtain ⟨r, hr, -, hcursor⟩ := hkept k trivial r' hr'
  rw [hcursor]
  exact h.routes k r hr

theorem PassedInv.change (hchange : Change env s l s') (hcursor : CursorInv s)
    (h : PassedInv s) : PassedInv s' := by
  cases hchange with
  | moved hmove => exact ⟨h.created, h.routes, hmove.fresh h⟩
  | @inserted j winner target m decision attempts q hworker happly =>
    have hjob := h.worker
    rw [hworker] at hjob
    exact ⟨h.created, h.routes, hjob.of_eq rfl rfl⟩
  | advanced hworker => exact h.advance hworker hcursor
  | audited haudited =>
    have hworker := haudited.worker.fresh h.worker
    obtain ⟨_, _, _, _, _, rfl⟩ := haudited.frame
    exact ⟨h.created, h.routes, hworker⟩
  | @routeAdded route routes hmax hfresh hinsert =>
    refine ⟨fun d hd => ?_, fun k r hr => ?_, h.worker⟩
    · rw [map_append]
      exact mem_append_left _ (h.created d hd)
    · rw [Table.get_insert hinsert] at hr
      split at hr
      · -- a fresh id, under which nothing has been decided
        rename_i heq
        intro d hd hroute
        have hmem := h.created d hd
        rw [hroute, heq] at hmem
        exact absurd hmem hfresh
      · exact h.routes k r hr
  | enabledSet => exact h.kept (keptOn_updateEnabled _ _ _)
  | routeRemoved => exact h.kept (keptOn_delete _ _)
  | observed | registered | queued => exact ⟨h.created, h.routes, h.worker⟩

theorem PassedInv.init (maxPending : Nat) (agents : List AgentRecord) :
    PassedInv (State.init maxPending agents) :=
  ⟨fun d hd => absurd hd not_mem_nil,
    fun k _ hr => (by cases (Table.get_empty k).symm.trans hr), .of_rest_eq_nil rfl rfl⟩

theorem PassedInv.undecided (h : PassedInv s)
    (hworker : s.worker = .job j stage) (hstage : stage.isEmitting = false) (hd : d ∈ s.decisions) :
    ¬ (d.route.routeId = j.route.routeId ∧ d.ev.eventId = j.ev.eventId) := by
  rintro ⟨hroute, hev⟩
  have hjob := h.worker
  rw [hworker] at hjob
  have hfresh := hjob.unread j.route (j.ev :: j.later) (by simp [Worker.unread, hstage])
  exact absurd hev (Nat.ne_of_lt (hfresh.ahead d hd hroute j.ev mem_cons_self))

section Runs

variable {agents : List AgentRecord}

theorem Reachable.entryInv (h : Reachable env maxPending agents s) : EntryInv s :=
  Reach.invariant EntryInv (.init maxPending agents) (fun _ _ _ hs _ hstep => hs.step hstep) h

theorem Reachable.passedInv (h : Reachable env maxPending agents s) : PassedInv s := by
  have hboth : CursorInv s ∧ PassedInv s :=
    Reach.invariant (fun s : State maxPending => CursorInv s ∧ PassedInv s)
      ⟨.init maxPending agents, .init maxPending agents⟩
      (fun _ _ _ hs _ hstep =>
        ⟨hs.1.change (step_change hstep), hs.2.change (step_change hstep) hs.1⟩) h
  exact hboth.2

/-- In every run a route decides about its events in order, none twice and none after its cursor. -/
theorem route_decides_in_order (h : Reachable env maxPending agents s) :
    s.decisions.Pairwise (fun d d' => d.route.routeId = d'.route.routeId →
        d.ev.eventId < d'.ev.eventId) ∧
      ∀ r ∈ s.routes.rows, Passed s.decisions r.routeId r.lastConsumedEventId := by
  refine ⟨?_, fun r hr => h.passedInv.routes _ r (Table.get_of_mem hr)⟩
  refine (Reach.invariant (fun s : State maxPending => Reachable env maxPending agents s ∧
    s.decisions.Pairwise _) ⟨.start, .nil⟩ (fun s l s' hs _ hstep => ?_) h).2
  refine ⟨hs.1.next trivial hstep, ?_⟩
  cases step_change hstep with
  | advanced hworker =>
    -- the event under way is ahead of all decided ones
    have hjob := hs.1.passedInv.worker
    rw [hworker] at hjob
    refine pairwise_append.mpr ⟨hs.2, pairwise_singleton _ _, fun d hd d' hd' hroute => ?_⟩
    cases mem_singleton.mp hd'
    exact (hjob.unread _ _ rfl).ahead d hd hroute _ mem_cons_self
  | audited haudited =>
    obtain ⟨_, _, _, _, _, rfl⟩ := haudited.frame
    exact hs.2
  | _ => exact hs.2

theorem route_decides_in_order_crash :
    ∃ s, run (step sampleRouteEnv) (State.init 10000 [sampleMaster, sampleSlave])
        crashAfterInsert = some s ∧ s.decisions.length = 1 ∧
      ∀ r ∈ s.routes.rows, Passed s.decisions r.routeId r.lastConsumedEventId := by
  obtain ⟨s, hs, hone⟩ : ∃ s, run (step sampleRouteEnv)
      (State.init 10000 [sampleMaster, sampleSlave]) crashAfterInsert = some s ∧
      s.decisions.length = 1 := by decide +kernel
  exact ⟨s, hs, hone, (route_decides_in_order (reach_of_run hs)).2⟩

end Runs

end AgentTower.Routing.RouteWorker
