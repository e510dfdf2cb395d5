import AgentTower.Lib.Rounds
import AgentTower.Routing.RouteEntries
import AgentTower.Routing.RouteLock

/-!
# What a cycle gets done

A cycle that lists a route and is not interrupted decides about the next event of the route, so an
event is decided after as many such cycles as there are undecided ones up to it.
-/

namespace AgentTower.Routing.RouteWorker

open Transition Sql List
open EventLog (ofType selectEventsAfterCursor)

variable {maxPending : Nat} {env : RouteEnv} {agents : List AgentRecord} {s s' : State maxPending}

/-- The worker goes from a route or an event to something else than the next part of its work: after a
failed access, an exception or a shutdown, for a route that is disabled or gone, or with the process. -/
def Worker.leaves : Worker → Worker → Bool
  | .cycle (_ :: _), .batch _ _ _ => false
  | .cycle (_ :: _), _ => true
  | .batch _ [] _, .cycle _ => false
  | .batch _ (_ :: _) _, .job _ _ => false
  | .batch _ _ _, _ => true
  | .job _ _, .job _ _ => false
  | .job _ _, .batch _ _ _ => false
  | .job _ _, _ => true
  | _, _ => false

def uninterrupted (env : RouteEnv) (s : State maxPending) (l : Label) : Bool :=
  (step env s l).all fun s' => decide (s'.worker = s.worker) || !s.worker.leaves s'.worker

variable {l : Label} {w w' : Worker} {route r₀ : RouteRow} {log : EventLog} {x : Event}

theorem uninterrupted_iff (hstep : step env s l = some s') :
    uninterrupted env s l = true ↔ s'.worker = s.worker ∨ s.worker.leaves s'.worker = false := by
  simp [uninterrupted, hstep]

/-! ## The next event of a route -/

/-- The event has been decided under the rule of the route, or the worker comes to it in this cycle. -/
inductive Due (r : RouteRow) (e : Event) (s : State maxPending) : Prop where
  | decided : DecidedOn s.decisions r e → Due r e s
  | listed {r' : RouteRow} : r' ∈ s.worker.rest → r'.rule = r.rule →
      Log.IsNext s.events r'.lastConsumedEventId (ofType r.eventType) e → Due r e s
  | selected {route : RouteRow} {batch : List Event} :
      s.worker.unread = some (route, e :: batch) → route.rule = r.rule → Due r e s

variable {r : RouteRow} {e : Event}

def Worker.between : Worker → Bool
  | .idle | .draining _ _ | .listing => true
  | _ => false

theorem rest_of_between (h : w.between = true) : w.rest = [] ∧ w.unread = none := by
  cases w with
  | idle | draining | listing => exact ⟨rfl, rfl⟩
  | cycle | batch | job => cases h

theorem leaves_of_rest {r' : RouteRow} (h : r' ∈ w.rest)
    (hbetween : w'.between = true) : w.leaves w' = true := by
  cases w with
  | idle | draining | listing => cases h
  | cycle routes =>
    cases routes with
    | nil => cases h
    | cons route routes => cases w' <;> first | rfl | cases hbetween
  | batch route events rest => cases events <;> cases w' <;> first | rfl | cases hbetween
  | job j stage => cases w' <;> first | rfl | cases hbetween

theorem leaves_of_unread {batch : List Event}
    (h : w.unread = some (route, e :: batch)) (hbetween : w'.between = true) :
    w.leaves w' = true := by
  cases w with
  | idle | draining | listing | cycle => cases h
  | batch route events rest => cases events <;> cases w' <;> first | rfl | cases hbetween
  | job j stage => cases w' <;> first | rfl | cases hbetween

theorem Due.of_eq (h : Due r e s) (hrest : s'.worker.rest = s.worker.rest)
    (hunread : s'.worker.unread = s.worker.unread)
    (hdecisions : ∀ d ∈ s.decisions, d ∈ s'.decisions)
    (hnext : ∀ cursor, Log.IsNext s.events cursor (ofType r.eventType) e →
      Log.IsNext s'.events cursor (ofType r.eventType) e) : Due r e s' := by
  cases h with
  | decided h => exact .decided (h.mono hdecisions rfl)
  | listed hmem hrule h => exact .listed (hrest ▸ hmem) hrule (hnext _ h)
  | selected h hrule => exact .selected (hunread.trans h) hrule

theorem Due.of_between (h : Due r e s) (hdecisions : s'.decisions = s.decisions)
    (hok : s'.worker = s.worker ∨ s.worker.leaves s'.worker = false)
    (hbetween : s'.worker.between = true) : Due r e s' := by
  cases h with
  | decided h => exact .decided (hdecisions ▸ h)
  | listed hmem hrule h =>
    rcases hok with heq | hleaves
    · rw [← heq, (rest_of_between hbetween).1] at hmem
      cases hmem
    · rw [leaves_of_rest hmem hbetween] at hleaves
      cases hleaves
  | selected h hrule =>
    rcases hok with heq | hleaves
    · rw [← heq, (rest_of_between hbetween).2] at h
      cases h
    · rw [leaves_of_unread h hbetween] at hleaves
      cases hleaves

theorem Due.of_selected {rest : List RouteRow}
    (hworker : s.worker = .cycle (route :: rest)) (h : Due r e s) :
    Due r e (s.work (.batch route (selectEventsAfterCursor s.events route.lastConsumedEventId
      route.eventType env.batchSize) rest)) := by
  cases h with
  | decided h => exact .decided h
  | selected h => rw [hworker] at h; cases h
  | @listed r' hmem hrule hnext =>
    rw [hworker] at hmem
    rcases mem_cons.mp hmem with rfl | hmem
    · rw [← RouteRow.eventType_of_rule hrule] at hnext
      obtain ⟨batch, hbatch⟩ :=
        List.head?_eq_some_iff.mp (hnext.head?_after env.batchSize_bounds.1)
      have hselected : some (r', selectEventsAfterCursor s.events r'.lastConsumedEventId
          r'.eventType env.batchSize) = some (r', e :: batch) := by
        rw [selectEventsAfterCursor, hbatch]
      exact .selected hselected hrule
    · exact .listed hmem hrule hnext

theorem Due.decidedOn (h : Due r e s) (hrest : s.worker.rest = [])
    (hunread : s.worker.unread = none) : DecidedOn s.decisions r e := by
  cases h with
  | decided h => exact h
  | listed hmem => rw [hrest] at hmem; cases hmem
  | selected h => rw [hunread] at h; cases h

theorem Due.move {l : WorkerLabel} (hmove : Move env s l s.worker w)
    (hok : w = s.worker ∨ s.worker.leaves w = false) (h : Due r e s) : Due r e (s.work w) := by
  -- a move that leaves something is none of the allowed ones
  have hnot : ∀ {w₀ : Worker}, s.worker = w₀ → w ≠ w₀ → w₀.leaves w = true → Due r e (s.work w) := by
    rintro w₀ rfl hne hleaves
    rw [hleaves] at hok
    exact absurd hok (by simp [hne])
  have hsame : s.worker.rest = w.rest → s.worker.unread = w.unread → Due r e (s.work w) :=
    fun hrest hunread => h.of_eq hrest.symm hunread.symm (fun _ hd => hd) fun _ hn => hn
  generalize hw : s.worker = w₀ at hmove hok
  cases hmove with
  | listed => exact .decided (h.decidedOn (by rw [hw]; rfl) (by rw [hw]; rfl))
  | unlisted | cycleEnd => exact h.of_between rfl (by rwa [← hw] at hok) rfl
  | nextRoute | abandoned => exact hnot hw (by simp) rfl
  | selected => exact h.of_selected hw
  | batchEnd _ route events rest =>
    cases events with
    | nil =>
      cases h with
      | decided h => exact .decided h
      | listed hmem hrule hnext =>
        rw [hw] at hmem
        exact .listed hmem hrule hnext
      | selected h => rw [hw] at h; cases h
    | cons => exact hnot hw (by simp) rfl
  | nextEvent => exact hsame (by rw [hw]; rfl) (by rw [hw]; rfl)
  | stage hstage =>
    refine hsame (by rw [hw]; rfl) ?_
    rw [hw]
    simp only [Worker.unread, hstage.isEmitting.1, hstage.isEmitting.2]

theorem Due.advance {j : Job} {outcome : Outcome} (hworker : s.worker = .job j (.advancing outcome))
    (h : Due r e s) : Due r e (commitAdvance s j outcome) := by
  have hrest : (commitAdvance s j outcome).worker.rest = j.rest := by cases outcome <;> rfl
  cases h with
  | decided h => exact .decided (h.mono (fun d hd => mem_append_left _ hd) rfl)
  | listed hmem hrule hnext =>
    rw [hworker] at hmem
    exact .listed (hrest ▸ hmem) hrule hnext
  | selected h hrule =>
    rw [hworker] at h
    cases h
    exact .decided ⟨_, mem_append_right _ (mem_singleton_self _), hrule, rfl⟩

theorem Due.audit (haudited : AuditMove s.worker s'.worker)
    (hdecisions : s'.decisions = s.decisions) (hevents : s'.events = s.events)
    (hok : s'.worker = s.worker ∨ s.worker.leaves s'.worker = false) (h : Due r e s) :
    Due r e s' := by
  have hsame : s'.worker.rest = s.worker.rest → s'.worker.unread = s.worker.unread → Due r e s' :=
    fun hrest hunread => h.of_eq hrest hunread (fun _ hd => hdecisions ▸ hd)
      fun _ hn => hevents ▸ hn
  have hout : s'.worker.between = true → Due r e s' := h.of_between hdecisions hok
  generalize hw : s.worker = w at haudited hok hsame
  generalize hw' : s'.worker = w' at haudited hok hsame hout
  cases haudited with
  | same | emitted => exact hsame rfl rfl
  | idle | draining | listing => exact hout rfl
  | raised => simp [Worker.leaves] at hok

theorem Due.change (hchange : Change env s l s')
    (hok : s'.worker = s.worker ∨ s.worker.leaves s'.worker = false) (h : Due r e s) :
    Due r e s' := by
  have hpush : ∀ eventType sourceAgentId excerpt observedAt cursor,
      Log.IsNext s.events cursor (ofType r.eventType) e → Log.IsNext
        (EventLog.insert s.events eventType sourceAgentId excerpt observedAt) cursor
        (ofType r.eventType) e := fun _ _ _ _ _ hn => hn.push
  cases hchange with
  | moved hmove => exact h.move hmove hok
  | advanced hworker => exact h.advance hworker
  | audited haudited =>
    have hmove := haudited.worker
    obtain ⟨_, _, _, _, _, rfl⟩ := haudited.frame
    exact h.audit hmove rfl rfl hok
  | inserted hworker =>
    exact h.of_eq (by rw [hworker]; rfl) (by rw [hworker]; rfl) (fun _ hd => hd) (hpush _ _ _ _)
  | observed => exact h.of_eq rfl rfl (fun _ hd => hd) (hpush _ _ _ _)
  | routeAdded | enabledSet | routeRemoved | registered | queued =>
    exact h.of_eq rfl rfl (fun _ hd => hd) fun _ hn => hn

/-- A cycle that lists the route and ends without having been interrupted. -/
structure FullCycle (env : RouteEnv) (routeId : String) (s s' : State maxPending) : Prop where
  listed : s.worker = .cycle (listRoutes s.routes)
  enabled : ∃ r, s.routes.get routeId = some r ∧ r.enabled = true
  run : Reach (step env) (fun s l => uninterrupted env s l = true) s s'
  ended : s'.worker = .idle

theorem due_of_reach (hrun : Reach (step env) (fun s l => uninterrupted env s l = true) s s')
    (h : Due r e s) : Due r e s' :=
  Reach.invariant (Due r e) h (fun _ _ _ ht hok hstep =>
    ht.change (step_change hstep) ((uninterrupted_iff hstep).mp hok)) hrun

theorem FullCycle.decided {routeId : String} (h : FullCycle env routeId s s')
    (hget : s.routes.get routeId = some r)
    (hnext : Log.IsNext s.events r.lastConsumedEventId (ofType r.eventType) e) :
    DecidedOn s'.decisions r e := by
  obtain ⟨r', hget', henabled⟩ := h.enabled
  cases hget.symm.trans hget'
  have hmem : r ∈ s.worker.rest := by
    rw [h.listed]
    exact (listRoutes_perm s.routes).mem_iff.mpr (mem_filter.mpr ⟨Table.mem_of_get hget, henabled⟩)
  exact (due_of_reach h.run (.listed hmem rfl hnext)).decidedOn (by rw [h.ended]; rfl)
    (by rw [h.ended]; rfl)

/-! ## As many cycles as there are events -/

instance (decisions : List Decided) (r : RouteRow) : DecidablePred (DecidedOn decisions r) :=
  fun e => inferInstanceAs (Decidable (∃ d ∈ decisions, d.route.rule = r.rule ∧ d.ev = e))

/-- The events of the route's type from its creation up to `e`. -/
def State.upTo (s : State maxPending) (r₀ : RouteRow) (e : Event) : List Event :=
  s.events.rows.filter fun x => ofType r₀.eventType x &&
    decide (r₀.lastConsumedEventId < x.eventId) && decide (x.eventId ≤ e.eventId)

def State.undecided (s : State maxPending) (r₀ : RouteRow) (e : Event) : Nat :=
  (s.upTo r₀ e).countP fun x => decide (¬ DecidedOn s.decisions r₀ x)

/-- What a run has added to the log comes behind what was there. -/
structure Grown (log log' : EventLog) : Prop where
  kept : ∀ x ∈ log.rows, x ∈ log'.rows
  old : ∀ x ∈ log'.rows, x.eventId ≤ log.maxId → x ∈ log.rows
  le : log.maxId ≤ log'.maxId

theorem Grown.refl (log : EventLog) : Grown log log := ⟨fun _ h => h, fun _ h _ => h, Nat.le_refl _⟩

theorem Grown.insert {log' : EventLog} (h : Grown log log') (eventType : EventType)
    (sourceAgentId excerpt observedAt : String) :
    Grown log (EventLog.insert log' eventType sourceAgentId excerpt observedAt) := by
  have hle := h.le
  refine ⟨fun x hx => Log.mem_push_of_mem (h.kept x hx), fun x hx hmax => ?_, ?_⟩
  · rcases Log.mem_push hx with hold | hnew
    · exact h.old x hold hmax
    · omega
  · rw [EventLog.insert, Log.maxId_push]
    omega

section Along

variable {ok : State maxPending → Label → Prop}

theorem grown_of_reach (hrun : Reach (step env) ok s s') : Grown s.events s'.events := by
  refine Reach.invariant (fun t : State maxPending => Grown s.events t.events) (.refl _)
    (fun t l t' ht _ hstep => ?_) hrun
  cases step_change hstep with
  | inserted | observed => exact ht.insert _ _ _ _
  | audited haudited =>
    obtain ⟨_, _, _, _, _, rfl⟩ := haudited.frame
    exact ht
  | moved | advanced | routeAdded | enabledSet | routeRemoved | registered | queued => exact ht

theorem decisions_of_reach (hrun : Reach (step env) ok s s') :
    ∀ d ∈ s.decisions, d ∈ s'.decisions :=
  fun d hd => Reach.invariant (fun t : State maxPending => d ∈ t.decisions) hd
    (fun _ _ _ ht _ hstep => (step_change hstep).mem_decisions ht) hrun

end Along

theorem CursorInv.routeOk_created (h : CursorInv s) (hr₀ : r₀ ∈ s.created)
    (hget : s.routes.get r₀.routeId = some r) :
    r₀.rule = r.rule ∧ r₀.lastConsumedEventId ≤ r.lastConsumedEventId ∧
      Log.Covered s.events (ofType r.eventType) r₀.lastConsumedEventId r.lastConsumedEventId
        (DecidedOn s.decisions r) := by
  obtain ⟨r₁, hr₁, hrule, hle, -, hcovered⟩ := h.routes _ r hget
  have hid : r₁.routeId = r₀.routeId :=
    (RouteRow.routeId_of_rule hrule).trans (Table.key_of_get hget)
  have hsame : r₁ = r₀ := inj_on_of_nodup_map h.nodup hr₁ hr₀ hid
  subst hsame
  exact ⟨hrule, hle, hcovered⟩

theorem exists_isNext {cursor : Nat} {p : Event → Bool}
    (hx : x ∈ log.rows) (hp : p x = true) (hlt : cursor < x.eventId) :
    ∃ y, Log.IsNext log cursor p y ∧ y.eventId ≤ x.eventId := by
  have hahead := Log.ahead_after log cursor p 1
  cases hbatch : log.after cursor p 1 with
  | nil =>
    unfold Log.after at hbatch
    have hnone := (take_eq_nil_iff.mp hbatch).resolve_left (by decide)
    simpa [hp, hlt] using filter_eq_nil_iff.mp hnone x hx
  | cons y batch =>
    rw [hbatch] at hahead
    refine ⟨y, hahead.isNext, ?_⟩
    rcases hahead.isNext.first x hx hp hlt with rfl | hafter
    · exact Nat.le_refl _
    · exact Nat.le_of_lt hafter

theorem FullCycle.progress (h : Reachable env maxPending agents s)
    (hr₀ : r₀ ∈ s.created) (hcycle : FullCycle env r₀.routeId s s')
    (hx : x ∈ s.events.rows) (htype : ofType r₀.eventType x = true)
    (hlt : r₀.lastConsumedEventId < x.eventId) (hnot : ¬ DecidedOn s.decisions r₀ x) :
    ∃ y ∈ s.events.rows, ofType r₀.eventType y = true ∧ r₀.lastConsumedEventId < y.eventId ∧
      y.eventId ≤ x.eventId ∧ ¬ DecidedOn s.decisions r₀ y ∧ DecidedOn s'.decisions r₀ y := by
  obtain ⟨r, hget, -⟩ := hcycle.enabled
  obtain ⟨hrule, hle, hcovered⟩ := h.cursorInv.routeOk_created hr₀ hget
  rw [RouteRow.eventType_of_rule hrule] at htype ⊢
  have hunread : r.lastConsumedEventId < x.eventId := by
    by_contra hpassed
    exact hnot ((hcovered x hx htype hlt (by omega)).mono (fun _ hd => hd) hrule)
  obtain ⟨y, hnext, hyx⟩ := exists_isNext hx htype hunread
  refine ⟨y, hnext.mem, hnext.test, Nat.lt_of_le_of_lt hle hnext.unread, hyx, ?_,
    (hcycle.decided hget hnext).mono (fun _ hd => hd) hrule⟩
  rintro ⟨d, hd, hdrule, rfl⟩
  -- what has been decided is not behind the cursor
  have hpassed := h.passedInv.routes _ r hget d hd (RouteRow.routeId_of_rule hdrule)
  have hbehind := hnext.unread
  omega

theorem decided_after_cycles (h : Reachable env maxPending agents s)
    (hr₀ : r₀ ∈ s.created) (he : e ∈ s.events.rows) (htype : e.eventType = r₀.eventType)
    (hlt : r₀.lastConsumedEventId < e.eventId) {n : Nat}
    (hcycles : Rounds (Reach (step env) anyStep)
      (FullCycle env r₀.routeId) n s s') (hn : s.undecided r₀ e ≤ n) :
    DecidedOn s'.decisions r₀ e := by
  have hmem : ∀ x, x ∈ s.upTo r₀ e ↔ x ∈ s.events.rows ∧ ofType r₀.eventType x = true ∧
      r₀.lastConsumedEventId < x.eventId ∧ x.eventId ≤ e.eventId := by
    intro x
    simp [State.upTo, and_assoc]
  have hbetween : ∀ t t' : State maxPending,
      Reach (step env) anyStep s t →
      Reach (step env) anyStep t t' →
      Reach (step env) anyStep s t' ∧
        ∀ x, DecidedOn t.decisions r₀ x → DecidedOn t'.decisions r₀ x :=
    fun t t' hst htt' => ⟨hst.trans htt', fun x hx => hx.mono (decisions_of_reach htt') rfl⟩
  refine Rounds.all_done hbetween (fun t t' hst hcycle => ?_) hcycles .start hn e
    ((hmem e).mpr ⟨he, decide_eq_true htype, hlt, Nat.le_refl _⟩)
  obtain ⟨hst', hkeep⟩ := hbetween t t' hst (hcycle.run.weaken fun _ _ _ => trivial)
  refine ⟨hst', hkeep, fun x hx hnot => ?_⟩
  obtain ⟨hxs, hxtype, hxlt, hxle⟩ := (hmem x).mp hx
  have hgrown := grown_of_reach hst
  obtain ⟨y, hy, hytype, hylt, hyx, hbefore, hafter⟩ := FullCycle.progress (h.trans hst)
    (created_of_reach hst hr₀) hcycle (hgrown.kept x hxs) hxtype hxlt hnot
  have hmax : e.eventId ≤ s.events.maxId := Log.le_maxId he
  exact ⟨y, (hmem y).mpr ⟨hgrown.old y hy (by omega), hytype, hylt, by omega⟩, hbefore, hafter⟩

end AgentTower.Routing.RouteWorker
