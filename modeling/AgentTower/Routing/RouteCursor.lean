import AgentTower.Routing.RouteChange

/-!
# The cursor of a route

A cursor passes an event only by a decision about it.  The worker works on snapshots: the routes as
they were at the start of the cycle, and a batch.  They stay in step with the table, whatever an
operator does to the routes in the meantime.
-/

namespace AgentTower.Routing

open Transition Sql List Table
open RouteRow (routeId)

def RouteRow.rule (r : RouteRow) : RouteRow := { r with enabled := true, lastConsumedEventId := 0 }

section Rule

variable {r r' : RouteRow}

theorem RouteRow.routeId_of_rule (h : r.rule = r'.rule) : r.routeId = r'.routeId :=
  (congrArg routeId h :)

theorem RouteRow.eventType_of_rule (h : r.rule = r'.rule) : r.eventType = r'.eventType :=
  (congrArg RouteRow.eventType h :)

theorem RouteRow.sourceScope_of_rule (h : r.rule = r'.rule) : r.sourceScope = r'.sourceScope :=
  (congrArg RouteRow.sourceScope h :)

end Rule

namespace RouteWorker

open EventLog (ofType)

variable {maxPending : Nat} {env : RouteEnv} {s s' : State maxPending}

/-! ## Statements on `routes` -/

section Routes

variable {routes routes' : Routes}

theorem get_updateRoutes (routes : Routes) (sel : RouteRow → Bool) {p : RoutePatch}
    (hp : ∀ r, (p.set r).eventType = r.eventType) (k : String) :
    (updateRoutes routes sel p).get k = (routes.get k).map (Table.patched p sel) := by
  obtain ⟨routes', hupdate⟩ := update_succeeds (t := routes) (p := p) fun r hr _ => by
    simpa [hp] using routes.checked r hr
  unfold updateRoutes
  rw [hupdate]
  exact get_update hupdate k

/-- On the keys of `P`, every row was there before with the same rule and the same cursor. -/
def KeptOn (P : String → Prop) (routes routes' : Routes) : Prop :=
  ∀ k, P k → ∀ r', routes'.get k = some r' →
    ∃ r, routes.get k = some r ∧ r'.rule = r.rule ∧ r'.lastConsumedEventId = r.lastConsumedEventId

variable {P : String → Prop}

theorem KeptOn.of_get (h : ∀ k, P k → routes'.get k = routes.get k) : KeptOn P routes routes' :=
  fun k hk r' hget => ⟨r', (h k hk).symm.trans hget, rfl, rfl⟩

theorem KeptOn.mono {Q : String → Prop} (h : KeptOn P routes routes') (hQ : ∀ k, Q k → P k) :
    KeptOn Q routes routes' :=
  fun k hk => h k (hQ k hk)

theorem keptOn_updateEnabled (routes : Routes) (routeId : String) (enabled : Bool) :
    KeptOn (fun _ => True) routes (updateEnabled routes routeId enabled) := by
  intro k _ r' hget
  unfold updateEnabled at hget
  rw [get_updateRoutes _ _ fun _ => rfl] at hget
  obtain ⟨r, hr, rfl⟩ := Option.map_eq_some_iff.mp hget
  refine ⟨r, hr, ?_⟩
  unfold Table.patched
  split <;> exact ⟨rfl, rfl⟩

theorem keptOn_delete (routes : Routes) (sel : RouteRow → Bool) :
    KeptOn (fun _ => True) routes (routes.delete sel) := by
  intro k _ r' hget
  rw [get_delete, Option.filter_eq_some_iff] at hget
  exact ⟨r', hget.1, rfl, rfl⟩

theorem keptOn_insert {route : RouteRow} (h : routes.insert route = some routes') :
    KeptOn (· ≠ route.routeId) routes routes' :=
  .of_get fun k hk => by rw [get_insert h, if_neg hk]

theorem get_advanceCursor (routes : Routes) (routeId k : String) (eventId : Nat) :
    (advanceCursor routes routeId eventId).get k = (routes.get k).map fun r =>
      if r.routeId = routeId ∧ r.lastConsumedEventId < eventId then
        { r with lastConsumedEventId := eventId } else r := by
  unfold advanceCursor
  rw [get_updateRoutes _ _ fun _ => rfl]
  congr 1
  funext r
  simp [Table.patched, cursorPatch]

theorem keptOn_advanceCursor (routes : Routes) (routeId : String) (eventId : Nat) :
    KeptOn (· ≠ routeId) routes (advanceCursor routes routeId eventId) := by
  refine .of_get fun k hk => ?_
  rw [get_advanceCursor]
  cases hget : routes.get k with
  | none => rfl
  | some r =>
    have hne : r.routeId ≠ routeId := by
      rw [key_of_get hget]
      exact hk
    simp [hne]

theorem get_advanceCursor_self {routeId : String} {eventId : Nat} {r' : RouteRow}
    (h : (advanceCursor routes routeId eventId).get routeId = some r') :
    ∃ r, routes.get routeId = some r ∧ r'.rule = r.rule ∧
      r'.lastConsumedEventId = max r.lastConsumedEventId eventId := by
  rw [get_advanceCursor] at h
  obtain ⟨r, hr, rfl⟩ := Option.map_eq_some_iff.mp h
  refine ⟨r, hr, ?_⟩
  have hkey : r.routeId = routeId := key_of_get hr
  by_cases hlt : r.lastConsumedEventId < eventId
  · rw [if_pos ⟨hkey, hlt⟩]
    exact ⟨rfl, (Nat.max_eq_right (Nat.le_of_lt hlt)).symm⟩
  · rw [if_neg fun hboth => hlt hboth.2]
    exact ⟨rfl, (Nat.max_eq_left (Nat.le_of_not_lt hlt)).symm⟩

end Routes

/-! ## The invariant -/

def DecidedOn (decisions : List Decided) (r : RouteRow) (e : Event) : Prop :=
  ∃ d ∈ decisions, d.route.rule = r.rule ∧ d.ev = e

def RouteOk (events : EventLog) (created : List RouteRow) (decisions : List Decided)
    (r : RouteRow) : Prop :=
  ∃ r₀ ∈ created, r₀.rule = r.rule ∧ r₀.lastConsumedEventId ≤ r.lastConsumedEventId ∧
    r.lastConsumedEventId ≤ events.maxId ∧
    Log.Covered events (ofType r.eventType) r₀.lastConsumedEventId r.lastConsumedEventId
      (DecidedOn decisions r)

/-- The routes that a cycle has not come to yet are as the table has them. -/
structure RestOk (routes : Routes) (created rest : List RouteRow) : Prop where
  nodup : (rest.map routeId).Nodup
  created : ∀ r ∈ rest, r.routeId ∈ created.map routeId
  current : ∀ r ∈ rest, ∀ t, routes.get r.routeId = some t →
    t.rule = r.rule ∧ t.lastConsumedEventId = r.lastConsumedEventId

/-- The events that a batch has not come to yet are the next ones of its route. -/
structure BatchOk (routes : Routes) (events : EventLog) (created : List RouteRow)
    (route : RouteRow) (batch : List Event) : Prop where
  created : route.routeId ∈ created.map routeId
  ahead : ∀ t, routes.get route.routeId = some t → t.rule = route.rule ∧
    Log.Ahead events t.lastConsumedEventId (ofType route.eventType) batch

def Worker.rest : Worker → List RouteRow
  | .cycle routes => routes
  | .batch _ _ rest => rest
  | .job j _ => j.rest
  | _ => []

def Worker.unread : Worker → Option (RouteRow × List Event)
  | .batch route events _ => some (route, events)
  | .job j stage => some (j.route, if stage.isEmitting then j.later else j.ev :: j.later)
  | _ => none

structure WorkerOk (routes : Routes) (events : EventLog) (created : List RouteRow)
    (w : Worker) : Prop where
  rest : RestOk routes created w.rest
  unread : ∀ route batch, w.unread = some (route, batch) →
    BatchOk routes events created route batch ∧ route.routeId ∉ w.rest.map routeId

structure CursorInv (s : State maxPending) : Prop where
  nodup : (s.created.map routeId).Nodup
  routes : ∀ k r, s.routes.get k = some r → RouteOk s.events s.created s.decisions r
  worker : WorkerOk s.routes s.events s.created s.worker

/-! ### Rows -/

section RouteOk

variable {events : EventLog} {created created' : List RouteRow}
  {decisions decisions' : List Decided} {r r' : RouteRow}

variable {e : Event}

theorem DecidedOn.mono (h : DecidedOn decisions r e)
    (hdecisions : ∀ d ∈ decisions, d ∈ decisions') (hrule : r'.rule = r.rule) :
    DecidedOn decisions' r' e := by
  obtain ⟨d, hd, hroute, hev⟩ := h
  exact ⟨d, hdecisions d hd, hroute.trans hrule.symm, hev⟩

theorem RouteOk.mono (h : RouteOk events created decisions r)
    (hcreated : ∀ r₀ ∈ created, r₀ ∈ created') (hdecisions : ∀ d ∈ decisions, d ∈ decisions')
    (hrule : r'.rule = r.rule) (hcursor : r'.lastConsumedEventId = r.lastConsumedEventId) :
    RouteOk events created' decisions' r' := by
  obtain ⟨r₀, hr₀, hrule₀, hle, hmax, hcovered⟩ := h
  refine ⟨r₀, hcreated r₀ hr₀, hrule₀.trans hrule.symm, ?_⟩
  rw [hcursor, RouteRow.eventType_of_rule hrule]
  exact ⟨hle, hmax, hcovered.imp fun e he => he.mono hdecisions hrule⟩

theorem RouteOk.push (h : RouteOk events created decisions r) (eventType : EventType)
    (sourceAgentId excerpt observedAt : String) :
    RouteOk (EventLog.insert events eventType sourceAgentId excerpt observedAt) created decisions
      r := by
  obtain ⟨r₀, hr₀, hrule₀, hle, hmax, hcovered⟩ := h
  refine ⟨r₀, hr₀, hrule₀, hle, ?_, hcovered.push hmax⟩
  rw [EventLog.insert, Log.maxId_push]
  omega

theorem RouteOk.of_created (hmem : r ∈ created) (hmax : r.lastConsumedEventId ≤ events.maxId) :
    RouteOk events created decisions r :=
  ⟨r, hmem, rfl, Nat.le_refl _, hmax, .refl _ _ _ _⟩

theorem RouteOk.advance {batch : List Event} (h : RouteOk events created decisions r)
    (hahead : Log.Ahead events r.lastConsumedEventId (ofType r.eventType) (e :: batch))
    (hdecisions : ∀ d ∈ decisions, d ∈ decisions') (hrule : r'.rule = r.rule)
    (hcursor : r'.lastConsumedEventId = e.eventId) (hdecided : DecidedOn decisions' r' e) :
    RouteOk events created decisions' r' := by
  obtain ⟨r₀, hr₀, hrule₀, hle, hmax, hcovered⟩ := h
  obtain ⟨he, -, hlt⟩ := hahead.unread e mem_cons_self
  refine ⟨r₀, hr₀, hrule₀.trans hrule.symm, ?_⟩
  rw [hcursor, RouteRow.eventType_of_rule hrule]
  refine ⟨by omega, Log.le_maxId he, ?_⟩
  exact (hcovered.imp fun e he => he.mono hdecisions hrule).advance hahead hdecided

end RouteOk

/-! ### The worker's snapshots -/

section WorkerOk

variable {routes routes' : Routes} {events : EventLog} {created created' : List RouteRow}
  {route : RouteRow} {rest : List RouteRow} {batch : List Event} {w w' : Worker}

theorem RestOk.nil (routes : Routes) (created : List RouteRow) : RestOk routes created [] :=
  ⟨nodup_nil, fun _ h => absurd h not_mem_nil, fun _ h => absurd h not_mem_nil⟩

theorem RestOk.tail (h : RestOk routes created (route :: rest)) : RestOk routes created rest :=
  ⟨(nodup_cons.mp h.nodup).2, fun r hr => h.created r (mem_cons_of_mem _ hr),
    fun r hr => h.current r (mem_cons_of_mem _ hr)⟩

theorem RestOk.kept (h : RestOk routes created rest)
    (hkept : KeptOn (· ∈ rest.map routeId) routes routes')
    (hcreated : ∀ r ∈ created, r ∈ created') : RestOk routes' created' rest := by
  refine ⟨h.nodup, fun r hr => map_subset _ hcreated (h.created r hr), fun r hr t ht => ?_⟩
  obtain ⟨t₀, ht₀, hrule, hcursor⟩ := hkept r.routeId (mem_map_of_mem hr) t ht
  obtain ⟨hrule₀, hcursor₀⟩ := h.current r hr t₀ ht₀
  exact ⟨hrule.trans hrule₀, hcursor.trans hcursor₀⟩

theorem BatchOk.kept (h : BatchOk routes events created route batch)
    (hkept : KeptOn (· = route.routeId) routes routes')
    (hcreated : ∀ r ∈ created, r ∈ created') : BatchOk routes' events created' route batch := by
  refine ⟨map_subset _ hcreated h.created, fun t ht => ?_⟩
  obtain ⟨t₀, ht₀, hrule, hcursor⟩ := hkept route.routeId rfl t ht
  obtain ⟨hrule₀, hahead⟩ := h.ahead t₀ ht₀
  rw [hcursor]
  exact ⟨hrule.trans hrule₀, hahead⟩

theorem WorkerOk.kept (h : WorkerOk routes events created w)
    (hkept : KeptOn (· ∈ created.map routeId) routes routes')
    (hcreated : ∀ r ∈ created, r ∈ created') : WorkerOk routes' events created' w := by
  refine ⟨h.rest.kept (hkept.mono fun k hk => ?_) hcreated, fun route batch hunread => ?_⟩
  · obtain ⟨r, hr, rfl⟩ := mem_map.mp hk
    exact h.rest.created r hr
  · obtain ⟨hbatch, hnotin⟩ := h.unread route batch hunread
    refine ⟨hbatch.kept (hkept.mono fun k hk => ?_) hcreated, hnotin⟩
    rw [hk]
    exact hbatch.created

theorem WorkerOk.push (h : WorkerOk routes events created w) (eventType : EventType)
    (sourceAgentId excerpt observedAt : String) :
    WorkerOk routes (EventLog.insert events eventType sourceAgentId excerpt observedAt) created
      w := by
  refine ⟨h.rest, fun route batch hunread => ?_⟩
  obtain ⟨hbatch, hnotin⟩ := h.unread route batch hunread
  exact ⟨⟨hbatch.created, fun t ht => ⟨(hbatch.ahead t ht).1, (hbatch.ahead t ht).2.push⟩⟩, hnotin⟩

theorem WorkerOk.of_rest (hrest : RestOk routes created w.rest) (hunread : w.unread = none) :
    WorkerOk routes events created w :=
  ⟨hrest, fun route batch h => by cases hunread.symm.trans h⟩

theorem WorkerOk.of_eq (h : WorkerOk routes events created w) (hrest : w'.rest = w.rest)
    (hunread : w'.unread = w.unread) : WorkerOk routes events created w' := by
  refine ⟨hrest ▸ h.rest, fun route batch hb => ?_⟩
  rw [hrest]
  exact h.unread route batch (hunread ▸ hb)

end WorkerOk

/-! ### Steps -/

variable {j : Job} {stage : Stage} {l : Label} {w : Worker} {routes : Routes} {outcome : Outcome}
  {r' r : RouteRow} {k : String}

theorem Handled.isEmitting {winner target : AgentRecord} {e : PyExc}
    (h : Handled j winner target e stage) : stage.isEmitting = false := by
  cases h <;> rfl

theorem StageMove.isEmitting {l : WorkerLabel} {stage' : Stage}
    (h : StageMove env s j l stage stage') :
    stage.isEmitting = false ∧ stage'.isEmitting = false := by
  cases h with
  | unmatched | matched | won | noMaster | rendered | unresolved | prepared | retried | readBack =>
    exact ⟨rfl, rfl⟩
  | refused _ hhandled | rejected _ _ hhandled | exhausted _ _ hhandled =>
    exact ⟨rfl, hhandled.isEmitting⟩

theorem listRoutes_perm (routes : Routes) :
    (listRoutes routes).Perm (routes.rows.filter RouteRow.enabled) :=
  perm_insertionSort _ _

theorem restOk_listRoutes (h : CursorInv s) : RestOk s.routes s.created (listRoutes s.routes) := by
  have hget : ∀ r ∈ listRoutes s.routes, s.routes.get r.routeId = some r := fun r hr =>
    get_of_mem (mem_of_mem_filter ((listRoutes_perm s.routes).mem_iff.mp hr))
  refine ⟨?_, fun r hr => ?_, fun r hr t ht => ?_⟩
  · refine ((listRoutes_perm s.routes).map routeId).nodup_iff.mpr ?_
    exact s.routes.primary.sublist (filter_sublist.map _)
  · obtain ⟨r₀, hr₀, hrule, -⟩ := h.routes _ r (hget r hr)
    exact mem_map.mpr ⟨r₀, hr₀, RouteRow.routeId_of_rule hrule⟩
  · rw [hget r hr] at ht
    cases ht
    exact ⟨rfl, rfl⟩

theorem Move.workerOk {l : WorkerLabel} (hmove : Move env s l s.worker w)
    (h : CursorInv s) : WorkerOk s.routes s.events s.created w := by
  have hworker := h.worker
  generalize s.worker = w₀ at hmove hworker
  cases hmove with
  | listed => exact .of_rest (restOk_listRoutes h) rfl
  | unlisted | cycleEnd => exact .of_rest (.nil _ _) rfl
  | nextRoute => exact .of_rest hworker.rest.tail rfl
  | batchEnd | abandoned => exact .of_rest hworker.rest rfl
  | nextEvent => exact hworker.of_eq rfl rfl
  | @stage _ j stage stage' hstage =>
    refine hworker.of_eq rfl ?_
    simp only [Worker.unread, hstage.isEmitting.1, hstage.isEmitting.2]
  | @selected route rest scope _ =>
    -- the batch is selected behind the snapshot's cursor, which is the table's
    have hrest := hworker.rest
    refine ⟨hrest.tail, fun route' batch hunread => ?_⟩
    cases hunread
    refine ⟨⟨hrest.created route mem_cons_self, fun t ht => ?_⟩,
      (nodup_cons.mp hrest.nodup).1⟩
    obtain ⟨hrule, hcursor⟩ := hrest.current route mem_cons_self t ht
    rw [hcursor]
    exact ⟨hrule, Log.ahead_after _ _ _ _⟩

theorem AuditMove.workerOk {events : EventLog} {created : List RouteRow}
    {w' : Worker} (hmove : AuditMove w w') (h : WorkerOk routes events created w) :
    WorkerOk routes events created w' := by
  cases hmove with
  | same => exact h
  | idle | draining | listing => exact .of_rest (.nil _ _) rfl
  | emitted => exact h.of_eq rfl rfl
  | raised => exact .of_rest h.rest rfl

theorem CursorInv.current (hworker : s.worker = .job j (.advancing outcome)) (h : CursorInv s)
    (hget : (advanceCursor s.routes j.route.routeId j.ev.eventId).get j.route.routeId = some r') :
    ∃ r, s.routes.get j.route.routeId = some r ∧ r'.rule = r.rule ∧ r.rule = j.route.rule ∧
      r'.lastConsumedEventId = j.ev.eventId ∧
      Log.Ahead s.events r.lastConsumedEventId (ofType j.route.eventType) (j.ev :: j.later) := by
  have hunread := h.worker.unread
  rw [hworker] at hunread
  obtain ⟨r, hr, hrule, hcursor⟩ := get_advanceCursor_self hget
  obtain ⟨hrule', hahead⟩ := (hunread j.route (j.ev :: j.later) rfl).1.ahead r hr
  have hlt := (hahead.unread j.ev mem_cons_self).2.2
  exact ⟨r, hr, hrule, hrule', hcursor.trans (Nat.max_eq_right (Nat.le_of_lt hlt)), hahead⟩

theorem CursorInv.advance (hworker : s.worker = .job j (.advancing outcome)) (h : CursorInv s) :
    CursorInv (commitAdvance s j outcome) := by
  have hkept := keptOn_advanceCursor s.routes j.route.routeId j.ev.eventId
  have hdecisions : ∀ d ∈ s.decisions, d ∈ s.decisions ++ [⟨j.route, j.ev, outcome⟩] :=
    fun d hd => mem_append_left _ hd
  refine ⟨h.nodup, fun k r' hget => ?_, ?_⟩
  · by_cases hk : k = j.route.routeId
    · -- the one event between the old cursor and the new is the one just decided
      subst hk
      obtain ⟨r, hr, hrule, hroute, hcursor, hahead⟩ := h.current hworker hget
      rw [← RouteRow.eventType_of_rule hroute] at hahead
      refine (h.routes _ r hr).advance hahead hdecisions hrule hcursor ?_
      exact ⟨_, mem_append_right _ (mem_singleton_self _), (hrule.trans hroute).symm, rfl⟩
    · obtain ⟨r, hr, hrule, hcursor⟩ := hkept k hk r' hget
      exact (h.routes k r hr).mono (fun _ hr₀ => hr₀) hdecisions hrule hcursor
  · have hbatch := h.worker.unread
    have hrest := h.worker.rest
    rw [hworker] at hbatch hrest
    obtain ⟨hbatch, hnotin⟩ := hbatch j.route (j.ev :: j.later) rfl
    -- whether or not a line is to be written, the rest of the batch is unread
    have hafter : WorkerOk (advanceCursor s.routes j.route.routeId j.ev.eventId) s.events s.created
        (.batch j.route j.later j.rest) := by
      refine ⟨hrest.kept (hkept.mono fun k hk heq => hnotin (heq ▸ hk)) fun _ hr => hr, ?_⟩
      intro route batch hunread
      cases hunread
      refine ⟨⟨hbatch.created, fun t ht => ?_⟩, hnotin⟩
      obtain ⟨r, hr, hrule, hroute, hcursor, hahead⟩ := h.current hworker ht
      rw [hcursor]
      exact ⟨hrule.trans hroute, hahead.tail⟩
    cases outcome with
    | noMatch => exact hafter
    | matched | skipped => exact hafter.of_eq rfl rfl

theorem CursorInv.kept (h : CursorInv s)
    (hkept : KeptOn (fun _ => True) s.routes routes) : CursorInv { s with routes } := by
  have hsame : ∀ r ∈ s.created, r ∈ s.created := fun _ hr => hr
  refine ⟨h.nodup, fun k r' hr' => ?_, h.worker.kept (hkept.mono fun _ _ => trivial) hsame⟩
  obtain ⟨r, hr, hrule, hcursor⟩ := hkept k trivial r' hr'
  exact (h.routes k r hr).mono hsame (fun _ hd => hd) hrule hcursor

theorem CursorInv.change (hchange : Change env s l s') (h : CursorInv s) : CursorInv s' := by
  cases hchange with
  | moved hmove => exact ⟨h.nodup, h.routes, hmove.workerOk h⟩
  | @inserted j winner target m decision attempts q hworker happly =>
    refine ⟨h.nodup, fun k r hr => (h.routes k r hr).push _ _ _ _, ?_⟩
    have hjob := h.worker
    rw [hworker] at hjob
    exact (hjob.push _ _ _ _).of_eq rfl rfl
  | advanced hworker => exact h.advance hworker
  | audited haudited =>
    have hworker := haudited.worker.workerOk h.worker
    obtain ⟨_, _, _, _, _, rfl⟩ := haudited.frame
    exact ⟨h.nodup, h.routes, hworker⟩
  | observed =>
    exact ⟨h.nodup, fun k r hr => (h.routes k r hr).push _ _ _ _, h.worker.push _ _ _ _⟩
  | @routeAdded route routes hmax hfresh hinsert =>
    have hcreated : ∀ r ∈ s.created, r ∈ s.created ++ [route] := fun r hr =>
      mem_append_left _ hr
    refine ⟨?_, fun k r hr => ?_, ?_⟩
    · rw [map_append, map_singleton]
      exact h.nodup.append (nodup_singleton _) (disjoint_singleton.mpr hfresh)
    · rw [get_insert hinsert] at hr
      split at hr
      · cases hr
        exact .of_created (mem_append_right _ (mem_singleton_self route)) hmax
      · exact (h.routes k r hr).mono hcreated (fun _ hd => hd) rfl rfl
    · -- the id is fresh, so the worker holds no snapshot under it
      refine h.worker.kept ((keptOn_insert hinsert).mono fun k hk heq => hfresh ?_) hcreated
      rw [← heq]
      exact hk
  | enabledSet routeId enabled => exact h.kept (keptOn_updateEnabled s.routes routeId enabled)
  | routeRemoved => exact h.kept (keptOn_delete s.routes _)
  | registered | queued => exact ⟨h.nodup, h.routes, h.worker⟩

theorem CursorInv.init (maxPending : Nat) (agents : List AgentRecord) :
    CursorInv (State.init maxPending agents) :=
  ⟨nodup_nil, fun k _ hr => (by cases (get_empty k).symm.trans hr),
    .of_rest (.nil _ _) rfl⟩

abbrev Reachable (env : RouteEnv) (maxPending : Nat) (agents : List AgentRecord) :
    State maxPending → Prop :=
  Reach (step env) anyStep (State.init maxPending agents)

theorem Reachable.cursorInv {agents : List AgentRecord} (h : Reachable env maxPending agents s) :
    CursorInv s :=
  Reach.invariant CursorInv (.init maxPending agents)
    (fun _ _ _ hs _ hstep => hs.change (step_change hstep)) h

/-! ## Cursors along a run -/

theorem Change.created (hchange : Change env s l s') (hr : r ∈ s.created) : r ∈ s'.created := by
  cases hchange with
  | audited haudited =>
    obtain ⟨_, _, _, _, _, rfl⟩ := haudited.frame
    exact hr
  | routeAdded => exact mem_append_left _ hr
  | moved | inserted | advanced | observed | enabledSet | routeRemoved | registered | queued =>
    exact hr

theorem Change.route (hchange : Change env s l s')
    (hk : k ∈ s.created.map routeId) (hr' : s'.routes.get k = some r') :
    ∃ r, s.routes.get k = some r ∧ r'.rule = r.rule ∧
      r.lastConsumedEventId ≤ r'.lastConsumedEventId := by
  have hkept : ∀ {P : String → Prop} {routes : Routes}, KeptOn P s.routes routes → P k →
      routes.get k = some r' → ∃ r, s.routes.get k = some r ∧ r'.rule = r.rule ∧
        r.lastConsumedEventId ≤ r'.lastConsumedEventId := by
    intro P routes h hP hr'
    obtain ⟨r, hr, hrule, hcursor⟩ := h k hP r' hr'
    exact ⟨r, hr, hrule, Nat.le_of_eq hcursor.symm⟩
  cases hchange with
  | moved | inserted | observed | registered | queued => exact ⟨r', hr', rfl, Nat.le_refl _⟩
  | audited haudited =>
    obtain ⟨_, _, _, _, _, rfl⟩ := haudited.frame
    exact ⟨r', hr', rfl, Nat.le_refl _⟩
  | @advanced j outcome hworker =>
    by_cases heq : k = j.route.routeId
    · subst heq
      obtain ⟨r, hr, hrule, hcursor⟩ := get_advanceCursor_self hr'
      exact ⟨r, hr, hrule, hcursor ▸ Nat.le_max_left _ _⟩
    · exact hkept (keptOn_advanceCursor _ _ _) heq hr'
  | @routeAdded route routes _ hfresh hinsert =>
    exact hkept (keptOn_insert hinsert) (fun heq => hfresh (heq ▸ hk)) hr'
  | enabledSet => exact hkept (keptOn_updateEnabled _ _ _) trivial hr'
  | routeRemoved => exact hkept (keptOn_delete _ _) trivial hr'

section Along

variable {ok : State maxPending → Label → Prop}

theorem created_of_reach (hrun : Reach (step env) ok s s') {r : RouteRow}
    (hr : r ∈ s.created) : r ∈ s'.created :=
  Reach.invariant (fun t : State maxPending => r ∈ t.created) hr
    (fun _ _ _ ht _ hstep => (step_change hstep).created ht) hrun

theorem route_of_reach (hrun : Reach (step env) ok s s') {k : String}
    (hk : k ∈ s.created.map routeId) {r' : RouteRow} (hr' : s'.routes.get k = some r') :
    ∃ r, s.routes.get k = some r ∧ r'.rule = r.rule ∧
      r.lastConsumedEventId ≤ r'.lastConsumedEventId := by
  obtain ⟨r₀, hr₀, rfl⟩ := mem_map.mp hk
  induction hrun generalizing r' with
  | start => exact ⟨r', hr', rfl, Nat.le_refl _⟩
  | next hreach _ hstep ih =>
    have hcreated := mem_map_of_mem (f := routeId) (created_of_reach hreach hr₀)
    obtain ⟨r₁, hr₁, hrule₁, hle₁⟩ := (step_change hstep).route hcreated hr'
    obtain ⟨r, hr, hrule, hle⟩ := ih hr₁
    exact ⟨r, hr, hrule₁.trans hrule, Nat.le_trans hle hle₁⟩

end Along

theorem CursorInv.mem_created (h : CursorInv s)
    (hget : s.routes.get k = some r) : k ∈ s.created.map routeId := by
  obtain ⟨r₀, hr₀, hrule, -⟩ := h.routes k r hget
  exact mem_map.mpr ⟨r₀, hr₀, (RouteRow.routeId_of_rule hrule).trans (key_of_get hget)⟩

end RouteWorker

end AgentTower.Routing
