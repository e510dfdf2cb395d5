import AgentTower.Routing.RouteDecision

/-!
# The most stalled route

`compute_most_stalled` counts the events behind the cursor of each enabled route by their type alone.
The contract of `agenttower status` counts those whose source the worker would let through the
route's scope.
-/

namespace AgentTower.Routing.RouteWorker

open List

structure StalledRoute where
  routeId : String
  lag : Nat
  deriving DecidableEq, Repr

/-- The rows of the `COUNT`. -/
def countedEvents (events : EventLog) (route : RouteRow) : List Event :=
  events.rows.filter fun ev =>
    decide (route.lastConsumedEventId < ev.eventId) && EventLog.ofType route.eventType ev

def countedLag (events : EventLog) (route : RouteRow) : Nat := (countedEvents events route).length

def nextLeader (events : EventLog) (leader : Option StalledRoute) (route : RouteRow) :
    Option StalledRoute :=
  if countedLag events route = 0 then leader
  else if leader.all fun l => decide (l.lag < countedLag events route) then
    some ⟨route.routeId, countedLag events route⟩
  else leader

def computeMostStalled (routes : Routes) (events : EventLog) : Option StalledRoute :=
  (listRoutes routes).foldl (nextLeader events) none

/-! ## The contract -/

/-- The worker's own test. -/
def sourceMatches (agents : List AgentRecord) (route : RouteRow) (ev : Event) : Bool :=
  match matchSource agents ⟨route, ev, [], []⟩ with
  | .arbitrating _ => true
  | _ => false

def routeLag (agents : List AgentRecord) (events : EventLog) (route : RouteRow) : Nat :=
  ((countedEvents events route).filter (sourceMatches agents route)).length

/-- The first of the routes with the largest lag; nothing if there is no lag. -/
def MostStalled (lag : RouteRow → Nat) (rs : List RouteRow) : Option StalledRoute → Prop
  | none => ∀ r ∈ rs, lag r = 0
  | some leader => ∃ route ∈ rs, leader = ⟨route.routeId, lag route⟩ ∧ 0 < lag route ∧
      ∀ r ∈ rs, lag r ≤ lag route ∧ (lag r = lag route → createdBefore route r)

instance totalCreatedBefore : Std.Total createdBefore where
  total a b := by
    unfold createdBefore
    grind

instance transCreatedBefore : IsTrans RouteRow createdBefore where
  trans a b c := by
    unfold createdBefore
    grind

variable {lag : RouteRow → Nat} {rs rs' : List RouteRow} {leader : Option StalledRoute}
  {events : EventLog} {routes : Routes} {agents : List AgentRecord} {route : RouteRow}

theorem MostStalled.perm (h : MostStalled lag rs leader) (hperm : rs.Perm rs') :
    MostStalled lag rs' leader := by
  cases leader with
  | none => exact fun r hr => h r (hperm.mem_iff.mpr hr)
  | some l =>
    obtain ⟨route, hroute, rfl, hpos, hmost⟩ := h
    exact ⟨route, hperm.mem_iff.mp hroute, rfl, hpos, fun r hr => hmost r (hperm.mem_iff.mpr hr)⟩

/-- One turn of the loop, for a route that comes after all others so far. -/
theorem MostStalled.next (h : MostStalled (countedLag events) rs leader)
    (hlast : ∀ r ∈ rs, createdBefore r route) :
    MostStalled (countedLag events) (rs ++ [route]) (nextLeader events leader route) := by
  -- a route that takes the lead is the last one, and every other lag is smaller
  have hlead (hpos : countedLag events route ≠ 0)
      (hless : ∀ r ∈ rs, countedLag events r < countedLag events route) :
      MostStalled (countedLag events) (rs ++ [route])
        (some ⟨route.routeId, countedLag events route⟩) := by
    refine ⟨route, mem_append_right _ mem_cons_self, rfl, Nat.pos_of_ne_zero hpos, ?_⟩
    refine forall_mem_append.mpr ⟨fun r hr => ⟨(hless r hr).le, fun heq => ?_⟩,
      forall_mem_singleton.mpr ⟨le_rfl, fun _ => ?_⟩⟩
    · exact absurd heq (hless r hr).ne
    · exact (Std.Total.total route route).elim id id
  unfold nextLeader
  cases leader with
  | none =>
    split_ifs with hzero hall
    · exact forall_mem_append.mpr ⟨h, forall_mem_singleton.mpr hzero⟩
    · exact hlead hzero fun r hr => (h r hr).symm ▸ Nat.pos_of_ne_zero hzero
    · exact absurd rfl hall
  | some l =>
    obtain ⟨old, hold, rfl, hpos, hmost⟩ := h
    have hkeep (hle : countedLag events route ≤ countedLag events old) :
        MostStalled (countedLag events) (rs ++ [route])
          (some ⟨old.routeId, countedLag events old⟩) :=
      ⟨old, mem_append_left _ hold, rfl, hpos, forall_mem_append.mpr
        ⟨hmost, forall_mem_singleton.mpr ⟨hle, fun _ => hlast old hold⟩⟩⟩
    simp only [Option.all_some, decide_eq_true_eq]
    split_ifs with hzero hless
    · exact hkeep (by omega)
    · exact hlead hzero fun r hr => (hmost r hr).1.trans_lt hless
    · exact hkeep (Nat.le_of_not_lt hless)

theorem mostStalled_foldl (events : EventLog) (rs : List RouteRow) (h : rs.Pairwise createdBefore) :
    MostStalled (countedLag events) rs (rs.foldl (nextLeader events) none) := by
  induction rs using reverseRecOn with
  | nil => exact fun r hr => absurd hr not_mem_nil
  | append_singleton rs route ih =>
    obtain ⟨hrs, -, hlast⟩ := pairwise_append.mp h
    rw [foldl_append]
    exact (ih hrs).next fun r hr => hlast r hr route mem_cons_self

/-- In any case it has the most events of its type. -/
theorem most_stalled_route_by_type (routes : Routes) (events : EventLog) :
    MostStalled (countedLag events) (routes.rows.filter RouteRow.enabled)
      (computeMostStalled routes events) :=
  (mostStalled_foldl events (listRoutes routes) (pairwise_insertionSort _ _)).perm
    (listRoutes_perm routes)

/-- The first of the enabled routes with the most events of its type behind the cursor. -/
def LeadsByType (routes : Routes) (events : EventLog) (route : RouteRow) : Prop :=
  0 < countedLag events route ∧ ∀ r ∈ routes.rows.filter RouteRow.enabled,
    countedLag events r ≤ countedLag events route ∧
      (countedLag events r = countedLag events route → createdBefore route r)

theorem eq_of_routeId {r : RouteRow} (h : route ∈ routes.rows.filter RouteRow.enabled)
    (h' : r ∈ routes.rows.filter RouteRow.enabled) (hid : route.routeId = r.routeId) : route = r :=
  inj_on_of_nodup_map routes.primary (mem_of_mem_filter h) (mem_of_mem_filter h') hid

theorem LeadsByType.unique {r : RouteRow} (hroute : route ∈ routes.rows.filter RouteRow.enabled)
    (hr : r ∈ routes.rows.filter RouteRow.enabled) (h : LeadsByType routes events route)
    (h' : LeadsByType routes events r) : route = r := by
  have heq : countedLag events route = countedLag events r :=
    Nat.le_antisymm (h'.2 route hroute).1 (h.2 r hr).1
  have hbefore := (h.2 r hr).2 heq.symm
  have hafter := (h'.2 route hroute).2 heq
  refine eq_of_routeId hroute hr ?_
  unfold createdBefore at hbefore hafter
  grind

theorem routeLag_le (agents : List AgentRecord) (events : EventLog) (route : RouteRow) :
    routeLag agents events route ≤ countedLag events route :=
  length_filter_le _ _

theorem routeLag_eq_iff : routeLag agents events route = countedLag events route ↔
    ∀ ev ∈ countedEvents events route, sourceMatches agents route ev = true :=
  length_filter_eq_length_iff

/-- The condition is that every event behind the cursor of the leading route matches it: no other route
has more events that match than events. -/
theorem most_stalled_route_has_most_lag (routes : Routes) (events : EventLog)
    (agents : List AgentRecord) :
    MostStalled (routeLag agents events) (routes.rows.filter RouteRow.enabled)
      (computeMostStalled routes events) ↔
    ∀ route ∈ routes.rows.filter RouteRow.enabled, LeadsByType routes events route →
      ∀ ev ∈ countedEvents events route, sourceMatches agents route ev = true := by
  have hcounted := (mostStalled_foldl events (listRoutes routes) (pairwise_insertionSort _ _)).perm
    (listRoutes_perm routes)
  change MostStalled _ _ (computeMostStalled routes events) at hcounted
  cases hleader : computeMostStalled routes events with
  | none =>
    rw [hleader] at hcounted
    constructor
    · intro _ route hroute hleads
      exact absurd (hcounted route hroute) hleads.1.ne'
    · intro _ r hr
      exact Nat.le_zero.mp ((routeLag_le agents events r).trans (hcounted r hr).le)
  | some leader =>
    rw [hleader] at hcounted
    obtain ⟨first, hfirst, rfl, hleads⟩ := hcounted
    constructor
    · rintro ⟨route, hroute, hsame, -⟩ other hother hother'
      obtain ⟨hid, hlag⟩ := StalledRoute.mk.inj hsame
      obtain rfl := eq_of_routeId hfirst hroute hid
      obtain rfl := LeadsByType.unique hfirst hother hleads hother'
      exact routeLag_eq_iff.mp hlag.symm
    · intro hmatch
      have hlag := routeLag_eq_iff.mpr (hmatch first hfirst hleads)
      refine ⟨first, hfirst, by rw [hlag], by rw [hlag]; exact hleads.1, fun r hr => ?_⟩
      have hle := routeLag_le agents events r
      obtain ⟨hmost, htie⟩ := hleads.2 r hr
      rw [hlag]
      exact ⟨hle.trans hmost, fun heq => htie (Nat.le_antisymm hmost (heq ▸ hle))⟩

def scopedRoutes (agentId : String) : Routes :=
  (Sql.Table.empty.insert { sampleRoute 0 with sourceScope := .agentId agentId }).getD Sql.Table.empty

def oneEvent : EventLog :=
  EventLog.insert Log.empty .completed "agt_00000000000b" "done" "2026-01-01T00:00:01.000Z"

/-- The route waits for the master's events; the slave's event is counted. -/
theorem other_source_counts_as_lag :
    computeMostStalled (scopedRoutes "agt_00000000000a") oneEvent = some ⟨"r1", 1⟩ ∧
      (∀ route ∈ (scopedRoutes "agt_00000000000a").rows,
        routeLag [sampleMaster, sampleSlave] oneEvent route = 0) ∧
      ¬MostStalled (routeLag [sampleMaster, sampleSlave] oneEvent)
        ((scopedRoutes "agt_00000000000a").rows.filter RouteRow.enabled)
        (computeMostStalled (scopedRoutes "agt_00000000000a") oneEvent) := by
  have hcomputed : computeMostStalled (scopedRoutes "agt_00000000000a") oneEvent = some ⟨"r1", 1⟩ := by
    decide +kernel
  have hzero : ∀ route ∈ (scopedRoutes "agt_00000000000a").rows,
      routeLag [sampleMaster, sampleSlave] oneEvent route = 0 := by
    decide +kernel
  refine ⟨hcomputed, hzero, ?_⟩
  rw [hcomputed]
  rintro ⟨route, hroute, -, hpos, -⟩
  rw [hzero route (mem_of_mem_filter hroute)] at hpos
  exact absurd hpos (lt_irrefl 0)

end AgentTower.Routing.RouteWorker
