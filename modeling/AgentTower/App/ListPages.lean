import AgentTower.App.Lists

/-!
# All pages of a list

A client that follows the cursors of one of the four lists gets every row that passes the filters once,
provided that the cursors exist.  Filters that are long enough leave no room for one: then the list
ends after its first page.
-/

namespace AgentTower.App

open Sql Fallible List
open Agents
open Except (ok)

def PaneFilters.selects (db : ListDb) (f : PaneFilters) (p : PaneListing) : Bool :=
  (db.containers.get p.key.containerId).isSome &&
    f.containerId.all (fun c => db.inContainer c p.key.containerId) &&
      f.registered.all fun registered => decide ((db.linkedAgent p.key).isSome = registered)

def AgentFilters.selects (db : ListDb) (f : AgentFilters) (a : AgentRecord) : Bool :=
  f.roles.all (fun r => decide (a.role.text = r)) &&
    (containerRange f.containerId).any (fun inContainer => inContainer a.key.containerId) &&
      f.capability.all (fun c => decide (a.capability.text = c)) &&
        f.logAttached.all fun attached => decide (db.logAttached a.agentId = attached)

/-! ## The four lists -/

inductive AppList where
  | pane | agent | event | queue
  deriving DecidableEq, Repr

open AppList (event)

namespace AppList

abbrev FilterSet : AppList → Type
  | .pane => PaneFilters
  | .agent => AgentFilters
  | .event => EventFilters
  | .queue => QueueFilters

abbrev Order : AppList → Type
  | .pane => PaneOrder
  | .agent => AgentOrder
  | .event => EventOrder
  | .queue => QueueOrder

abbrev View : AppList → Type
  | .pane => PaneView
  | .agent => AgentView
  | .event => EventView
  | .queue => QueueView

def orderBy : (m : AppList) → Option Json → Except Failure (OrderBy m.Order)
  | .pane => paneOrderBy
  | .agent => agentOrderBy
  | .event => eventOrderBy
  | .queue => queueOrderBy

def args (env : ListEnv) : (m : AppList) → ListParams →
    Except Failure (ListArgs m.FilterSet m.Order)
  | .pane, p => paneArgs p
  | .agent, p => agentArgs p
  | .event, p => eventArgs env p
  | .queue, p => queueArgs env p

def rows (env : ListEnv) (db : ListDb) : (m : AppList) → ListArgs m.FilterSet m.Order →
    Except Failure (List m.View)
  | .pane, a => .ok (paneRows db a)
  | .agent, a => agentRows db a
  | .event, a => eventRows env db a
  | .queue, a => queueRows env db a

def call (env : ListEnv) (stateDb : Option ListDb) : (m : AppList) → ListParams →
    Except Failure (ListPage m.View)
  | .pane, p => appPaneList env stateDb p
  | .agent, p => appAgentList env stateDb p
  | .event, p => appEventList env stateDb p
  | .queue, p => appQueueList env stateDb p

def matching (env : ListEnv) (db : ListDb) : (m : AppList) → m.FilterSet → List m.View
  | .pane, f => (db.panes.rows.filter (f.selects db)).map db.paneView
  | .agent, f => (db.agents.rows.filter (f.selects db)).map db.agentView
  | .event, f => (db.events.rows.filter (f.selects env)).map eventView
  | .queue, f => (db.messageQueue.rows.filter (f.selects env)).map queueView

end AppList

def ListParams.from (p : ListParams) (cursor : Option String) : ListParams :=
  { p with cursorNext := cursor.map Json.str }

theorem AppList.call_from (env : ListEnv) (db : ListDb) (m : AppList) (p : ListParams)
    (cursor : Option String) :
    m.call env (some db) (p.from cursor) =
      listPage env (m.args env p) (m.rows env db) (cursor.map Json.str) := by
  cases m <;> rfl

/-! ## What the checks leave -/

variable {value : Option Json} {raw : Filters} {α : Type}

theorem filtersObject_valid (hvalid : value.all Json.valid = true)
    (h : filtersObject value = .ok raw) : (Json.obj raw).valid = true := by
  have hempty : (Json.obj []).valid = true := rfl
  unfold filtersObject at h
  split at h
  · rw [← ok.inj h]
    exact hempty
  · rw [← ok.inj h]
    exact hvalid
  · split_ifs at h
    rw [← ok.inj h]
    exact hempty

theorem validateFiltersObject_eq_ok {entity : String} {allowed : List String}
    (h : validateFiltersObject entity allowed value = .ok raw) :
    filtersObject value = .ok raw := by
  obtain ⟨filters, hfilters, h⟩ := bind_eq_ok.mp h
  obtain ⟨_, -, h⟩ := bind_eq_ok.mp h
  obtain ⟨_, -, h⟩ := bind_eq_ok.mp h
  rw [hfilters, ok.inj h]

section Args

variable {env : ListEnv} {p : ListParams}

theorem AppList.args_eq_ok {m : AppList} {a : ListArgs m.FilterSet m.Order}
    (h : m.args env p = .ok a) :
    validateLimit p.limit = .ok a.limit ∧ m.orderBy p.orderBy = .ok a.order ∧
      filtersObject p.filters = .ok a.raw := by
  cases m
  all_goals
    obtain ⟨limit, hlimit, h⟩ := bind_eq_ok.mp h
    obtain ⟨order, horder, h⟩ := bind_eq_ok.mp h
    obtain ⟨raw, hraw, h⟩ := bind_eq_ok.mp h
    -- the filters that the method knows, one after the other
    repeat obtain ⟨_, -, h⟩ := bind_eq_ok.mp h
    rw [← ok.inj h]
  · exact ⟨hlimit, horder, hraw⟩
  · exact ⟨hlimit, horder, hraw⟩
  · exact ⟨hlimit, horder, validateFiltersObject_eq_ok hraw⟩
  · exact ⟨hlimit, horder, validateFiltersObject_eq_ok hraw⟩

end Args

/-! ## The rows are those that pass the filters -/

theorem sortRows_perm (cmp : α → α → Ordering) (direction : Direction) (rows : List α) :
    (sortRows cmp direction rows).Perm rows := by
  cases direction with
  | asc | desc => exact perm_insertionSort _ _

theorem filter_insertionSort_perm (r : α → α → Prop) [DecidableRel r] (p q : α → Bool)
    (rows : List α) :
    (((rows.filter p).insertionSort r).filter q).Perm (rows.filter fun a => p a && q a) := by
  have hfilter : (rows.filter p).filter q = rows.filter fun a => p a && q a := by
    rw [filter_filter]
    exact filter_congr fun a _ => Bool.and_comm _ _
  rw [← hfilter]
  exact (perm_insertionSort r (rows.filter p)).filter q

section Rows

variable (env : ListEnv) (db : ListDb)

theorem paneRows_perm (a : ListArgs PaneFilters PaneOrder) :
    (paneRows db a).Perm (AppList.pane.matching env db a.filters) :=
  (sortRows_perm _ _ _).trans ((filter_insertionSort_perm _ _ _ _).map db.paneView)

theorem agentRows_perm {a : ListArgs AgentFilters AgentOrder} {rows : List AgentView}
    (h : agentRows db a = .ok rows) : rows.Perm (AppList.agent.matching env db a.filters) := by
  unfold agentRows at h
  cases hrange : containerRange a.filters.containerId with
  | none =>
    rw [hrange] at h
    cases h
  | some inContainer =>
    rw [hrange] at h
    have hselects : a.filters.selects db = fun r =>
        (a.filters.roles.all (fun role => decide (r.role.text = role)) &&
          inContainer r.key.containerId) &&
        (a.filters.capability.all (fun c => decide (r.capability.text = c)) &&
          a.filters.logAttached.all fun attached =>
            decide (db.logAttached r.agentId = attached)) := by
      funext r
      simp only [AgentFilters.selects, hrange, Option.any_some, Bool.and_assoc]
    rw [← ok.inj h, AppList.matching, hselects]
    split
    · exact (sortRows_perm _ _ _).trans ((filter_insertionSort_perm _ _ _ _).map db.agentView)
    · exact (filter_insertionSort_perm _ _ _ _).map db.agentView

theorem AppList.rows_perm {m : AppList} {a : ListArgs m.FilterSet m.Order} {rows : List m.View}
    (h : m.rows env db a = .ok rows) : rows.Perm (m.matching env db a.filters) := by
  cases m with
  | pane =>
    rw [← ok.inj h]
    exact paneRows_perm env db a
  | agent => exact agentRows_perm env db h
  | event | queue =>
    obtain ⟨_, -, h⟩ := bind_eq_ok.mp h
    obtain ⟨_, -, h⟩ := bind_eq_ok.mp h
    rw [← ok.inj h]
    exact sortRows_perm _ _ _

end Rows

/-! ## Following the cursors -/

def AppList.page (env : ListEnv) (db : ListDb) (m : AppList) (p : ListParams)
    (cursor : Option String) : Except Failure (Page m.View String) :=
  (m.call env (some db) (p.from cursor)).map ListPage.toPage

section Call

variable {env : ListEnv} {db : ListDb} {m : AppList} {p : ListParams}

variable {cursor : Option String} {a : ListArgs m.FilterSet m.Order} {first : ListPage m.View}

theorem AppList.call_eq_ok {page : ListPage m.View}
    (h : m.call env (some db) (p.from cursor) = .ok page) :
    ∃ a offset rows, m.args env p = .ok a ∧
      decodeCursor env.toFloats a.order.canonical a.raw (cursor.map Json.str) = .ok offset ∧
      m.rows env db a = .ok rows ∧ page = paginate rows offset a.limit a.order.canonical a.raw := by
  rw [AppList.call_from] at h
  obtain ⟨a, ha, h⟩ := bind_eq_ok.mp h
  obtain ⟨offset, hoffset, h⟩ := bind_eq_ok.mp h
  obtain ⟨rows, hrows, h⟩ := bind_eq_ok.mp h
  exact ⟨a, offset, rows, ha, hoffset, hrows, (ok.inj h).symm⟩

theorem AppList.call_of_ok {offset : Nat} {rows : List m.View} (ha : m.args env p = .ok a)
    (hoffset : decodeCursor env.toFloats a.order.canonical a.raw (cursor.map Json.str) = .ok offset)
    (hrows : m.rows env db a = .ok rows) :
    m.call env (some db) (p.from cursor) =
      .ok (paginate rows offset a.limit a.order.canonical a.raw) := by
  rw [AppList.call_from, listPage, ha]
  show (decodeCursor _ _ _ _ >>= _) = _
  rw [hoffset]
  show (m.rows env db a >>= _) = _
  rw [hrows]
  rfl

theorem AppList.call_of_issued {rows : List m.View}
    (ha : m.args env p = .ok a) (hrows : m.rows env db a = .ok rows) {n : Nat} {cursor : String}
    (hcursor : encodeCursor n a.order.canonical a.raw = some cursor) :
    m.call env (some db) (p.from (some cursor)) =
      .ok (paginate rows n a.limit a.order.canonical a.raw) := by
  have hvalid := filtersObject_valid p.filters_valid (args_eq_ok ha).2.2
  have hoffset : decodeCursor env.toFloats a.order.canonical a.raw ((some cursor).map Json.str) =
      .ok n := decodeCursor_encodeCursor env.toFloats hvalid hcursor
  exact call_of_ok ha hoffset hrows

/-- A cursor that a call has issued is accepted by every call that has the same filters and order and
is accepted without it. -/
theorem AppList.issued_accepted {p' : ListParams} (hfilters : p'.filters = p.filters)
    (horder : p'.orderBy = p.orderBy) (hfirst : m.call env (some db) (p'.from none) = .ok first)
    {page : ListPage m.View} {next : String}
    (h : m.call env (some db) (p.from cursor) = .ok page) (hnext : page.cursorNext = some next) :
    ∃ page', m.call env (some db) (p'.from (some next)) = .ok page' := by
  obtain ⟨a, offset, rows, ha, -, -, rfl⟩ := call_eq_ok h
  obtain ⟨a', -, rows', ha', -, hrows', -⟩ := call_eq_ok hfirst
  have hslice : (Page.slice rows a.limit (encodeCursor · a.order.canonical a.raw) offset).cursorNext =
      some next := hnext
  obtain ⟨n, hn⟩ := Page.slice_cursorNext_eq_some hslice
  obtain ⟨-, hsameOrder, hsameRaw⟩ := args_eq_ok ha
  rw [← horder, (args_eq_ok ha').2.1] at hsameOrder
  rw [← hfilters, (args_eq_ok ha').2.2] at hsameRaw
  rw [← ok.inj hsameOrder, ← ok.inj hsameRaw] at hn
  exact ⟨_, call_of_issued ha' hrows' hn⟩

theorem AppList.page_first {rows : List m.View} (ha : m.args env p = .ok a)
    (hrows : m.rows env db a = .ok rows) :
    m.page env db p none =
      .ok (.slice rows a.limit (encodeCursor · a.order.canonical a.raw) 0) := by
  rw [AppList.page, AppList.call_of_ok ha rfl hrows]
  rfl

theorem AppList.page_issued {rows : List m.View} (ha : m.args env p = .ok a)
    (hrows : m.rows env db a = .ok rows) (n : Nat) (c : String)
    (hc : encodeCursor n a.order.canonical a.raw = some c) :
    m.page env db p (some c) =
      .ok (.slice rows a.limit (encodeCursor · a.order.canonical a.raw) n) := by
  rw [AppList.page, AppList.call_of_issued ha hrows hc]
  rfl

/-- Pages that have all the rows have needed every cursor. -/
theorem AppList.cursors_of_follow (haccepted : m.call env (some db) (p.from none) = .ok first)
    (hargs : m.args env p = .ok a) {fuel : Nat} {pages : List (Page m.View String)}
    (hpages : Page.follow (m.page env db p) fuel none = some pages)
    (hperm : (pages.flatMap Page.rows).Perm (m.matching env db a.filters))
    {k : Nat} (hpos : 0 < k) (hmore : k * a.limit < (m.matching env db a.filters).length) :
    (encodeCursor (k * a.limit) a.order.canonical a.raw).isSome = true := by
  obtain ⟨a', -, rows, ha, -, hrows, -⟩ := AppList.call_eq_ok haccepted
  obtain rfl : a' = a := ok.inj (ha.symm.trans hargs)
  rw [← (AppList.rows_perm env db hrows).length_eq] at hmore
  have hlength := hperm.length_eq.trans (AppList.rows_perm env db hrows).length_eq.symm
  have hcursor := Page.cursor_of_follow (page_issued hargs hrows) (page_first hargs hrows) hpages
    hlength hpos (by rwa [Nat.zero_add])
  rwa [Nat.zero_add] at hcursor

/-- Every cursor that is issued is accepted; and every row that passes the filters is on exactly one
page, exactly if the cursors between the pages exist. -/
theorem list_pages_complete {first : ListPage m.View}
    (haccepted : m.call env (some db) (p.from none) = .ok first)
    {a : ListArgs m.FilterSet m.Order} (hargs : m.args env p = .ok a) :
    (∀ p' : ListParams, p'.filters = p.filters → p'.orderBy = p.orderBy →
      ∀ first', m.call env (some db) (p'.from none) = .ok first' →
      ∀ cursor page next, m.call env (some db) (p.from cursor) = .ok page →
        page.cursorNext = some next →
        ∃ page', m.call env (some db) (p'.from (some next)) = .ok page') ∧
    ((∃ pages, Page.follow (m.page env db p) ((m.matching env db a.filters).length + 1) none =
          some pages ∧
        (pages.flatMap Page.rows).Perm (m.matching env db a.filters)) ↔
      ∀ k, 0 < k → k * a.limit < (m.matching env db a.filters).length →
        (encodeCursor (k * a.limit) a.order.canonical a.raw).isSome = true) := by
  refine ⟨?_, ?_, fun hcursors => ?_⟩
  · intro p' hfilters horder first' hfirst cursor page next hcall hnext
    exact AppList.issued_accepted hfilters horder hfirst hcall hnext
  · rintro ⟨pages, hpages, hperm⟩ k hpos hmore
    exact AppList.cursors_of_follow haccepted hargs hpages hperm hpos hmore
  · obtain ⟨a', offset, rows, ha, -, hrows, -⟩ := AppList.call_eq_ok haccepted
    obtain rfl : a' = a := ok.inj (ha.symm.trans hargs)
    have hperm := AppList.rows_perm env db hrows
    rw [← hperm.length_eq] at hcursors ⊢
    obtain ⟨pages, hpages, hall⟩ : ∃ pages, Page.follow (m.page env db p) (rows.length + 1) none =
        some pages ∧ pages.flatMap Page.rows = rows.drop 0 :=
      Page.follow_complete (validateLimit_pos (AppList.args_eq_ok hargs).1)
        (AppList.page_issued hargs hrows) (Nat.zero_le _) (by omega) (AppList.page_first hargs hrows)
        (by simpa only [Nat.zero_add] using hcursors)
    exact ⟨pages, hpages, by rw [hall]; exact hperm⟩

end Call

/-! ## Three events, a page each -/

def exampleEnv : ListEnv where
  eq v w :=
    match v, w with
    | .float s, .float t => decide (s = t)
    | _, _ => false
  gt _ _ := false
  eq_self _ := by simp
  sqlText := some

def exampleDb : ListDb where
  containers := Table.empty
  panes := Table.empty
  agents := Table.empty
  logAttachments := Table.empty
  events :=
    ⟨[⟨1, "error", "agt_1", "2026-05-01T10:00:00Z", "", none⟩,
      ⟨2, "activity", "agt_1", "2026-05-01T10:00:01Z", "", none⟩,
      ⟨3, "error", "agt_2", "2026-05-01T10:00:02Z", "", none⟩],
      by decide, by decide, by decide⟩
  messageQueue := Table.empty

def errorsParams : ListParams :=
  ⟨some (.int 1), none, some (.obj [("event_type", .str "error")]), none, by decide⟩

def errorsArgs : ListArgs EventFilters EventOrder :=
  ⟨1, ⟨.eventId, .desc, "event_id:desc"⟩, [("event_type", .str "error")],
    ⟨some "error", none, none, none⟩⟩

theorem list_pages_complete_errors :
    ∃ first, event.call exampleEnv (some exampleDb) (errorsParams.from none) = .ok first ∧
      event.args exampleEnv errorsParams = .ok errorsArgs ∧
      ∃ pages, Page.follow (event.page exampleEnv exampleDb errorsParams) 3 none = some pages ∧
        (pages.flatMap Page.rows).Perm
          (event.matching exampleEnv exampleDb errorsArgs.filters) := by
  have hcursor : (encodeCursor 1 "event_id:desc" errorsArgs.raw).isSome = true := by decide +kernel
  have hlength :
      (event.matching exampleEnv exampleDb errorsArgs.filters).length = 2 := by decide +kernel
  have hneeded : ∀ k, 0 < k →
      k * errorsArgs.limit < (event.matching exampleEnv exampleDb errorsArgs.filters).length →
      (encodeCursor (k * errorsArgs.limit) errorsArgs.order.canonical errorsArgs.raw).isSome =
        true := by
    intro k hpos hlt
    rw [hlength] at hlt
    obtain rfl : k = 1 := by
      change k * 1 < 2 at hlt
      omega
    exact hcursor
  obtain ⟨first, hfirst⟩ : ∃ first, event.call exampleEnv (some exampleDb)
      (errorsParams.from none) = .ok first := ⟨_, rfl⟩
  have hargs : event.args exampleEnv errorsParams = .ok errorsArgs := rfl
  have hcomplete := (list_pages_complete hfirst hargs).2.mpr hneeded
  rw [hlength] at hcomplete
  exact ⟨first, hfirst, hargs, hcomplete⟩

def lateText : String := String.ofList (List.replicate 33 '😀')

def lateParams : ListParams :=
  ⟨some (.int 1), none, some (.obj [("until", .str lateText)]), none, by decide⟩

/-- All three events are before the text, and a client that asks for one at a time gets one. -/
theorem long_filter_ends_list :
    ∃ first a, event.call exampleEnv (some exampleDb) (lateParams.from none) = .ok first ∧
      event.args exampleEnv lateParams = .ok a ∧
      ∀ fuel pages,
        Page.follow (event.page exampleEnv exampleDb lateParams) fuel none = some pages →
        ¬ (pages.flatMap Page.rows).Perm (event.matching exampleEnv exampleDb a.filters) := by
  have hlong : 384 < (Json.str lateText).dumps.length := by decide +kernel
  obtain ⟨first, hfirst, -⟩ : ∃ first, event.call exampleEnv (some exampleDb)
      (lateParams.from none) = .ok first ∧ True := by decide +kernel
  obtain ⟨a, hargs, hlimit, hlength⟩ : ∃ a, event.args exampleEnv lateParams = .ok a ∧ a.limit = 1 ∧
      (event.matching exampleEnv exampleDb a.filters).length = 3 := by decide +kernel
  have hraw : [("until", Json.str lateText)] = a.raw := ok.inj (AppList.args_eq_ok hargs).2.2
  have hfilter : ("until", Json.str lateText) ∈ a.raw := by
    rw [← hraw]
    exact mem_singleton_self _
  refine ⟨first, a, hfirst, hargs, fun fuel pages hpages hperm => ?_⟩
  have hcursor := AppList.cursors_of_follow hfirst hargs hpages hperm Nat.one_pos
    (by rw [hlimit, hlength]; omega)
  rw [encodeCursor_of_long_filter hfilter hlong] at hcursor
  cases hcursor

end AgentTower.App
