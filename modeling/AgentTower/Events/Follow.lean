import AgentTower.Lib.Run
import AgentTower.Lib.Watermark
import AgentTower.Routing.RouteRules
import Mathlib.Algebra.Group.Nat.Defs

/-!
# Following events

`events.follow_open` and `events.follow_next` of one client against the `events` table, into which
other connections insert at any time.  The pages are cut in the order of the observation times, the
watermark is an id: the two agree as long as the unread events were inserted in the order of their
times.
-/

namespace AgentTower.Events

open Transition Fallible List
open Routing (EventType)

/-! ## The table -/

/-- A row of `events` in the columns that the queries look at. -/
structure StoredEvent where
  eventId : Nat
  eventType : EventType
  agentId : String
  byteRangeStart : Option Nat
  observedAt : String
  deriving DecidableEq, Repr

/-- The ids are given by `AUTOINCREMENT`. -/
structure EventTable where
  rows : List StoredEvent
  ordered : rows.Pairwise fun a b => a.eventId < b.eventId
  positive : ∀ e ∈ rows, 0 < e.eventId

namespace EventTable

def empty : EventTable := ⟨[], List.Pairwise.nil, fun _ h => absurd h not_mem_nil⟩

variable (t : EventTable)

/-- `SELECT COALESCE(MAX(event_id), 0)`. -/
def maxEventId : Nat := t.rows.foldr (fun e greatest => max e.eventId greatest) 0

theorem le_maxEventId {e : StoredEvent} (h : e ∈ t.rows) : e.eventId ≤ t.maxEventId := by
  unfold maxEventId
  generalize t.rows = rows at h ⊢
  induction rows with
  | nil => cases h
  | cons first rest ih =>
    rw [foldr_cons]
    rcases mem_cons.mp h with rfl | h
    · exact Nat.le_max_left _ _
    · exact Nat.le_trans (ih h) (Nat.le_max_right _ _)

def next (e : StoredEvent) : StoredEvent := { e with eventId := t.maxEventId + 1 }

def insert (e : StoredEvent) : EventTable where
  rows := t.rows ++ [t.next e]
  ordered := by
    refine pairwise_append.mpr ⟨t.ordered, pairwise_singleton _ _, fun a ha b hb => ?_⟩
    rw [mem_singleton.mp hb]
    exact Nat.lt_succ_of_le (t.le_maxEventId ha)
  positive := by
    intro a ha
    rcases mem_append.mp ha with ha | ha
    · exact t.positive a ha
    · rw [mem_singleton.mp ha]
      exact Nat.succ_pos _

theorem maxEventId_le {b : Nat} (h : ∀ e ∈ t.rows, e.eventId ≤ b) : t.maxEventId ≤ b := by
  unfold maxEventId
  generalize t.rows = rows at h ⊢
  induction rows with
  | nil => exact Nat.zero_le b
  | cons first rest ih =>
    rw [foldr_cons]
    exact Nat.max_le.mpr ⟨h first mem_cons_self, ih fun e he => h e (mem_cons_of_mem _ he)⟩

theorem maxEventId_insert (e : StoredEvent) : t.maxEventId ≤ (t.insert e).maxEventId := by
  have hlast : (t.next e).eventId ≤ (t.insert e).maxEventId :=
    le_maxEventId _ (mem_append_right _ mem_cons_self)
  have hnext : (t.next e).eventId = t.maxEventId + 1 := rfl
  omega

end EventTable

/-! ## `select_events` -/

structure EventFilter where
  targetAgentId : Option String
  types : List EventType
  sinceIso : Option String
  untilIso : Option String
  deriving DecidableEq, Repr

def EventFilter.selects (f : EventFilter) (e : StoredEvent) : Bool :=
  f.targetAgentId.all (fun target => decide (e.agentId = target)) &&
    (f.types.isEmpty || decide (e.eventType ∈ f.types)) &&
    f.sinceIso.all (fun since => !decide (e.observedAt < since)) &&
    f.untilIso.all (fun before => decide (e.observedAt < before))

/-- `COALESCE(byte_range_start, -1)`. -/
def StoredEvent.byteStart (e : StoredEvent) : Int := e.byteRangeStart.elim (-1) Int.ofNat

def StoredEvent.Before (a b : StoredEvent) : Prop :=
  a.observedAt < b.observedAt ∨ a.observedAt = b.observedAt ∧
    (a.byteStart < b.byteStart ∨ a.byteStart = b.byteStart ∧ a.eventId ≤ b.eventId)

open StoredEvent (Before eventId)

instance (a b : StoredEvent) : Decidable (a.Before b) :=
  inferInstanceAs (Decidable (a.observedAt < b.observedAt ∨ a.observedAt = b.observedAt ∧
    (a.byteStart < b.byteStart ∨ a.byteStart = b.byteStart ∧ a.eventId ≤ b.eventId)))

/-- A decoded cursor; older ones have no sort key. -/
structure Cursor where
  eventId : Nat
  reverse : Bool
  sortKey : Option (String × Int)
  deriving DecidableEq, Repr

def Cursor.past (c : Cursor) (e : StoredEvent) : Bool :=
  match c.sortKey, c.reverse with
  | none, false => decide (c.eventId < e.eventId)
  | none, true => decide (e.eventId < c.eventId)
  | some (observedAt, byteStart), false =>
    decide (observedAt < e.observedAt ∨ (e.observedAt = observedAt ∧ byteStart < e.byteStart) ∨
      (e.observedAt = observedAt ∧ e.byteStart = byteStart ∧ c.eventId < e.eventId))
  | some (observedAt, byteStart), true =>
    decide (e.observedAt < observedAt ∨ (e.observedAt = observedAt ∧ e.byteStart < byteStart) ∨
      (e.observedAt = observedAt ∧ e.byteStart = byteStart ∧ e.eventId < c.eventId))

inductive SelectError where
  | valueError (message : String)
  | cursorError (message : String)
  deriving DecidableEq, Repr

def maxSafeCursorEventId : Nat := 2 ^ 53 - 1

/-- The checks of `encode_cursor`; the text of a cursor is its encoding. -/
def encodeCursor (c : Cursor) : Except SelectError Cursor :=
  if c.eventId = 0 then
    .error (.cursorError ("event_id must be > 0, got " ++ toString c.eventId))
  else if maxSafeCursorEventId < c.eventId then
    .error (.cursorError ("event_id " ++ toString c.eventId ++ " exceeds safe-cursor range (" ++
      toString maxSafeCursorEventId ++ ")"))
  else
    match c.sortKey with
    | none => .ok c
    | some (observedAt, byteStart) =>
      if observedAt = "" then .error (.cursorError "observed_at must be a non-empty string")
      else if byteStart < -1 then
        .error (.cursorError "byte_range_start must be >= -1 (-1 is the audit-row sentinel)")
      else .ok c

structure EventPage where
  rows : List StoredEvent
  nextCursor : Option Cursor
  deriving DecidableEq, Repr

def wrongDirection : String :=
  "cursor direction does not match query direction; cursors are single-direction " ++
  "(encode forward → use forward; encode reverse → use reverse)"

def OrderBy (reverse : Bool) (a b : StoredEvent) : Prop :=
  if reverse then b.Before a else a.Before b

instance (reverse : Bool) : DecidableRel (OrderBy reverse) := fun a b =>
  inferInstanceAs (Decidable (if reverse then b.Before a else a.Before b))

def selected (rows : List StoredEvent) (f : EventFilter) (cursor : Option Cursor) (reverse : Bool) :
    List StoredEvent :=
  (rows.filter fun e => f.selects e && cursor.all fun c => c.past e).insertionSort (OrderBy reverse)

def selectEvents (rows : List StoredEvent) (f : EventFilter) (cursor : Option Cursor) (limit : Nat)
    (reverse : Bool) : Except SelectError EventPage :=
  if limit = 0 then .error (.valueError ("limit must be > 0; got " ++ toString limit))
  else if cursor.any fun c => c.reverse != reverse then .error (.cursorError wrongDirection)
  else
    let page := (selected rows f cursor reverse).take limit
    -- one row more than the page is fetched to see if there is another one
    if limit < (selected rows f cursor reverse).length then
      match page.getLast? with
      | none => .ok ⟨page, none⟩
      | some last =>
        (encodeCursor ⟨last.eventId, reverse, some (last.observedAt, last.byteStart)⟩).map
          fun next => ⟨page, some next⟩
    else .ok ⟨page, none⟩

/-! ## The session -/

def eventsDefaultTypes : List EventType :=
  [.activity, .completed, .error, .longRunning, .manualReviewNeeded, .paneExited,
    .swarmMemberReported, .testFailed, .testPassed, .waitingForInput]

def orDefaultTypes (types : List EventType) : List EventType :=
  if types.isEmpty then eventsDefaultTypes else types

/-- The request of the open, with the configured page size.  `instant` is the time that a text with an
offset stands for; no query asks for it. -/
structure FollowRequest where
  target : Option String
  types : List EventType
  since : Option String
  instant : String → Int
  defaultPageSize : Nat
  /-- The configuration is checked when it is loaded. -/
  defaultPageSize_pos : 0 < defaultPageSize

structure FollowSession where
  targetAgentId : Option String
  typeFilter : List EventType
  sinceIso : Option String
  lastEmittedEventId : Nat
  liveStartingEventId : Nat
  deriving DecidableEq, Repr

inductive FollowPhase where
  | unopened
  | opening (liveStarting : Nat)
  | following (session : FollowSession)
  | closed
  deriving DecidableEq, Repr

/-- `backlog` and `pages` are what the client has been sent. -/
structure FollowState where
  table : EventTable
  phase : FollowPhase
  backlog : List StoredEvent
  pages : List (List StoredEvent)

namespace FollowState

def start (t : EventTable) : FollowState := ⟨t, .unopened, [], []⟩

def delivered (s : FollowState) : List StoredEvent := s.backlog ++ s.pages.flatten

end FollowState

namespace FollowRequest

def liveFilter (q : FollowRequest) : EventFilter := ⟨q.target, orDefaultTypes q.types, none, none⟩

def backlogFilter (q : FollowRequest) (since : String) : EventFilter :=
  ⟨q.target, orDefaultTypes q.types, some since, none⟩

def selectBacklog (q : FollowRequest) (t : EventTable) : Except SelectError (List StoredEvent) :=
  match q.since with
  | none => .ok []
  | some since =>
    (selectEvents t.rows (q.backlogFilter since) none q.defaultPageSize false).map EventPage.rows

def session (q : FollowRequest) (liveStarting : Nat) : FollowSession :=
  ⟨q.target, orDefaultTypes q.types, q.since, 0, liveStarting⟩

end FollowRequest

namespace FollowSession

def lowerBound (x : FollowSession) : Nat := max x.lastEmittedEventId x.liveStartingEventId

/-- `since` is for the backlog only. -/
def filter (x : FollowSession) : EventFilter :=
  ⟨x.targetAgentId, orDefaultTypes x.typeFilter, none, none⟩

def cursor (x : FollowSession) : Except SelectError (Option Cursor) :=
  if 0 < x.lowerBound then (encodeCursor ⟨x.lowerBound, false, none⟩).map some else .ok none

/-- One pass of the loop of `follow_next`. -/
def poll (x : FollowSession) (t : EventTable) (pageSize : Nat) :
    Except SelectError (List StoredEvent) := do
  let cursor ← x.cursor
  let page ← selectEvents t.rows x.filter cursor pageSize false
  pure page.rows

end FollowSession

def FollowSession.emitted (x : FollowSession) (last : StoredEvent) : FollowSession :=
  { x with lastEmittedEventId := last.eventId }

def FollowState.sent (s : FollowState) (x : FollowSession) (page : List StoredEvent)
    (last : StoredEvent) : FollowState :=
  { s with phase := .following (x.emitted last), pages := s.pages ++ [page] }

inductive FollowLabel where
  | insert (e : StoredEvent)
  | readMax
  | openSession
  | poll
  | close
  deriving Repr

/-- `readMax` and `openSession` are the two statements of `follow_open`; a poll that finds nothing
waits or ends the call without events.  The session ends by `follow_close`, by expiring or with the
daemon. -/
def followStep (q : FollowRequest) (s : FollowState) : FollowLabel → Option FollowState
  | .insert e => some { s with table := s.table.insert e }
  | .readMax =>
    match s.phase with
    | .unopened => some { s with phase := .opening s.table.maxEventId }
    | _ => none
  | .openSession =>
    match s.phase with
    | .opening liveStarting =>
      match q.selectBacklog s.table with
      -- no session has been registered
      | .error _ => some { s with phase := .unopened }
      | .ok backlog =>
        some { s with phase := .following (q.session liveStarting), backlog }
    | _ => none
  | .poll =>
    match s.phase with
    | .following x =>
      match x.poll s.table q.defaultPageSize with
      | .error _ => some s
      | .ok page =>
        match page.getLast? with
        | none => some s
        | some last => some (s.sent x page last)
    | _ => none
  | .close => some { s with phase := .closed }

/-- Matching events are those at or after `since` in time, and those inserted after the open. -/
def FollowRequest.wants (q : FollowRequest) (liveStarting : Nat) (e : StoredEvent) : Bool :=
  q.liveFilter.selects e && (decide (liveStarting < e.eventId) ||
    q.since.any fun since => decide (q.instant since ≤ q.instant e.observedAt))

namespace FollowState

def wanted (q : FollowRequest) (s : FollowState) (x : FollowSession) : List StoredEvent :=
  s.table.rows.filter (q.wants x.liveStartingEventId)

def pending (s : FollowState) (x : FollowSession) : List StoredEvent :=
  s.table.rows.filter fun e => x.filter.selects e && decide (x.lowerBound < e.eventId)

end FollowState

open FollowState (pending start wanted)

/-- The texts are ordered as the times are. -/
def FollowRequest.sinceAgrees (q : FollowRequest) (since : String) (e : StoredEvent) : Bool :=
  decide (e.observedAt < since) == decide (q.instant e.observedAt < q.instant since)

/-- When the open reads the backlog, it is at most a page, none of it was inserted after the greatest id
was read, and `since` is written such that it can be compared with the older events. -/
def FollowRequest.backlogFits (q : FollowRequest) (t : EventTable) (liveStarting : Nat) : Bool :=
  q.since.all fun since =>
    decide ((t.rows.filter (q.backlogFilter since).selects).length ≤ q.defaultPageSize) &&
      ((t.rows.filter (q.backlogFilter since).selects).all fun e => decide (e.eventId ≤ liveStarting)) &&
      (t.rows.filter q.liveFilter.selects).all fun e =>
        !decide (e.eventId ≤ liveStarting) || q.sinceAgrees since e

/-- And when a poll reads, the unread events were inserted in the order of their times. -/
def followAllowed (q : FollowRequest) (s : FollowState) : FollowLabel → Bool
  | .openSession =>
    match s.phase with
    | .opening liveStarting => q.backlogFits s.table liveStarting
    | _ => true
  | .poll =>
    match s.phase with
    | .following x => decide ((s.pending x).Pairwise Before)
    | _ => true
  | .insert _ | .readMax | .close => true

variable {q : FollowRequest} {s s' : FollowState} {x : FollowSession}

/-! ## The queries -/

variable {rows backlog : List StoredEvent} {f : EventFilter} {limit liveStarting : Nat}
  {reverse : Bool} {e : StoredEvent}

theorem selectEvents_rows {cursor : Option Cursor} {page : EventPage}
    (h : selectEvents rows f cursor limit reverse = .ok page) :
    page.rows = (selected rows f cursor reverse).take limit := by
  unfold selectEvents at h
  split_ifs at h with hlimit hdirection hmore
  · simp only at h
    split at h
    · cases h
      rfl
    · obtain ⟨next, -, rfl⟩ := map_eq_ok.mp h
      rfl
  · cases h
    rfl

def StoredEvent.Encodable (e : StoredEvent) : Prop :=
  e.eventId ≤ maxSafeCursorEventId ∧ e.observedAt ≠ ""

instance (e : StoredEvent) : Decidable e.Encodable :=
  inferInstanceAs (Decidable (e.eventId ≤ maxSafeCursorEventId ∧ e.observedAt ≠ ""))

theorem neg_one_le_byteStart (e : StoredEvent) : ¬ e.byteStart < -1 := by
  unfold StoredEvent.byteStart
  cases e.byteRangeStart with
  | none => decide
  | some n =>
    have hn : (0 : Int) ≤ Int.ofNat n := Int.natCast_nonneg n
    show ¬ Int.ofNat n < -1
    omega

theorem encodeCursor_of_encodable (h : e.Encodable) (hpos : 0 < e.eventId) (reverse : Bool) :
    ∃ c, encodeCursor ⟨e.eventId, reverse, some (e.observedAt, e.byteStart)⟩ = .ok c := by
  unfold encodeCursor
  simp only
  rw [if_neg (Nat.ne_of_gt hpos), if_neg (Nat.not_lt.mpr h.1), if_neg h.2,
    if_neg (neg_one_le_byteStart e)]
  exact ⟨_, rfl⟩

theorem selectEvents_succeeds {cursor : Option Cursor} (hlimit : 0 < limit)
    (hcursor : cursor.any (fun c => c.reverse != reverse) = false)
    (hrows : ∀ e ∈ rows, e.Encodable ∧ 0 < e.eventId) :
    ∃ page, selectEvents rows f cursor limit reverse = .ok page := by
  unfold selectEvents
  rw [if_neg (Nat.ne_of_gt hlimit), if_neg (by rw [hcursor]; decide)]
  simp only
  split
  · split
    · exact ⟨_, rfl⟩
    · rename_i last hlast
      have hmem : last ∈ rows :=
        (mem_filter.mp ((mem_insertionSort _).mp (mem_of_mem_take (mem_of_getLast? hlast)))).1
      obtain ⟨c, hc⟩ := encodeCursor_of_encodable (hrows last hmem).1 (hrows last hmem).2 reverse
      rw [hc]
      exact ⟨_, rfl⟩
  · exact ⟨_, rfl⟩

theorem past_cursor {x : FollowSession} {cursor : Option Cursor} (h : x.cursor = .ok cursor)
    (hpos : 0 < e.eventId) :
    (cursor.all fun c => c.past e) = decide (x.lowerBound < e.eventId) := by
  unfold FollowSession.cursor encodeCursor at h
  split_ifs at h with hbound hzero hsafe <;> cases h
  · rfl
  · have hzero : x.lowerBound = 0 := Nat.eq_zero_of_not_pos hbound
    rw [hzero]
    exact (decide_eq_true hpos).symm

theorem poll_rows {page : List StoredEvent} (h : x.poll s.table q.defaultPageSize = .ok page) :
    page = ((s.pending x).insertionSort (OrderBy false)).take q.defaultPageSize := by
  unfold FollowSession.poll at h
  obtain ⟨cursor, hcursor, h⟩ := bind_eq_ok.mp h
  obtain ⟨found, hfound, h⟩ := bind_eq_ok.mp h
  cases h
  have hpending : (s.table.rows.filter fun e =>
      x.filter.selects e && cursor.all fun c => c.past e) = s.pending x :=
    filter_congr fun e he => by rw [past_cursor hcursor (s.table.positive e he)]
  rw [selectEvents_rows hfound, selected, hpending]

theorem poll_succeeds (q : FollowRequest) (hrows : ∀ e ∈ s.table.rows, e.Encodable)
    (hbound : x.lowerBound ≤ maxSafeCursorEventId) :
    ∃ page, x.poll s.table q.defaultPageSize = .ok page := by
  have hcursor : ∃ cursor, x.cursor = .ok cursor ∧
      cursor.any (fun c => c.reverse != false) = false := by
    unfold FollowSession.cursor encodeCursor
    split
    · rename_i hpos
      simp only
      rw [if_neg (Nat.ne_of_gt hpos), if_neg (Nat.not_lt.mpr hbound)]
      exact ⟨_, rfl, rfl⟩
    · exact ⟨none, rfl, rfl⟩
  obtain ⟨cursor, hcursor, hdirection⟩ := hcursor
  obtain ⟨found, hfound⟩ := selectEvents_succeeds (f := x.filter) q.defaultPageSize_pos hdirection
    fun e he => ⟨hrows e he, s.table.positive e he⟩
  refine ⟨found.rows, ?_⟩
  unfold FollowSession.poll
  rw [bind_of_ok hcursor, bind_of_ok hfound]
  rfl

/-! ## The invariant -/

/-- What the client has been sent is what is wanted up to the watermark. -/
structure FollowingInv (q : FollowRequest) (s : FollowState) (x : FollowSession) : Prop where
  filter : x.filter = q.liveFilter
  bound : x.lowerBound ≤ s.table.maxEventId
  split : ∃ seen rest, Watermark.Split eventId (s.wanted q x) x.lowerBound seen rest ∧
    s.delivered.Perm seen

def FollowInv (q : FollowRequest) (s : FollowState) : Prop :=
  match s.phase with
  | .unopened => s.delivered = []
  | .opening liveStarting => s.delivered = [] ∧ liveStarting ≤ s.table.maxEventId
  | .following x => FollowingInv q s x
  | .closed => True

theorem pending_eq (hfilter : x.filter = q.liveFilter) {seen rest : List StoredEvent}
    (h : Watermark.Split eventId (s.wanted q x) x.lowerBound seen rest) :
    s.pending x = rest := by
  rw [← h.filter_lt, wanted, filter_filter, pending, hfilter]
  refine filter_congr fun e _ => ?_
  unfold FollowRequest.wants
  by_cases hbound : x.lowerBound < e.eventId
  · -- above the bound everything is live, whatever `since` says
    have hlive : x.liveStartingEventId < e.eventId :=
      Nat.lt_of_le_of_lt (Nat.le_max_right _ _) hbound
    simp [hbound, hlive]
  · simp [hbound]

theorem ordered_wanted (q : FollowRequest) (s : FollowState) (x : FollowSession) :
    (s.wanted q x).Pairwise fun a b => a.eventId < b.eventId :=
  s.table.ordered.filter _

theorem FollowingInv.insert (h : FollowingInv q s x) (e : StoredEvent) :
    FollowingInv q { s with table := s.table.insert e } x := by
  obtain ⟨seen, rest, hsplit, hperm⟩ := h.split
  refine ⟨h.filter, Nat.le_trans h.bound (s.table.maxEventId_insert e), seen, ?_⟩
  have hwanted : ({ s with table := s.table.insert e } : FollowState).wanted q x
      = s.wanted q x ++ [s.table.next e].filter (q.wants x.liveStartingEventId) :=
    filter_append ..
  refine ⟨_, hwanted ▸ hsplit.grow fun a ha => ?_, hperm⟩
  rw [mem_singleton.mp (mem_filter.mp ha).1]
  exact Nat.lt_succ_of_le h.bound

theorem FollowingInv.page (h : FollowingInv q s x) {page rest' : List StoredEvent}
    {last : StoredEvent} (hpending : s.pending x = page ++ rest')
    (hlast : page.getLast? = some last) :
    FollowingInv q (s.sent x page last) (x.emitted last) ∧
      (s.sent x page last).pending (x.emitted last) = rest' := by
  obtain ⟨seen, rest, hsplit, hperm⟩ := h.split
  have hrest : rest = page ++ rest' := (pending_eq h.filter hsplit).symm.trans hpending
  subst hrest
  -- ids and pages are in the same order, so the last event of the page is the new watermark
  have hordered := (ordered_wanted q s x).sublist hsplit.rest_sublist
  have hmem : last ∈ s.pending x := by
    rw [hpending]
    exact mem_append_left _ (mem_of_getLast? hlast)
  have hlive : x.liveStartingEventId ≤ last.eventId := by
    have hlt : x.lowerBound < last.eventId := hsplit.lt_rest last (hpending ▸ hmem)
    exact Nat.le_of_lt (Nat.lt_of_le_of_lt (Nat.le_max_right _ _) hlt)
  have hbound : (x.emitted last).lowerBound = last.eventId := Nat.max_eq_left hlive
  have hfilter : (x.emitted last).filter = q.liveFilter := h.filter
  have hadvance : Watermark.Split eventId
      ((s.sent x page last).wanted q (x.emitted last)) (x.emitted last).lowerBound (seen ++ page)
      rest' := by
    rw [hbound]
    exact hsplit.advance hordered hlast
  refine ⟨⟨hfilter, ?_, seen ++ page, rest', hadvance, ?_⟩, pending_eq hfilter hadvance⟩
  · rw [hbound]
    exact s.table.le_maxEventId (mem_filter.mp hmem).1
  · show (s.backlog ++ (s.pages ++ [page]).flatten).Perm (seen ++ page)
    rw [flatten_append, flatten_singleton, ← append_assoc]
    exact hperm.append_right page

theorem orDefaultTypes_idem (types : List EventType) :
    orDefaultTypes (orDefaultTypes types) = orDefaultTypes types := by
  cases types with
  | nil => rfl
  | cons => rfl

theorem selects_backlogFilter (q : FollowRequest) (since : String) (e : StoredEvent) :
    (q.backlogFilter since).selects e
      = (q.liveFilter.selects e && !decide (e.observedAt < since)) := by
  simp only [EventFilter.selects, FollowRequest.backlogFilter, FollowRequest.liveFilter,
    Option.all_none, Option.all_some, Bool.and_true]
  rfl

theorem backlog_perm (hfits : q.backlogFits s.table liveStarting = true)
    (hbacklog : q.selectBacklog s.table = .ok backlog) :
    backlog.Perm (s.table.rows.filter fun e =>
      decide (e.eventId ≤ liveStarting) && q.wants liveStarting e) := by
  unfold FollowRequest.selectBacklog at hbacklog
  unfold FollowRequest.backlogFits at hfits
  cases hsince : q.since with
  | none =>
    simp only [hsince] at hbacklog
    cases hbacklog
    have hnone : (s.table.rows.filter fun e =>
        decide (e.eventId ≤ liveStarting) && q.wants liveStarting e) = [] := by
      refine filter_eq_nil_iff.mpr fun e _ => ?_
      simp only [FollowRequest.wants, hsince, Option.any_none, Bool.or_false, Bool.and_eq_true,
        decide_eq_true_eq, not_and]
      omega
    rw [hnone]
  | some since =>
    simp only [hsince] at hbacklog
    simp only [hsince, Option.all_some, Bool.and_eq_true, decide_eq_true_eq, all_eq_true] at hfits
    obtain ⟨⟨hlength, hbefore⟩, hagrees⟩ := hfits
    obtain ⟨page, hpage, rfl⟩ := map_eq_ok.mp hbacklog
    have hselected : selected s.table.rows (q.backlogFilter since) none false
        = (s.table.rows.filter (q.backlogFilter since).selects).insertionSort (OrderBy false) := by
      simp only [selected, Option.all_none, Bool.and_true]
    -- the limit cuts nothing off, so the page is the whole selection in another order
    rw [selectEvents_rows hpage, hselected, take_of_length_le]
    · refine (perm_insertionSort _ _).trans (List.Perm.of_eq (filter_congr fun e he => ?_))
      by_cases hle : e.eventId ≤ liveStarting
      · rw [selects_backlogFilter, FollowRequest.wants, hsince, decide_eq_true hle,
          decide_eq_false (Nat.not_lt.mpr hle), Option.any_some, Bool.false_or, Bool.true_and]
        cases hselects : q.liveFilter.selects e with
        | false => rfl
        | true =>
          have hagree := hagrees e (mem_filter.mpr ⟨he, hselects⟩)
          rw [decide_eq_true hle, Bool.not_true, Bool.false_or] at hagree
          rw [eq_of_beq hagree, Bool.true_and, Bool.true_and, ← decide_not]
          exact decide_eq_decide.mpr Int.not_lt
      · -- such a row would have come after the greatest id was read
        rw [decide_eq_false hle, Bool.false_and]
        exact Bool.eq_false_iff.mpr fun hin => hle (hbefore e (mem_filter.mpr ⟨he, hin⟩))
    · rw [length_insertionSort]
      exact hlength

theorem FollowingInv.opened
    (hdelivered : s.delivered = []) (hlive : liveStarting ≤ s.table.maxEventId)
    (hfits : q.backlogFits s.table liveStarting = true)
    (hbacklog : q.selectBacklog s.table = .ok backlog) :
    FollowingInv q
      { s with phase := .following (q.session liveStarting), backlog }
      (q.session liveStarting) := by
  have hbound : (q.session liveStarting).lowerBound = liveStarting := Nat.zero_max _
  have hpages : s.pages.flatten = [] := (append_eq_nil_iff.mp hdelivered).2
  refine ⟨?_, ?_, _, _, Watermark.Split.of_ordered (ordered_wanted q _ _) _, ?_⟩
  · simp only [FollowSession.filter, FollowRequest.session, FollowRequest.liveFilter,
      orDefaultTypes_idem]
  · rw [hbound]
    exact hlive
  · rw [hbound]
    show (backlog ++ s.pages.flatten).Perm
      ((s.table.rows.filter (q.wants liveStarting)).filter fun e => decide (e.eventId ≤ liveStarting))
    rw [hpages, append_nil, filter_filter]
    exact backlog_perm hfits hbacklog

theorem poll_in_order (hordered : (s.pending x).Pairwise Before)
    {page : List StoredEvent} (h : x.poll s.table q.defaultPageSize = .ok page) :
    s.pending x = page ++ (s.pending x).drop q.defaultPageSize := by
  have hsorted : (s.pending x).insertionSort (OrderBy false) = s.pending x :=
    List.Pairwise.insertionSort_eq hordered
  rw [poll_rows h, hsorted, take_append_drop]

theorem FollowInv.step {l : FollowLabel} (h : FollowInv q s) (hok : followAllowed q s l = true)
    (hstep : followStep q s l = some s') : FollowInv q s' := by
  cases l with
  | insert e =>
    cases hstep
    obtain ⟨table, phase, backlog, pages⟩ := s
    cases phase with
    | unopened => exact h
    | opening liveStarting => exact ⟨h.1, Nat.le_trans h.2 (table.maxEventId_insert e)⟩
    | following x => exact FollowingInv.insert h e
    | closed => trivial
  | readMax =>
    simp only [followStep] at hstep
    split at hstep <;> cases hstep
    rename_i hphase
    simp only [FollowInv, hphase] at h
    exact ⟨h, Nat.le_refl _⟩
  | openSession =>
    simp only [followStep] at hstep
    split at hstep
    · rename_i liveStarting hphase
      simp only [FollowInv, hphase] at h
      simp only [followAllowed, hphase] at hok
      split at hstep
      · -- the backlog could not be read; nothing has been sent
        cases hstep
        exact h.1
      · rename_i backlog hbacklog
        cases hstep
        exact FollowingInv.opened h.1 h.2 hok hbacklog
    · cases hstep
  | poll =>
    simp only [followStep] at hstep
    split at hstep
    · rename_i x hphase
      simp only [followAllowed, hphase, decide_eq_true_eq] at hok
      split at hstep
      · cases hstep
        exact h
      · rename_i page hpage
        split at hstep
        · cases hstep
          exact h
        · rename_i last hlast
          cases hstep
          simp only [FollowInv, hphase] at h
          exact (FollowingInv.page h (poll_in_order hok hpage) hlast).1
    · cases hstep
  | close =>
    cases hstep
    trivial

abbrev FollowReach (q : FollowRequest) : FollowState → FollowState → Prop :=
  Reach (followStep q) fun s l => followAllowed q s l = true

/-! ## Exactly once -/

theorem FollowingInv.perm (h : FollowingInv q s x) :
    (s.delivered ++ s.pending x).Perm (s.wanted q x) := by
  obtain ⟨seen, rest, hsplit, hperm⟩ := h.split
  rw [pending_eq h.filter hsplit, hsplit.log_eq]
  exact hperm.append_right rest

theorem FollowingInv.drain (h : FollowingInv q s x) (hphase : s.phase = .following x)
    (hordered : (s.pending x).Pairwise Before)
    (hrows : ∀ e ∈ s.table.rows, e.Encodable) :
    ∃ n s', run (followStep q) s (List.replicate n .poll) = some s' ∧
      s'.table = s.table ∧ s'.delivered.Perm (s.wanted q x) := by
  -- each poll that finds something leaves fewer unread events
  induction hlength : (s.pending x).length using Nat.strong_induction_on generalizing s x with
  | h length ih =>
    have hbound : x.lowerBound ≤ maxSafeCursorEventId :=
      Nat.le_trans h.bound (s.table.maxEventId_le fun e he => (hrows e he).1)
    obtain ⟨page, hpage⟩ := poll_succeeds q hrows hbound
    have hpending := poll_in_order hordered hpage
    cases hlast : page.getLast? with
    | none =>
      -- an empty page means that nothing is unread
      have hempty : s.pending x = [] := by
        have hnil : page = [] := List.getLast?_eq_none_iff.mp hlast
        have hlen := congrArg List.length hpending
        rw [hnil, nil_append, length_drop] at hlen
        have hpos := q.defaultPageSize_pos
        exact length_eq_zero_iff.mp (by omega)
      refine ⟨0, s, rfl, rfl, ?_⟩
      have hperm := h.perm
      rwa [hempty, append_nil] at hperm
    | some last =>
      have hstep : followStep q s .poll = some (s.sent x page last) := by
        simp only [followStep, hphase, hpage, hlast]
      obtain ⟨hnext, hrest⟩ := h.page hpending hlast
      have hshorter : ((s.pending x).drop q.defaultPageSize).length < length := by
        have hpos : 0 < page.length := length_pos_iff.mpr fun hnil => by
          rw [hnil] at hlast
          cases hlast
        have hlen := congrArg List.length hpending
        rw [length_append] at hlen
        omega
      obtain ⟨n, s', hrun, htable, hperm⟩ := ih _ hshorter hnext rfl
        (hrest.symm ▸ hordered.sublist (drop_sublist _ _)) hrows (congrArg List.length hrest)
      refine ⟨n + 1, s', ?_, htable, hperm⟩
      rw [replicate_succ]
      simp only [run, hstep, Option.bind_some]
      exact hrun

/-- As long as the backlog fits into its page with nothing inserted while the session opens and with a
`since` that can be compared as a text, and each poll finds the unread events inserted in the order of their times: what the client has been sent and
what is unread is every matching event, each once; and further polls of a session whose unread events
are in that order send the rest. -/
theorem follow_delivers_once {t : EventTable} (h : FollowReach q (start t) s)
    (hphase : s.phase = .following x) :
    (s.delivered ++ s.pending x).Perm (s.wanted q x) ∧
      ((s.delivered ++ s.pending x).map eventId).Nodup ∧
      ((s.pending x).Pairwise Before → (∀ e ∈ s.table.rows, e.Encodable) →
        ∃ n s', run (followStep q) s (List.replicate n .poll) = some s' ∧
          s'.table = s.table ∧ s'.delivered.Perm (s.wanted q x)) := by
  have hstart : FollowInv q (start t) := by
    show ([] : List StoredEvent) ++ [].flatten = []
    rfl
  have hinv : FollowInv q s := Reach.invariant (FollowInv q) hstart
    (fun _ _ _ hinv hok hstep => hinv.step hok hstep) h
  simp only [FollowInv, hphase] at hinv
  have hperm := hinv.perm
  refine ⟨hperm, ?_, fun hordered hrows => hinv.drain hphase hordered hrows⟩
  refine (hperm.map eventId).nodup_iff.mpr ?_
  exact pairwise_map.mpr ((ordered_wanted q s x).imp Nat.ne_of_lt)

def noon : String := "2026-05-10T12:00:00Z"

def afterNoon : String := "2026-05-10T12:00:00.500000+00:00"

def sampleInstant (text : String) : Int :=
  [("t1", 1), ("t2", 2), ("t3", 3), (noon, 4), (afterNoon, 5)].lookup text |>.getD 0

def sampleRequest : FollowRequest := ⟨none, [], some "t1", sampleInstant, 1, by decide⟩

def sampleEvent (observedAt : String) : StoredEvent :=
  ⟨0, .activity, "agt_00000000000a", some 0, observedAt⟩

def liveSample : List FollowLabel :=
  [.insert (sampleEvent "t1"), .readMax, .openSession, .insert (sampleEvent "t2"),
    .insert (sampleEvent "t3")]

theorem follow_delivers_once_live :
    ∃ s, FollowReach sampleRequest (start EventTable.empty) s ∧
      s.delivered.map eventId = [1] ∧
      (s.pending (sampleRequest.session 1)).map eventId = [2, 3] ∧
      (s.delivered ++ s.pending (sampleRequest.session 1)).Perm
        (s.wanted sampleRequest (sampleRequest.session 1)) ∧
      ∃ n s', run (followStep sampleRequest) s (List.replicate n .poll) = some s' ∧
        s'.delivered.Perm (s.wanted sampleRequest (sampleRequest.session 1)) := by
  obtain ⟨s, hs, hphase, hdelivered, hpending, hordered, hrows⟩ :
      ∃ s, runWhile (followStep sampleRequest) (followAllowed sampleRequest)
        (start EventTable.empty) liveSample = some s ∧
      s.phase = .following (sampleRequest.session 1) ∧
      s.delivered.map eventId = [1] ∧
      (s.pending (sampleRequest.session 1)).map eventId = [2, 3] ∧
      (s.pending (sampleRequest.session 1)).Pairwise Before ∧
      ∀ e ∈ s.table.rows, e.Encodable := by decide +kernel
  have hreach : FollowReach sampleRequest (start EventTable.empty) s := reach_of_runWhile .start hs
  obtain ⟨hperm, -, hdrain⟩ := follow_delivers_once hreach hphase
  obtain ⟨n, s', hpolls, -, hall⟩ := hdrain hordered hrows
  exact ⟨s, hreach, hdelivered, hpending, hperm, n, s', hpolls, hall⟩

def followOutcome (q : FollowRequest) (labels : List FollowLabel) :
    Option (List Nat × List Nat × List Nat) :=
  (run (followStep q) (start EventTable.empty) labels).bind fun s =>
    match s.phase with
    | .following x =>
      some (s.delivered.map eventId, (s.wanted q x).map eventId, (s.pending x).map eventId)
    | _ => none

/-- A backlog of two pages of which the second is never sent; an event between the two statements of
the open that is sent twice; an event that is passed over by a later one with an earlier time; and an
event half a second after noon, which is before noon as a text. -/
theorem follow_loses_and_repeats :
    followOutcome sampleRequest
      [.insert (sampleEvent "t1"), .insert (sampleEvent "t2"), .readMax, .openSession, .poll]
      = some ([1], [1, 2], []) ∧
    followOutcome sampleRequest [.readMax, .insert (sampleEvent "t1"), .openSession, .poll]
      = some ([1, 1], [1], []) ∧
    followOutcome sampleRequest
      [.readMax, .openSession, .insert (sampleEvent "t2"), .insert (sampleEvent "t1"), .poll, .poll]
      = some ([2], [1, 2], []) ∧
    followOutcome { sampleRequest with since := some noon }
      [.insert (sampleEvent afterNoon), .readMax, .openSession, .poll] = some ([], [1], []) := by
  decide +kernel

end AgentTower.Events
