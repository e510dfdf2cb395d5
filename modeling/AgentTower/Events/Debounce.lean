import AgentTower.Lib.Dict
import AgentTower.Routing.RouteRules

/-!
# Debounce

`DebounceManager`: the activity records of an attachment are collapsed into one event for each window
of time, everything else passes through.  The windows are in memory only; the clock is in ticks.
-/

namespace AgentTower.Events

open List

open Routing (EventType)

structure ClassifierOutcome where
  eventType : EventType
  ruleId : String
  excerpt : String
  deriving DecidableEq, Repr

structure PendingEvent where
  eventType : EventType
  ruleId : String
  excerpt : String
  observedAt : String
  byteRangeStart : Nat
  byteRangeEnd : Nat
  lineOffsetStart : Nat
  lineOffsetEnd : Nat
  debounceWindowId : Option String
  debounceCollapsedCount : Nat
  debounceWindowStartedAt : Option String
  debounceWindowEndedAt : Option String
  deriving DecidableEq, Repr

structure DebounceWindow where
  windowId : String
  startedAt : String
  startedAtMonotonic : Int
  firstByteRangeStart : Nat
  firstLineOffsetStart : Nat
  collapsedCount : Nat
  latestExcerpt : String
  latestRuleId : String
  latestObservedAt : String
  latestByteRangeEnd : Nat
  latestLineOffsetEnd : Nat
  deriving DecidableEq, Repr

def collapseEligible : List EventType := [.activity]

/-- `_windows`, by attachment and class. -/
abbrev Windows := Dict (String × EventType) DebounceWindow

structure Submission where
  observedAt : String
  monotonic : Int
  byteRangeStart : Nat
  byteRangeEnd : Nat
  lineOffsetStart : Nat
  lineOffsetEnd : Nat
  deriving DecidableEq, Repr

def passThrough (outcome : ClassifierOutcome) (x : Submission) : PendingEvent where
  eventType := outcome.eventType
  ruleId := outcome.ruleId
  excerpt := outcome.excerpt
  observedAt := x.observedAt
  byteRangeStart := x.byteRangeStart
  byteRangeEnd := x.byteRangeEnd
  lineOffsetStart := x.lineOffsetStart
  lineOffsetEnd := x.lineOffsetEnd
  debounceWindowId := none
  debounceCollapsedCount := 1
  debounceWindowStartedAt := none
  debounceWindowEndedAt := none

def DebounceWindow.close (w : DebounceWindow) (eventType : EventType) (endedAt : String) :
    PendingEvent where
  eventType := eventType
  ruleId := w.latestRuleId
  excerpt := w.latestExcerpt
  observedAt := w.latestObservedAt
  byteRangeStart := w.firstByteRangeStart
  byteRangeEnd := w.latestByteRangeEnd
  lineOffsetStart := w.firstLineOffsetStart
  lineOffsetEnd := w.latestLineOffsetEnd
  debounceWindowId := some w.windowId
  debounceCollapsedCount := w.collapsedCount
  debounceWindowStartedAt := some w.startedAt
  debounceWindowEndedAt := some endedAt

def DebounceWindow.opened (windowId : String) (outcome : ClassifierOutcome) (x : Submission) :
    DebounceWindow where
  windowId := windowId
  startedAt := x.observedAt
  startedAtMonotonic := x.monotonic
  firstByteRangeStart := x.byteRangeStart
  firstLineOffsetStart := x.lineOffsetStart
  collapsedCount := 1
  latestExcerpt := outcome.excerpt
  latestRuleId := outcome.ruleId
  latestObservedAt := x.observedAt
  latestByteRangeEnd := x.byteRangeEnd
  latestLineOffsetEnd := x.lineOffsetEnd

def DebounceWindow.collapse (w : DebounceWindow) (outcome : ClassifierOutcome) (x : Submission) :
    DebounceWindow :=
  { w with
    collapsedCount := w.collapsedCount + 1
    latestExcerpt := outcome.excerpt
    latestRuleId := outcome.ruleId
    latestObservedAt := x.observedAt
    latestByteRangeEnd := x.byteRangeEnd
    latestLineOffsetEnd := x.lineOffsetEnd }

open DebounceWindow (close collapse opened)

def DebounceWindow.expired (windowSeconds monotonic : Int) (w : DebounceWindow) : Bool :=
  decide (windowSeconds ≤ monotonic - w.startedAtMonotonic)

namespace Windows

/-- `windowId` is what `_new_window_id` returns if a window is opened. -/
def submit (windows : Windows) (windowSeconds : Int) (attachmentId : String)
    (outcome : ClassifierOutcome) (x : Submission) (windowId : String) :
    Windows × List PendingEvent :=
  if outcome.eventType ∉ collapseEligible then (windows, [passThrough outcome x])
  else
    let key := (attachmentId, outcome.eventType)
    match windows.get key with
    -- nothing is emitted until the window closes
    | none => (windows.set key (.opened windowId outcome x), [])
    | some w =>
      if w.expired windowSeconds x.monotonic then
        -- `_close_window` deletes the entry, so the new window goes to the end of the dictionary
        ((windows.erase key).set key (.opened windowId outcome x),
          [w.close outcome.eventType x.observedAt])
      -- the start of the window does not move, however many records it takes in
      else (windows.set key (w.collapse outcome x), [])

def due (windowSeconds monotonic : Int) (attachmentId : String) (key : String × EventType)
    (w : DebounceWindow) : Bool :=
  decide (key.1 = attachmentId) && w.expired windowSeconds monotonic

def flushExpired (windows : Windows) (windowSeconds monotonic : Int) (observedAt : String)
    (attachmentId : String) : Windows × List PendingEvent :=
  (windows.filter fun key w => !due windowSeconds monotonic attachmentId key w,
    (windows.entries.filter fun e => due windowSeconds monotonic attachmentId e.1 e.2).map
      fun e => e.2.close e.1.2 observedAt)

/-! ## Counting -/

def countOf (attachmentId : String) (key : String × EventType) (w : DebounceWindow) : Nat :=
  if key.1 = attachmentId then w.collapsedCount else 0

def openCount (windows : Windows) (attachmentId : String) : Nat :=
  windows.total (countOf attachmentId)

end Windows

def collapsedTotal (events : List PendingEvent) : Nat :=
  (events.map PendingEvent.debounceCollapsedCount).sum

theorem collapsedTotal_append (events events' : List PendingEvent) :
    collapsedTotal (events ++ events') = collapsedTotal events + collapsedTotal events' := by
  unfold collapsedTotal
  rw [map_append, sum_append]

namespace Windows

@[simp] theorem countOf_self (attachmentId : String) (eventType : EventType) (w : DebounceWindow) :
    countOf attachmentId (attachmentId, eventType) w = w.collapsedCount := if_pos rfl

variable {attachmentId other : String}

theorem countOf_other (h : other ≠ attachmentId)
    (eventType : EventType) (w : DebounceWindow) : countOf other (attachmentId, eventType) w = 0 :=
  if_neg (Ne.symm h)

/-- `n` records of the attachment were submitted on the way from `windows` to `windows'`: those, and
what it had open before, are in the emitted events or open.  The others have what they had. -/
structure Counted (attachmentId : String) (windows : Windows) (n : Nat) (windows' : Windows)
    (events : List PendingEvent) : Prop where
  own : collapsedTotal events + windows'.openCount attachmentId = windows.openCount attachmentId + n
  others : ∀ other, other ≠ attachmentId → windows'.openCount other = windows.openCount other

variable {windows : Windows} {eventType : EventType} {n : Nat} {events : List PendingEvent}

theorem Counted.trans {windows₁ windows₂ : Windows} {m : Nat} {events' : List PendingEvent}
    (h : Counted attachmentId windows n windows₁ events)
    (h' : Counted attachmentId windows₁ m windows₂ events') :
    Counted attachmentId windows (n + m) windows₂ (events ++ events') := by
  refine ⟨?_, fun other hother => (h'.others other hother).trans (h.others other hother)⟩
  have hfirst := h.own
  have hsecond := h'.own
  rw [collapsedTotal_append]
  omega

theorem weight_other (h : other ≠ attachmentId) (windows : Windows) (eventType : EventType) :
    windows.weight (countOf other) (attachmentId, eventType) = 0 := by
  unfold Dict.weight
  cases windows.get (attachmentId, eventType) with
  | none => rfl
  | some w => exact countOf_other h eventType w

theorem counted_set {w : DebounceWindow} (h : collapsedTotal events + w.collapsedCount =
      windows.weight (countOf attachmentId) (attachmentId, eventType) + n) :
    Counted attachmentId windows n (windows.set (attachmentId, eventType) w) events := by
  have hset := fun id => Dict.total_set (countOf id) windows (attachmentId, eventType) w
  refine ⟨?_, fun other hother => ?_⟩
  · have hown := hset attachmentId
    rw [countOf_self] at hown
    unfold openCount
    omega
  · have hother' := hset other
    rwa [weight_other hother, countOf_other hother] at hother'

theorem counted_opened {outcome : ClassifierOutcome}
    (hget : windows.get (attachmentId, outcome.eventType) = none) (x : Submission) (windowId : String) :
    Counted attachmentId windows 1
      (windows.set (attachmentId, outcome.eventType) (.opened windowId outcome x)) [] :=
  counted_set (by simp [Dict.weight, hget, collapsedTotal, opened])

theorem counted_erase {w : DebounceWindow} (hget : windows.get (attachmentId, eventType) = some w)
    (endedAt : String) : Counted attachmentId windows 0 (windows.erase (attachmentId, eventType))
      [w.close eventType endedAt] := by
  have herase := fun id => Dict.total_erase (countOf id) windows (attachmentId, eventType)
  refine ⟨?_, fun other hother => ?_⟩
  · have hown := herase attachmentId
    simp only [Dict.weight, hget, Option.elim, countOf_self] at hown
    simp only [collapsedTotal, close, map_cons, map_nil, sum_cons, sum_nil, openCount]
    omega
  · have hother' := herase other
    rwa [weight_other hother] at hother'

theorem submit_counted (windows : Windows) (windowSeconds : Int) (attachmentId : String)
    (outcome : ClassifierOutcome) (x : Submission) (windowId : String) :
    Counted attachmentId windows 1 (windows.submit windowSeconds attachmentId outcome x windowId).1
      (windows.submit windowSeconds attachmentId outcome x windowId).2 := by
  unfold submit
  split
  · exact ⟨Nat.add_comm _ _, fun _ _ => rfl⟩
  · simp only
    split
    · -- the first record of a window
      rename_i hget
      exact counted_opened hget x windowId
    · rename_i w hget
      split
      · -- the old window goes out with its count, the new one starts with this record
        exact (counted_erase hget x.observedAt).trans
          (counted_opened (Dict.get_erase_self _ _) x windowId)
      · exact counted_set (by simp [Dict.weight, hget, collapsedTotal, collapse])

theorem flushExpired_counted (windows : Windows) (windowSeconds monotonic : Int)
    (observedAt attachmentId : String) :
    Counted attachmentId windows 0
      (windows.flushExpired windowSeconds monotonic observedAt attachmentId).1
      (windows.flushExpired windowSeconds monotonic observedAt attachmentId).2 := by
  have hfilter := fun id => Dict.total_filter (countOf id) windows
    fun key w => !due windowSeconds monotonic attachmentId key w
  -- a window that is due is one of the attachment
  have hdue (id : String) : ((windows.entries.filter fun e =>
        due windowSeconds monotonic attachmentId e.1 e.2).map fun e => countOf id e.1 e.2)
      = (windows.entries.filter fun e => due windowSeconds monotonic attachmentId e.1 e.2).map
        fun e => if attachmentId = id then e.2.collapsedCount else 0 := by
    refine map_congr_left fun e he => ?_
    have hdue := (List.mem_filter.mp he).2
    unfold due at hdue
    rw [Bool.and_eq_true, decide_eq_true_eq] at hdue
    rw [countOf, hdue.1]
  simp only [Bool.not_not, hdue] at hfilter
  refine ⟨?_, fun other hother => ?_⟩
  · have hown := hfilter attachmentId
    simp only [if_true] at hown
    simp only [flushExpired, openCount, collapsedTotal, map_map, Function.comp_def, close]
    omega
  · have hother' := hfilter other
    simp [hother.symm] at hother'
    exact hother'

end Windows

end AgentTower.Events
