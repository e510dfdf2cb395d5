import AgentTower.Events.ByteRanges

/-!
# What an event is made of

A window has the start of its first record and the end of its last one.  Here each open window is
followed by the records that went into it, with the file and the part of its history they were read
from; the events come out of the same functions as before.
-/

namespace AgentTower.Events

open List

open Routing (EventType)
open Logs

/-! ## Records and where they were read -/

/-- The offset row that a record was read by, how many times its file had lost bytes, and how many
times the offsets had been set back. -/
structure Stamp where
  agentPath : String × String
  generation : Nat
  setBacks : Nat
  deriving DecidableEq, Repr

structure Piece where
  stamp : Stamp
  byteRangeStart : Nat
  byteRangeEnd : Nat
  lineOffsetStart : Nat
  lineOffsetEnd : Nat
  deriving DecidableEq, Repr

def Submission.piece (σ : Stamp) (x : Submission) : Piece :=
  ⟨σ, x.byteRangeStart, x.byteRangeEnd, x.lineOffsetStart, x.lineOffsetEnd⟩

abbrev Held := Dict (String × EventType) (List Piece)

namespace Held

def of (held : Held) (key : String × EventType) : List Piece := (held.get key).getD []

/-- Beside `Windows.submit`: the records of each event that it emits. -/
def submit (held : Held) (windows : Windows) (windowSeconds : Int) (attachmentId : String)
    (outcome : ClassifierOutcome) (x : Submission) (σ : Stamp) : Held × List (List Piece) :=
  if outcome.eventType ∉ collapseEligible then (held, [[x.piece σ]])
  else
    let key := (attachmentId, outcome.eventType)
    match windows.get key with
    | none => (held.set key [x.piece σ], [])
    | some w =>
      if w.expired windowSeconds x.monotonic then (held.set key [x.piece σ], [held.of key])
      else (held.set key (held.of key ++ [x.piece σ]), [])

/-- Beside `Windows.flushExpired`. -/
def flushExpired (held : Held) (windows : Windows) (windowSeconds monotonic : Int)
    (attachmentId : String) : Held × List (List Piece) :=
  (held.filter fun key _ =>
      !(windows.get key).any (Windows.due windowSeconds monotonic attachmentId key),
    (windows.entries.filter fun e => Windows.due windowSeconds monotonic attachmentId e.1 e.2).map
      fun e => held.of e.1)

end Held

def recordSubmission (io : CycleInput) (raw : List UInt8) (byteStart line : Nat) : Submission :=
  ⟨io.nowIso, io.nowMonotonic, byteStart, byteStart + (stripCr raw).length + 1, line, line + 1⟩

namespace Held

/-- Beside `submitRecords`. -/
def submitRecords (env : ReaderEnv) (attachmentId : String) (io : CycleInput) (σ : Stamp) :
    List (List UInt8) → Windows → Held → Nat → Nat → Nat → Held × List (List Piece)
  | [], _, held, _, _, _ => (held, [])
  | raw :: rest, windows, held, byteStart, line, i =>
    let outcome := env.classify (stripCr raw)
    let x := recordSubmission io raw byteStart line
    let windows₁ := (windows.submit env.windowSeconds attachmentId outcome x
      (io.windowIds.getD i "")).1
    let (held₁, made) := held.submit windows env.windowSeconds attachmentId outcome x σ
    let (held₂, madeAfter) :=
      submitRecords env attachmentId io σ rest windows₁ held₁ x.byteRangeEnd (line + 1) (i + 1)
    (held₂, made ++ madeAfter)

/-- Beside `readBatch`. -/
def readBatch (env : ReaderEnv) (attachmentId : String) (io : CycleInput) (σ : Stamp)
    (windows : Windows) (held : Held) (row : LogOffsetRecord) (new : List UInt8) :
    Held × List (List Piece) :=
  if new = [] then held.flushExpired windows env.windowSeconds io.nowMonotonic attachmentId
  else if (splitCompleteRecords new).1 = [] then
    if env.byteCap ≤ new.length then
      (held, [[⟨σ, row.byteOffset, row.byteOffset + new.length, row.lineOffset, row.lineOffset⟩]])
    else held.flushExpired windows env.windowSeconds io.nowMonotonic attachmentId
  else
    let windows₁ := (Events.submitRecords env attachmentId io (completeRaw new) windows
      row.byteOffset row.lineOffset 0).1
    let (held₁, made) := held.submitRecords env attachmentId io σ (completeRaw new) windows
      row.byteOffset row.lineOffset 0
    let (held₂, expired) :=
      held₁.flushExpired windows₁ env.windowSeconds io.nowMonotonic attachmentId
    (held₂, made ++ expired)

theorem of_set_self (held : Held) (key : String × EventType) (pieces : List Piece) :
    Held.of (held.set key pieces) key = pieces := by
  unfold of
  rw [Dict.get_set_self]
  rfl

theorem of_set_ne (held : Held) {key key' : String × EventType} (h : key' ≠ key)
    (pieces : List Piece) : Held.of (held.set key pieces) key' = held.of key' := by
  unfold of
  rw [Dict.get_set_ne held h]

end Held

/-! ## Made of records in order -/

open Held (of of_set_ne of_set_self submit)

/-- The first record has the start, the last one has the end, and all are counted. -/
structure Spans (byteStart byteEnd lineStart lineEnd count : Nat) (pieces : List Piece) : Prop where
  first : ∃ p, pieces.head? = some p ∧ p.byteRangeStart = byteStart ∧ p.lineOffsetStart = lineStart
  last : ∃ p, pieces.getLast? = some p ∧ p.byteRangeEnd = byteEnd ∧ p.lineOffsetEnd = lineEnd
  count : pieces.length = count

def PendingEvent.MadeOf (ev : PendingEvent) : List Piece → Prop :=
  Spans ev.byteRangeStart ev.byteRangeEnd ev.lineOffsetStart ev.lineOffsetEnd
    ev.debounceCollapsedCount

def DebounceWindow.MadeOf (w : DebounceWindow) : List Piece → Prop :=
  Spans w.firstByteRangeStart w.latestByteRangeEnd w.firstLineOffsetStart w.latestLineOffsetEnd
    w.collapsedCount

/-- All of one stamp, and none ends before the first one starts. -/
structure InOrder (pieces : List Piece) : Prop where
  stamp : ∃ σ, ∀ p ∈ pieces, p.stamp = σ
  start : ∀ p₀, pieces.head? = some p₀ → ∀ p ∈ pieces,
    p₀.byteRangeStart ≤ p.byteRangeEnd ∧ p₀.lineOffsetStart ≤ p.lineOffsetEnd

/-- The event can be handed to `insert_event`, and its records are of one generation. -/
def PendingEvent.Sound (ev : PendingEvent) (pieces : List Piece) : Prop :=
  ev.MadeOf pieces ∧ InOrder pieces

open PendingEvent (Sound)

def HeldOk (windows : Windows) (held : Held) : Prop :=
  ∀ key w, windows.get key = some w → w.MadeOf (held.of key) ∧ InOrder (held.of key)

theorem spans_singleton (p : Piece) :
    Spans p.byteRangeStart p.byteRangeEnd p.lineOffsetStart p.lineOffsetEnd 1 [p] :=
  ⟨⟨p, rfl, rfl, rfl⟩, ⟨p, rfl, rfl, rfl⟩, rfl⟩

variable {p : Piece} {byteEnd lineStart lineEnd count : Nat} {ev : PendingEvent}
  {w : DebounceWindow} {windowSeconds : Int} {rest pre : List (List UInt8)} {raw' new : List UInt8}
  {b : Batch} {row : LogOffsetRecord}

theorem inOrder_singleton (hbytes : p.byteRangeStart ≤ p.byteRangeEnd)
    (hlines : p.lineOffsetStart ≤ p.lineOffsetEnd) : InOrder [p] := by
  refine ⟨⟨p.stamp, fun q hq => by rw [mem_singleton.mp hq]⟩, fun p₀ hp₀ q hq => ?_⟩
  cases hp₀
  rw [mem_singleton.mp hq]
  exact ⟨hbytes, hlines⟩

variable {byteStart line : Nat} {pieces : List Piece} {p₀ : Piece} {windows : Windows} {held : Held}
  {key : String × EventType} {outcome : ClassifierOutcome} {raw : List UInt8}
  {raws : List (List UInt8)}

theorem Spans.ne_nil
    (h : Spans byteStart byteEnd lineStart lineEnd count pieces) : pieces ≠ [] := by
  rintro rfl
  obtain ⟨p, hp, -⟩ := h.first
  cases hp

theorem head?_append (h : pieces.head? = some p₀) (p : Piece) :
    (pieces ++ [p]).head? = some p₀ := by
  rw [List.head?_append, h]
  rfl

theorem Spans.collapse (h : Spans byteStart byteEnd lineStart lineEnd count pieces) (p : Piece) :
    Spans byteStart p.byteRangeEnd lineStart p.lineOffsetEnd (count + 1) (pieces ++ [p]) := by
  obtain ⟨p₀, hhead, hstart⟩ := h.first
  refine ⟨⟨p₀, head?_append hhead p, hstart⟩, ⟨p, List.getLast?_concat, rfl, rfl⟩, ?_⟩
  rw [length_append, h.count]
  rfl

theorem InOrder.collapse (h : InOrder pieces)
    (hhead : pieces.head? = some p₀) (hstamp : p₀.stamp = p.stamp)
    (hbytes : p₀.byteRangeStart ≤ p.byteRangeEnd) (hlines : p₀.lineOffsetStart ≤ p.lineOffsetEnd) :
    InOrder (pieces ++ [p]) := by
  obtain ⟨σ, hσ⟩ := h.stamp
  have hp₀ : p₀ ∈ pieces := mem_of_head? hhead
  constructor
  · refine ⟨σ, fun q hq => ?_⟩
    rcases mem_append.mp hq with hq | hq
    · exact hσ q hq
    · rw [mem_singleton.mp hq, ← hstamp]
      exact hσ p₀ hp₀
  · intro q₀ hq₀ q hq
    rw [head?_append hhead p] at hq₀
    cases hq₀
    rcases mem_append.mp hq with hq | hq
    · exact h.start p₀ hhead q hq
    · rw [mem_singleton.mp hq]
      exact ⟨hbytes, hlines⟩

theorem PendingEvent.Sound.ranges (h : ev.Sound pieces) :
    ev.byteRangeStart ≤ ev.byteRangeEnd ∧ ev.lineOffsetStart ≤ ev.lineOffsetEnd ∧
      1 ≤ ev.debounceCollapsedCount := by
  obtain ⟨hmade, horder⟩ := h
  obtain ⟨p₀, hhead, hbyte, hline⟩ := hmade.first
  obtain ⟨p, hlast, hbyte', hline'⟩ := hmade.last
  have hstart := horder.start p₀ hhead p (mem_of_getLast? hlast)
  have hlength : 0 < pieces.length := length_pos_iff.mpr hmade.ne_nil
  have hcount := hmade.count
  omega

theorem PendingEvent.Sound.check (h : ev.Sound pieces)
    (a : LogAttachmentRecord) : (ev.row a).check = true :=
  decide_eq_true h.ranges

theorem all_check {events : List PendingEvent} {made : List (List Piece)}
    (h : List.Forall₂ Sound events made) (a : LogAttachmentRecord) :
    (events.map (PendingEvent.row a)).all EventRow.check = true := by
  induction h with
  | nil => rfl
  | cons hev _ ih =>
    rw [map_cons, all_cons, hev.check a, ih]
    rfl

/-! ## One record -/

theorem HeldOk.set (h : HeldOk windows held) (hw : w.MadeOf pieces)
    (hpieces : InOrder pieces) : HeldOk (windows.set key w) (held.set key pieces) := by
  intro key' w' hget
  by_cases hkey : key' = key
  · subst hkey
    rw [Dict.get_set_self] at hget
    cases hget
    rw [of_set_self]
    exact ⟨hw, hpieces⟩
  · rw [Dict.get_set_ne windows hkey] at hget
    rw [of_set_ne held hkey]
    exact h key' w' hget

theorem HeldOk.erase (h : HeldOk windows held)
    (key : String × EventType) : HeldOk (windows.erase key) held := by
  intro key' w' hget
  by_cases hkey : key' = key
  · subst hkey
    rw [Dict.get_erase_self] at hget
    cases hget
  · rw [Dict.get_erase_ne windows hkey] at hget
    exact h key' w' hget

def Continues (pieces : List Piece) (p : Piece) : Prop :=
  ∀ p₀, pieces.head? = some p₀ → p₀.stamp = p.stamp ∧ p₀.byteRangeStart ≤ p.byteRangeEnd ∧
    p₀.lineOffsetStart ≤ p.lineOffsetEnd

theorem submit_sound (h : HeldOk windows held) {attachmentId : String} {x : Submission}
    (hbytes : x.byteRangeStart ≤ x.byteRangeEnd) (hlines : x.lineOffsetStart ≤ x.lineOffsetEnd)
    {σ : Stamp} (hcontinues : outcome.eventType ∈ collapseEligible →
      ∀ w, windows.get (attachmentId, outcome.eventType) = some w →
        w.expired windowSeconds x.monotonic = false →
        Continues (held.of (attachmentId, outcome.eventType)) (x.piece σ)) (windowId : String) :
    HeldOk (windows.submit windowSeconds attachmentId outcome x windowId).1
        (held.submit windows windowSeconds attachmentId outcome x σ).1 ∧
      List.Forall₂ Sound (windows.submit windowSeconds attachmentId outcome x windowId).2
        (held.submit windows windowSeconds attachmentId outcome x σ).2 := by
  have hpiece : InOrder [x.piece σ] := inOrder_singleton hbytes hlines
  unfold Windows.submit submit
  by_cases heligible : outcome.eventType ∈ collapseEligible
  · simp only [heligible, not_true_eq_false, if_false]
    cases hget : windows.get (attachmentId, outcome.eventType) with
    | none => exact ⟨h.set (spans_singleton (x.piece σ)) hpiece, .nil⟩
    | some w =>
      obtain ⟨hmade, horder⟩ := h _ w hget
      simp only
      by_cases hexpired : w.expired windowSeconds x.monotonic = true
      · -- the old window becomes an event, and the record opens a new one
        rw [if_pos hexpired, if_pos hexpired]
        exact ⟨(h.erase _).set (spans_singleton (x.piece σ)) hpiece, .cons ⟨hmade, horder⟩ .nil⟩
      · rw [if_neg hexpired, if_neg hexpired]
        obtain ⟨p₀, hhead, -⟩ := hmade.first
        obtain ⟨hstamp, hstart, hline⟩ :=
          hcontinues heligible w hget (Bool.eq_false_of_not_eq_true hexpired) p₀ hhead
        exact ⟨h.set (hmade.collapse (x.piece σ)) (horder.collapse hhead hstamp hstart hline), .nil⟩
  · -- any other kind of record is an event of its own
    simp only [heligible, not_false_eq_true, if_true]
    exact ⟨h, .cons ⟨spans_singleton (x.piece σ), hpiece⟩ .nil⟩

theorem flushExpired_sound (h : HeldOk windows held)
    (windowSeconds monotonic : Int) (observedAt attachmentId : String) :
    HeldOk (windows.flushExpired windowSeconds monotonic observedAt attachmentId).1
        (held.flushExpired windows windowSeconds monotonic attachmentId).1 ∧
      List.Forall₂ Sound (windows.flushExpired windowSeconds monotonic observedAt attachmentId).2
        (held.flushExpired windows windowSeconds monotonic attachmentId).2 := by
  constructor
  · intro key w hget
    unfold Windows.flushExpired at hget
    rw [Dict.get_filter, Option.filter_eq_some_iff] at hget
    obtain ⟨hwindow, hdue⟩ := hget
    have hkept : of (held.flushExpired windows windowSeconds monotonic attachmentId).1 key
        = held.of key := by
      unfold of Held.flushExpired
      rw [Dict.get_filter, hwindow, Option.any_some, hdue]
      cases held.get key <;> rfl
    rw [hkept]
    exact h key w hwindow
  · unfold Windows.flushExpired Held.flushExpired
    rw [forall₂_map_left_iff, forall₂_map_right_iff, forall₂_same]
    intro e he
    exact h e.1 e.2 ((Dict.get_eq_some_iff windows).mpr (mem_filter.mp he).1)

/-! ## The records of a cycle -/

def eligible (env : ReaderEnv) (raw : List UInt8) : Bool :=
  decide ((env.classify (stripCr raw)).eventType ∈ collapseEligible)

theorem eligible_iff {env : ReaderEnv} :
    eligible env raw = true ↔ (env.classify (stripCr raw)).eventType = .activity := by
  unfold eligible collapseEligible
  rw [decide_eq_true_eq, mem_singleton]

def span (raws : List (List UInt8)) : Nat := (raws.map fun r => (stripCr r).length + 1).sum

theorem span_cons (raw : List UInt8) (raws : List (List UInt8)) :
    span (raw :: raws) = (stripCr raw).length + 1 + span raws := by
  unfold span
  rw [map_cons, sum_cons]

theorem span_append (raws raws' : List (List UInt8)) :
    span (raws ++ raws') = span raws + span raws' := by
  unfold span
  rw [map_append, sum_append]

theorem span_le_diskLength (raws : List (List UInt8)) : span raws ≤ diskLength raws := by
  unfold span diskLength
  induction raws with
  | nil => exact Nat.le_refl _
  | cons r raws ih =>
    have hlength := length_stripCr r
    simp only [map_cons, sum_cons]
    omega

def Ready (env : ReaderEnv) (attachmentId : String) (io : CycleInput) (σ : Stamp) (windows : Windows)
    (held : Held) (raws : List (List UInt8)) (byteStart line : Nat) : Prop :=
  ∀ w, windows.get (attachmentId, .activity) = some w →
    w.expired env.windowSeconds io.nowMonotonic = false →
    ∀ p₀, (held.of (attachmentId, .activity)).head? = some p₀ → p₀.stamp = σ ∧
      ∀ pre raw post, raws = pre ++ raw :: post → eligible env raw = true →
        p₀.byteRangeStart ≤ byteStart + span pre + (stripCr raw).length + 1 ∧
        p₀.lineOffsetStart ≤ line + pre.length + 1

variable {env : ReaderEnv} {attachmentId : String} {io : CycleInput} {σ : Stamp}

/-- What a record does to the activity window of its attachment: nothing, it goes into the one that is
running, or it opens one. -/
theorem submit_spec (windows : Windows) (held : Held) (windowSeconds : Int) (attachmentId : String)
    (outcome : ClassifierOutcome) (x : Submission) (σ : Stamp) (windowId : String) :
    (outcome.eventType ≠ .activity ∧
      (held.submit windows windowSeconds attachmentId outcome x σ).1 = held ∧
      (windows.submit windowSeconds attachmentId outcome x windowId).1 = windows) ∨
    outcome.eventType = .activity ∧ ∃ pieces w,
      of (held.submit windows windowSeconds attachmentId outcome x σ).1 (attachmentId, .activity)
        = pieces ++ [x.piece σ] ∧
      (windows.submit windowSeconds attachmentId outcome x windowId).1.get (attachmentId, .activity)
        = some w ∧
      ((∃ w₀, windows.get (attachmentId, .activity) = some w₀ ∧
          w₀.expired windowSeconds x.monotonic = false ∧
          pieces = held.of (attachmentId, .activity) ∧ w = w₀.collapse outcome x) ∨
        (∀ w₀, windows.get (attachmentId, .activity) = some w₀ →
          w₀.expired windowSeconds x.monotonic = true) ∧
        pieces = [] ∧ w = .opened windowId outcome x) := by
  unfold Windows.submit submit
  by_cases heligible : outcome.eventType = .activity
  · simp only [heligible, collapseEligible, mem_singleton, not_true_eq_false, if_false]
    refine .inr ⟨trivial, ?_⟩
    cases hget : windows.get (attachmentId, .activity) with
    | none => exact ⟨[], _, of_set_self _ _ _, Dict.get_set_self _ _ _, .inr ⟨nofun, rfl, rfl⟩⟩
    | some w =>
      cases hexpired : w.expired windowSeconds x.monotonic with
      | true =>
        simp only [hexpired, if_true]
        refine ⟨[], _, of_set_self _ _ _, Dict.get_set_self _ _ _, .inr ⟨fun w₀ hw₀ => ?_, rfl, rfl⟩⟩
        cases hw₀
        exact hexpired
      | false =>
        simp only [hexpired, Bool.false_eq_true, if_false]
        exact ⟨_, _, of_set_self _ _ _, Dict.get_set_self _ _ _, .inl ⟨w, rfl, hexpired, rfl, rfl⟩⟩
  · refine .inl ⟨heligible, ?_⟩
    simp [collapseEligible, heligible]

theorem bounds_next
    (h : ∀ pre raw' post, raw :: rest = pre ++ raw' :: post → eligible env raw' = true →
      p₀.byteRangeStart ≤ byteStart + span pre + (stripCr raw').length + 1 ∧
      p₀.lineOffsetStart ≤ line + pre.length + 1) :
    ∀ pre raw' post, rest = pre ++ raw' :: post → eligible env raw' = true →
      p₀.byteRangeStart ≤ byteStart + (stripCr raw).length + 1 + span pre + (stripCr raw').length + 1 ∧
      p₀.lineOffsetStart ≤ line + 1 + pre.length + 1 := by
  intro pre raw' post hrest heligible
  have hbound := h (raw :: pre) raw' post (by rw [hrest, cons_append]) heligible
  rw [span_cons, length_cons] at hbound
  omega

theorem Ready.next (hok : HeldOk windows held)
    (h : Ready env attachmentId io σ windows held (raw :: rest) byteStart line) (windowId : String) :
    Ready env attachmentId io σ
      (windows.submit env.windowSeconds attachmentId (env.classify (stripCr raw))
        (recordSubmission io raw byteStart line) windowId).1
      (held.submit windows env.windowSeconds attachmentId (env.classify (stripCr raw))
        (recordSubmission io raw byteStart line) σ).1
      rest (byteStart + (stripCr raw).length + 1) (line + 1) := by
  intro w hget hrunning p₀ hhead
  rcases submit_spec windows held env.windowSeconds attachmentId (env.classify (stripCr raw))
    (recordSubmission io raw byteStart line) σ windowId with
    ⟨-, hheld, hwindows⟩ |
      ⟨-, pieces, w', hheld, -, ⟨w₀, hw₀, hrunning₀, rfl, -⟩ | ⟨-, rfl, -⟩⟩
  · rw [hwindows] at hget
    rw [hheld] at hhead
    obtain ⟨hstamp, hall⟩ := h w hget hrunning p₀ hhead
    exact ⟨hstamp, bounds_next hall⟩
  · -- the window keeps its first record, so the bounds are those from before
    obtain ⟨p₁, hp₁, -⟩ := (hok _ w₀ hw₀).1.first
    rw [hheld, head?_append hp₁] at hhead
    cases hhead
    obtain ⟨hstamp, hall⟩ := h w₀ hw₀ hrunning₀ p₀ hp₁
    exact ⟨hstamp, bounds_next hall⟩
  · -- the window starts with this record
    rw [hheld] at hhead
    cases hhead
    refine ⟨rfl, fun pre raw' post _ _ => ?_⟩
    simp only [Submission.piece, recordSubmission]
    omega

theorem submitRecords_sound (hok : HeldOk windows held)
    (hready : Ready env attachmentId io σ windows held raws byteStart line) (i : Nat) :
    HeldOk (submitRecords env attachmentId io raws windows byteStart line i).1
        (held.submitRecords env attachmentId io σ raws windows byteStart line i).1 ∧
      List.Forall₂ Sound (submitRecords env attachmentId io raws windows byteStart line i).2.1
        (held.submitRecords env attachmentId io σ raws windows byteStart line i).2 := by
  -- record by record; `Ready` says that the window can take in each of those that are left
  induction raws generalizing windows held byteStart line i with
  | nil => exact ⟨hok, .nil⟩
  | cons raw rest ih =>
    have hcontinues : (env.classify (stripCr raw)).eventType ∈ collapseEligible →
        ∀ w, windows.get (attachmentId, (env.classify (stripCr raw)).eventType) = some w →
          w.expired env.windowSeconds (recordSubmission io raw byteStart line).monotonic = false →
          Continues (held.of (attachmentId, (env.classify (stripCr raw)).eventType))
            ((recordSubmission io raw byteStart line).piece σ) := by
      intro heligible w hget hrunning p₀ hhead
      have hactivity := eligible_iff.mp (decide_eq_true heligible)
      rw [hactivity] at hget hhead
      obtain ⟨hstamp, hall⟩ := hready w hget hrunning p₀ hhead
      have hbound := hall [] raw rest rfl (eligible_iff.mpr hactivity)
      refine ⟨hstamp, ?_⟩
      simpa [span, Submission.piece, recordSubmission] using hbound
    have hfirst := submit_sound hok (by simp only [recordSubmission]; omega)
      (by simp only [recordSubmission]; omega) hcontinues (io.windowIds.getD i "")
    have hrest := ih hfirst.1 (hready.next hok (io.windowIds.getD i "")) (i + 1)
    exact ⟨hrest.1, rel_append hfirst.2 hrest.2⟩

/-! ## The first record of a window -/

/-- The records before `raw` are none that a window takes in; `raw` is one. -/
def FirstEligible (env : ReaderEnv) (raws pre : List (List UInt8)) (raw : List UInt8) : Prop :=
  (∃ post, raws = pre ++ raw :: post) ∧ (∀ r ∈ pre, eligible env r = false) ∧ eligible env raw = true

theorem FirstEligible.cons (h : FirstEligible env raws pre raw') (hnot : eligible env raw = false) :
    FirstEligible env (raw :: raws) (raw :: pre) raw' := by
  obtain ⟨⟨post, hpost⟩, hpre, hraw⟩ := h
  refine ⟨⟨post, by rw [hpost, cons_append]⟩, fun r hr => ?_, hraw⟩
  rcases mem_cons.mp hr with rfl | hr
  · exact hnot
  · exact hpre r hr

theorem FirstEligible.le {pre' post' : List (List UInt8)}
    (h : FirstEligible env raws pre raw) (hraws : raws = pre' ++ raw' :: post')
    (heligible : eligible env raw' = true) : span pre ≤ span pre' ∧ pre.length ≤ pre'.length := by
  obtain ⟨⟨post, hpost⟩, hpre, -⟩ := h
  have hprefix : pre <+: raws := ⟨_, hpost.symm⟩
  have hprefix' : pre' <+: raws := ⟨_, hraws.symm⟩
  -- both are fronts of the same list, so one is a front of the other
  rcases prefix_or_prefix_of_prefix hprefix hprefix' with ⟨rest, rfl⟩ | ⟨rest, rfl⟩
  · rw [span_append, length_append]
    omega
  · cases rest with
    | nil => simp
    | cons r rest =>
      -- the shorter list ends before `raw'`, which is then one of the longer one
      rw [hraws, append_assoc, append_cancel_left_eq, cons_append] at hpost
      have hr : raw' = r := (List.cons.inj hpost).1
      have hnot := hpre r (mem_append_right _ mem_cons_self)
      rw [← hr, heligible] at hnot
      cases hnot

def pieceAt (σ : Stamp) (byteStart line : Nat) (raw : List UInt8) : Piece :=
  ⟨σ, byteStart, byteStart + (stripCr raw).length + 1, line, line + 1⟩

theorem head_of_running (hget : windows.get (attachmentId, .activity) = some w)
    (hrunning : w.expired env.windowSeconds io.nowMonotonic = false)
    (hhead : (held.of (attachmentId, .activity)).head? = some p₀) (byteStart line i : Nat) :
    (of (held.submitRecords env attachmentId io σ raws windows byteStart line i).1
      (attachmentId, .activity)).head? = some p₀ := by
  induction raws generalizing windows held w byteStart line i with
  | nil => exact hhead
  | cons raw rest ih =>
    simp only [Held.submitRecords]
    rcases submit_spec windows held env.windowSeconds attachmentId (env.classify (stripCr raw))
      (recordSubmission io raw byteStart line) σ (io.windowIds.getD i "") with
      ⟨-, hheld, hwindows⟩ |
        ⟨-, pieces, w', hheld, hwindow, ⟨w₀, hw₀, -, rfl, rfl⟩ | ⟨hnone, -⟩⟩
    · rw [hheld, hwindows]
      exact ih hget hrunning hhead _ _ _
    · cases hget.symm.trans hw₀
      refine ih hwindow hrunning ?_ _ _ _
      rw [hheld]
      exact head?_append hhead _
    · cases hrunning.symm.trans (hnone w hget)

/-- After the records of a cycle, the attachment's window starts where it did, or with the first record
that a window takes in. -/
theorem head_submitRecords (io : CycleInput) (σ : Stamp) (hwindow : 0 < env.windowSeconds)
    (hok : HeldOk windows held) (raws : List (List UInt8)) (byteStart line i : Nat) :
    (of (held.submitRecords env attachmentId io σ raws windows byteStart line i).1
        (attachmentId, .activity)).head? = (held.of (attachmentId, .activity)).head? ∨
      ∃ pre raw, FirstEligible env raws pre raw ∧
        (of (held.submitRecords env attachmentId io σ raws windows byteStart line i).1
          (attachmentId, .activity)).head?
            = some (pieceAt σ (byteStart + span pre) (line + pre.length) raw) := by
  -- the first eligible record decides: it finds a running window, or opens the one that stays
  induction raws generalizing windows held byteStart line i with
  | nil => exact .inl rfl
  | cons raw rest ih =>
    simp only [Held.submitRecords]
    rcases submit_spec windows held env.windowSeconds attachmentId (env.classify (stripCr raw))
      (recordSubmission io raw byteStart line) σ (io.windowIds.getD i "") with
      ⟨hother, hheld, hwindows⟩ |
        ⟨hactivity, pieces, w', hheld, hget, ⟨w, hw, hrunning, rfl, rfl⟩ | ⟨-, rfl, rfl⟩⟩
    · have hnot : eligible env raw = false :=
        Bool.eq_false_of_not_eq_true fun h => hother (eligible_iff.mp h)
      rw [hheld, hwindows]
      rcases ih hok (recordSubmission io raw byteStart line).byteRangeEnd (line + 1) (i + 1) with
        hsame | ⟨pre, raw', hfirst, hhead⟩
      · exact .inl hsame
      · refine .inr ⟨raw :: pre, raw', hfirst.cons hnot, ?_⟩
        rw [hhead, span_cons, length_cons]
        simp only [recordSubmission]
        congr 2 <;> omega
    · obtain ⟨p₀, hp₀, -⟩ := (hok _ w hw).1.first
      rw [hp₀]
      refine .inl (head_of_running hget hrunning ?_ _ _ _)
      rw [hheld]
      exact head?_append hp₀ _
    · -- the window that is opened is running for the rest of the cycle
      have hfirst : FirstEligible env (raw :: rest) [] raw :=
        ⟨⟨rest, rfl⟩, nofun, eligible_iff.mpr hactivity⟩
      refine .inr ⟨[], raw, hfirst, head_of_running hget ?_ ?_ _ _ _⟩
      · refine decide_eq_false ?_
        show ¬env.windowSeconds ≤ io.nowMonotonic - io.nowMonotonic
        omega
      · rw [hheld]
        rfl

theorem submitRecords_other
    (hkey : key ≠ (attachmentId, .activity)) (windows : Windows) (held : Held)
    (byteStart line i : Nat) :
    of (held.submitRecords env attachmentId io σ raws windows byteStart line i).1 key
      = held.of key := by
  induction raws generalizing windows held byteStart line i with
  | nil => rfl
  | cons raw rest ih =>
    simp only [Held.submitRecords]
    rw [ih]
    unfold submit
    split
    · rfl
    · rename_i heligible
      have hactivity := eligible_iff.mp (decide_eq_true (not_not.mp heligible))
      have hne : key ≠ (attachmentId, (env.classify (stripCr raw)).eventType) := by
        rwa [hactivity]
      simp only
      split
      · exact of_set_ne held hne _
      · split <;> exact of_set_ne held hne _

theorem head_flushExpired {monotonic : Int}
    (h : (of (held.flushExpired windows windowSeconds monotonic attachmentId).1 key).head?
      = some p₀) : (held.of key).head? = some p₀ := by
  unfold of Held.flushExpired at h
  rw [Dict.get_filter] at h
  unfold of
  cases hget : held.get key with
  | none =>
    rw [hget] at h
    cases h
  | some pieces =>
    rw [hget, Option.filter_some] at h
    split at h
    · exact h
    · cases h

/-! ## One batch -/

theorem flushBatch_sound (hok : HeldOk windows held)
    (h : flushBatch env attachmentId io windows = some b) :
    HeldOk b.windows (held.flushExpired windows env.windowSeconds io.nowMonotonic attachmentId).1 ∧
      List.Forall₂ Sound b.events
        (held.flushExpired windows env.windowSeconds io.nowMonotonic attachmentId).2 := by
  have hflush := flushExpired_sound hok env.windowSeconds io.nowMonotonic io.nowIso attachmentId
  unfold flushBatch at h
  simp only at h
  split at h <;> cases h
  exact hflush

/-- Every event of a batch is made of records in order, if the records that the batch reads can go
into the window that is running. -/
theorem readBatch_sound (hok : HeldOk windows held)
    (h : readBatch env attachmentId io windows row new = some b)
    (hready : b.advanceLines ≠ 0 → Ready env attachmentId io σ windows held (completeRaw new)
      row.byteOffset row.lineOffset) :
    HeldOk b.windows (held.readBatch env attachmentId io σ windows row new).1 ∧
      List.Forall₂ Sound b.events
        (held.readBatch env attachmentId io σ windows row new).2 := by
  unfold readBatch at h
  unfold Held.readBatch
  by_cases hempty : new = []
  · rw [if_pos hempty] at h ⊢
    exact flushBatch_sound hok h
  · rw [if_neg hempty] at h ⊢
    by_cases hrecords : (splitCompleteRecords new).1 = []
    · rw [if_pos hrecords] at h ⊢
      by_cases hcap : env.byteCap ≤ new.length
      · rw [if_pos hcap] at h ⊢
        cases h
        -- a line that was cut passes the windows by
        refine ⟨hok, .cons ⟨spans_singleton ⟨σ, _, _, _, _⟩, ?_⟩ .nil⟩
        exact inOrder_singleton (Nat.le_add_right _ _) (Nat.le_refl _)
      · rw [if_neg hcap] at h ⊢
        exact flushBatch_sound hok h
    · rw [if_neg hrecords] at h ⊢
      cases h
      -- there are complete records, so the batch is one for which the window has to be ready
      have hlines : (completeBatch env attachmentId io windows row new).advanceLines ≠ 0 := by
        intro hzero
        refine hrecords ?_
        simp only [completeBatch, splitCompleteRecords, if_neg hempty, length_eq_zero_iff]
          at hzero ⊢
        rw [hzero]
        rfl
      obtain ⟨hsubmitted, hevents⟩ := submitRecords_sound hok (hready hlines) 0
      obtain ⟨hflushed, hexpired⟩ := flushExpired_sound hsubmitted env.windowSeconds io.nowMonotonic
        io.nowIso attachmentId
      exact ⟨hflushed, rel_append hevents hexpired⟩

/-- Where the window of an attachment starts after a batch: where it did, or at the first record of the
batch that a window takes in. -/
theorem head_readBatch (hwindow : 0 < env.windowSeconds) (hok : HeldOk windows held)
    (h : (of (held.readBatch env attachmentId io σ windows row new).1 key).head? = some p₀) :
    (held.of key).head? = some p₀ ∨
      ∃ pre raw, FirstEligible env (completeRaw new) pre raw ∧
        p₀ = pieceAt σ (row.byteOffset + span pre) (row.lineOffset + pre.length) raw := by
  unfold Held.readBatch at h
  by_cases hempty : new = []
  · rw [if_pos hempty] at h
    exact .inl (head_flushExpired h)
  · rw [if_neg hempty] at h
    by_cases hrecords : (splitCompleteRecords new).1 = []
    · rw [if_pos hrecords] at h
      by_cases hcap : env.byteCap ≤ new.length
      · rw [if_pos hcap] at h
        exact .inl h
      · rw [if_neg hcap] at h
        exact .inl (head_flushExpired h)
    · rw [if_neg hrecords] at h
      have hsubmitted := head_flushExpired h
      by_cases hkey : key = (attachmentId, .activity)
      · subst hkey
        rcases head_submitRecords io σ hwindow hok (completeRaw new) row.byteOffset
          row.lineOffset 0 with hsame | ⟨pre, raw, hfirst, hhead⟩
        · exact .inl (hsame ▸ hsubmitted)
        · rw [hhead] at hsubmitted
          exact .inr ⟨pre, raw, hfirst, (Option.some.inj hsubmitted).symm⟩
      · rw [submitRecords_other hkey] at hsubmitted
        exact .inl hsubmitted

end AgentTower.Events
