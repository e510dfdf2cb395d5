import AgentTower.Lib.Base64
import AgentTower.Lib.JsonRoundTrip
import AgentTower.Lib.Keyset
import AgentTower.Lib.Log
import AgentTower.Lib.PyText
import AgentTower.Events.Follow

/-!
# The pages of `select_events`

`select_events` with the cursors as the texts that a client passes back, Base64 of JSON without its
padding.  A client walks the pages while other connections insert.
-/

namespace AgentTower.Events

open Fallible List
open Routing (EventType)
open Keyset (Cut Ended Past past_none)

/-! ## Rows -/

/-- A row of `events`; the audit rows have `NULL` in the columns of the reader. -/
structure EventRecord where
  eventId : Nat
  eventType : String
  agentId : String
  attachmentId : Option String
  logPath : Option String
  byteRangeStart : Option Nat
  byteRangeEnd : Option Nat
  lineOffsetStart : Option Nat
  lineOffsetEnd : Option Nat
  observedAt : String
  recordAt : Option String
  excerpt : String
  classifierRuleId : Option String
  debounceWindowId : Option String
  debounceCollapsedCount : Nat
  debounceWindowStartedAt : Option String
  debounceWindowEndedAt : Option String
  schemaVersion : Nat
  jsonlAppendedAt : Option String
  deriving DecidableEq, Repr

def readerTypes : List (String × EventType) :=
  [("activity", .activity), ("waiting_for_input", .waitingForInput), ("completed", .completed),
    ("error", .error), ("test_failed", .testFailed), ("test_passed", .testPassed),
    ("manual_review_needed", .manualReviewNeeded), ("long_running", .longRunning),
    ("pane_exited", .paneExited), ("swarm_member_reported", .swarmMemberReported)]

def EventRecord.stored (e : EventRecord) : StoredEvent where
  eventId := e.eventId
  eventType := (readerTypes.lookup e.eventType).getD .audit
  agentId := e.agentId
  byteRangeStart := e.byteRangeStart
  observedAt := e.observedAt

abbrev EventRecords := Log EventRecord EventRecord.eventId

def insertRecord (t : EventRecords) (e : EventRecord) : EventRecords :=
  t.push (fun n => { e with eventId := n }) fun _ => rfl

/-- `EventFilter`; the types are any texts. -/
structure EventQuery where
  targetAgentId : Option String
  types : List String
  sinceIso : Option String
  untilIso : Option String
  deriving DecidableEq, Repr

def EventQuery.selects (f : EventQuery) (e : EventRecord) : Bool :=
  f.targetAgentId.all (fun target => decide (e.agentId = target)) &&
    (f.types.isEmpty || decide (e.eventType ∈ f.types)) &&
    f.sinceIso.all (fun since => decide (since ≤ e.observedAt)) &&
    f.untilIso.all (fun before => decide (e.observedAt < before))

/-! ## Cursors as texts -/

def cursorJson (c : Cursor) : Json :=
  .obj ([("e", .int c.eventId), ("r", .bool c.reverse)] ++
    match c.sortKey with
    | none => []
    | some (observedAt, byteStart) => [("o", .str observedAt), ("b", .int byteStart)])

def cursorText (c : Cursor) : String :=
  String.ofList (Base64.unpad
    (Base64.encode (PyText.utf8Encode (String.ofList (cursorJson c).render))))

def encodeCursorText (c : Cursor) : Except SelectError String := (encodeCursor c).map cursorText

/-- `_decode_cursor_payload`, without the texts of the exceptions. -/
def decodeCursorPayload (token : String) : Except SelectError (List (String × Json)) :=
  let padded := Base64.pad token.toList
  if token = "" then .error (.cursorError "cursor must be a non-empty string")
  else
    match if padded.all fun c => decide (c.toNat < 128) then Base64.decode padded else none with
    | none => .error (.cursorError "cursor is not valid base64url")
    | some raw =>
      match (PyText.utf8Decode raw).bind fun text => Json.loads text.toList with
      | none => .error (.cursorError "cursor base64 payload is not valid JSON")
      | some (.obj obj) => .ok obj
      | some v =>
        .error (.cursorError ("cursor payload must be an object; got " ++ v.typeName))

def decodeCursorBase (obj : List (String × Json)) : Except SelectError (Nat × Bool) :=
  match obj.lookup "e", obj.lookup "r" with
  | some (.int e), some r =>
    if e ≤ 0 then .error (.cursorError ("cursor 'e' must be > 0, got " ++ toString e))
    else if (maxSafeCursorEventId : Int) < e then
      .error (.cursorError ("cursor 'e' " ++ toString e ++ " exceeds safe-cursor range (" ++
        toString maxSafeCursorEventId ++ ")"))
    else
      match r with
      | .bool r => .ok (e.toNat, r)
      | r => .error (.cursorError ("cursor 'r' must be bool, got " ++ r.typeName))
  | some e, some _ => .error (.cursorError ("cursor 'e' must be int, got " ++ e.typeName))
  | _, _ => .error (.cursorError "cursor payload missing required keys 'e' and 'r'")

/-- `_decode_cursor_details` after the base. -/
def decodeSortKey (obj : List (String × Json)) : Except SelectError (Option (String × Int)) :=
  match (obj.lookup "o").getD .null, (obj.lookup "b").getD .null with
  | .null, .null => .ok none
  | .str observedAt, byteStart =>
    if observedAt = "" then .error (.cursorError "cursor 'o' must be a non-empty string")
    else
      match byteStart with
      | .int byteStart =>
        if byteStart < -1 then
          .error (.cursorError "cursor 'b' must be >= -1 (-1 is the audit-row sentinel)")
        else .ok (some (observedAt, byteStart))
      | _ => .error (.cursorError "cursor 'b' must be >= -1 (-1 is the audit-row sentinel)")
  | _, _ => .error (.cursorError "cursor 'o' must be a non-empty string")

/-- `_decode_cursor_details`. -/
def decodeCursorText (token : String) : Except SelectError Cursor := do
  let obj ← decodeCursorPayload token
  let (eventId, reverse) ← decodeCursorBase obj
  let sortKey ← decodeSortKey obj
  pure ⟨eventId, reverse, sortKey⟩

inductive PageError where
  | select (e : SelectError)
  /-- A parameter does not fit into 64 bits. -/
  | overflowError
  deriving DecidableEq, Repr

def decodeStart : Option String → Except SelectError (Option Cursor)
  | none => .ok none
  | some token => (decodeCursorText token).map some

def selectedRecords (rows : List EventRecord) (f : EventQuery) (cursor : Option Cursor)
    (reverse : Bool) : List EventRecord :=
  (rows.filter fun e => f.selects e && cursor.all fun c => c.past e.stored).insertionSort
    fun a b => OrderBy reverse a.stored b.stored

def eventPage (found : List EventRecord) (limit : Nat) (reverse : Bool) :
    Except SelectError (Page EventRecord String) :=
  let page := found.take limit
  if limit < found.length then
    match page.getLast? with
    | none => .ok ⟨page, none⟩
    | some last =>
      (encodeCursorText ⟨last.eventId, reverse, some (last.observedAt, last.stored.byteStart)⟩).map
        fun next => ⟨page, some next⟩
  else .ok ⟨page, none⟩

def selectEventPage (rows : List EventRecord) (f : EventQuery) (limit : Int) (reverse : Bool)
    (cursor : Option String) : Except PageError (Page EventRecord String) :=
  if limit ≤ 0 then
    .error (.select (.valueError ("limit must be > 0; got " ++ toString limit)))
  else
    match decodeStart cursor with
    | .error e => .error (.select e)
    | .ok cursor =>
      if cursor.any fun c => c.reverse != reverse then
        .error (.select (.cursorError wrongDirection))
      else if 2 ^ 63 ≤ limit + 1 then .error .overflowError
      else (eventPage (selectedRecords rows f cursor reverse) limit.toNat reverse).mapError .select

/-! ## A cursor that is issued is read back -/

theorem valid_cursorJson (c : Cursor) : (cursorJson c).valid = true := by
  obtain ⟨eventId, reverse, sortKey⟩ := c
  cases sortKey with
  | none | some key => simp [cursorJson, Json.valid, Json.validMembers]

theorem pad_cursorText (c : Cursor) :
    Base64.pad (cursorText c).toList =
      Base64.encode (PyText.utf8Encode (String.ofList (cursorJson c).render)) := by
  rw [cursorText, String.toList_ofList, Base64.pad_unpad_encode]

theorem cursorText_ne_empty (c : Cursor) : cursorText c ≠ "" := by
  intro hempty
  have hbytes : Base64.decode (Base64.pad "".toList) =
      some (PyText.utf8Encode (String.ofList (cursorJson c).render)) := by
    rw [← hempty, pad_cursorText, Base64.decode_encode]
  have htext := PyText.utf8Decode_utf8Encode (String.ofList (cursorJson c).render)
  rw [← Option.some.inj hbytes] at htext
  have hrender : (String.ofList (cursorJson c).render).toList = [] :=
    congrArg String.toList (Option.some.inj htext).symm
  rw [String.toList_ofList] at hrender
  cases hrender

theorem decodeCursorPayload_cursorText (c : Cursor) :
    ∃ members, cursorJson c = .obj members ∧ decodeCursorPayload (cursorText c) = .ok members := by
  refine ⟨_, rfl, ?_⟩
  have hascii : ((Base64.encode (PyText.utf8Encode (String.ofList (cursorJson c).render))).all
      fun c => decide (c.toNat < 128)) = true := by
    rw [all_eq_true]
    exact fun c hc => decide_eq_true (Base64.encode_ascii _ c hc)
  simp only [decodeCursorPayload, cursorText_ne_empty, if_false, pad_cursorText, hascii,
    if_true, Base64.decode_encode, PyText.utf8Decode_utf8Encode, Option.bind_some,
    String.toList_ofList, Json.loads_render (valid_cursorJson c)]
  rfl

theorem decodeCursorBase_cons {eventId : Nat} (hpos : eventId ≠ 0)
    (hsafe : ¬ maxSafeCursorEventId < eventId) (reverse : Bool) (rest : List (String × Json)) :
    decodeCursorBase (("e", .int eventId) :: ("r", .bool reverse) :: rest) =
      .ok (eventId, reverse) := by
  have hreverse : (("e", Json.int eventId) :: ("r", .bool reverse) :: rest).lookup "r" =
      some (.bool reverse) := rfl
  simp only [decodeCursorBase, lookup_cons_self, hreverse]
  rw [if_neg (by omega), if_neg (by omega), Int.toNat_natCast]

theorem decodeCursorText_of {token : String} {members : List (String × Json)} {c : Cursor}
    (hpayload : decodeCursorPayload token = .ok members)
    (hbase : decodeCursorBase members = .ok (c.eventId, c.reverse))
    (hkey : decodeSortKey members = .ok c.sortKey) : decodeCursorText token = .ok c := by
  rw [decodeCursorText, bind_of_ok hpayload, bind_of_ok hbase]
  exact bind_of_ok hkey _

theorem decodeCursorText_cursorText {c : Cursor} (h : encodeCursor c = .ok c) :
    decodeCursorText (cursorText c) = .ok c := by
  obtain ⟨eventId, reverse, sortKey⟩ := c
  unfold encodeCursor at h
  split_ifs at h with hzero hlarge
  obtain ⟨members, hmembers, hpayload⟩ := decodeCursorPayload_cursorText ⟨eventId, reverse, sortKey⟩
  cases hmembers
  refine decodeCursorText_of hpayload (decodeCursorBase_cons hzero hlarge reverse _) ?_
  cases sortKey with
  | none => rfl
  | some key =>
    obtain ⟨observedAt, byteStart⟩ := key
    simp only at h
    split_ifs at h with hempty hsentinel
    show (if observedAt = "" then _ else if byteStart < -1 then _ else _) = _
    rw [if_neg hempty, if_neg hsentinel]

/-! ## The order -/

/-- The order of the columns of the `ORDER BY`, without equality. -/
def StoredEvent.Earlier (a b : StoredEvent) : Prop :=
  a.observedAt < b.observedAt ∨ a.observedAt = b.observedAt ∧
    (a.byteStart < b.byteStart ∨ a.byteStart = b.byteStart ∧ a.eventId < b.eventId)

open StoredEvent (Before Earlier)

instance (a b : StoredEvent) : Decidable (a.Earlier b) :=
  inferInstanceAs (Decidable (a.observedAt < b.observedAt ∨ a.observedAt = b.observedAt ∧
    (a.byteStart < b.byteStart ∨ a.byteStart = b.byteStart ∧ a.eventId < b.eventId)))

theorem Earlier.irrefl (a : StoredEvent) : ¬ a.Earlier a := by
  rintro (h | ⟨-, h | ⟨-, h⟩⟩)
  · exact Std.lt_irrefl h
  · omega
  · omega

theorem Earlier.trans {a b c : StoredEvent} (hab : a.Earlier b) (hbc : b.Earlier c) :
    a.Earlier c := by
  unfold Earlier at *
  grind

theorem Before.trans {a b c : StoredEvent} (hab : a.Before b) (hbc : b.Before c) : a.Before c := by
  unfold Before at *
  grind

theorem Before.total (a b : StoredEvent) : a.Before b ∨ b.Before a := by
  unfold Before at *
  grind

theorem Before.earlier {a b : StoredEvent} (h : a.Before b) (hne : a.eventId ≠ b.eventId) :
    a.Earlier b := by
  unfold Before Earlier at *
  grind

/-- The row `a` comes before `b` in the direction of the query. -/
def EventRecord.Precedes (reverse : Bool) (a b : EventRecord) : Prop :=
  if reverse then b.stored.Earlier a.stored else a.stored.Earlier b.stored

open EventRecord (Precedes stored)

instance (reverse : Bool) : DecidableRel (Precedes reverse) := fun a b =>
  inferInstanceAs (Decidable
    (if reverse then b.stored.Earlier a.stored else a.stored.Earlier b.stored))

instance (reverse : Bool) : IsStrictOrder EventRecord (Precedes reverse) where
  irrefl a h := by
    cases reverse with
    | false => exact Earlier.irrefl _ h
    | true => exact Earlier.irrefl _ h
  trans a b c hab hbc := by
    cases reverse with
    | false => exact Earlier.trans hab hbc
    | true => exact Earlier.trans hbc hab

instance (reverse : Bool) :
    Std.Total fun a b : EventRecord => OrderBy reverse a.stored b.stored where
  total a b := by
    cases reverse with
    | false => exact Before.total a.stored b.stored
    | true => exact Before.total b.stored a.stored

instance (reverse : Bool) :
    IsTrans EventRecord fun a b => OrderBy reverse a.stored b.stored where
  trans a b c hab hbc := by
    cases reverse with
    | false => exact Before.trans hab hbc
    | true => exact Before.trans hbc hab

theorem precedes_of_orderBy {reverse : Bool} {a b : EventRecord}
    (h : OrderBy reverse a.stored b.stored) (hne : a.eventId ≠ b.eventId) :
    a.Precedes reverse b := by
  cases reverse with
  | false => exact Before.earlier h hne
  | true => exact Before.earlier h hne.symm

def recordCursor (reverse : Bool) (e : EventRecord) : Cursor :=
  ⟨e.eventId, reverse, some (e.observedAt, e.stored.byteStart)⟩

theorem past_recordCursor {reverse : Bool} {last e : EventRecord} :
    (recordCursor reverse last).past e.stored = true ↔ last.Precedes reverse e := by
  cases reverse with
  | false =>
    show decide _ = true ↔ last.stored.Earlier e.stored
    rw [decide_eq_true_eq]
    unfold Earlier
    grind [stored, recordCursor]
  | true =>
    show decide _ = true ↔ e.stored.Earlier last.stored
    rw [decide_eq_true_eq]
    unfold Earlier
    grind [stored, recordCursor]

/-! ## One page -/

/-- What `encode_cursor` asks of the last row of a page. -/
def EventRecord.Encodable (e : EventRecord) : Prop :=
  0 < e.eventId ∧ e.eventId ≤ maxSafeCursorEventId ∧ e.observedAt ≠ ""

instance (e : EventRecord) : Decidable e.Encodable :=
  inferInstanceAs (Decidable (0 < e.eventId ∧ e.eventId ≤ maxSafeCursorEventId ∧ e.observedAt ≠ ""))

theorem encodeCursor_recordCursor {e : EventRecord} (h : e.Encodable) (reverse : Bool) :
    encodeCursor (recordCursor reverse e) = .ok (recordCursor reverse e) := by
  obtain ⟨hpos, hsafe, hobserved⟩ := h
  simp only [encodeCursor, recordCursor, Nat.ne_of_gt hpos, Nat.not_lt.mpr hsafe, hobserved,
    neg_one_le_byteStart e.stored, if_false]

def recordToken (reverse : Bool) (e : EventRecord) : String := cursorText (recordCursor reverse e)

theorem decodeStart_recordToken {reverse : Bool} {start : Option EventRecord}
    (h : ∀ l ∈ start, l.Encodable) :
    decodeStart (start.map (recordToken reverse)) = .ok (start.map (recordCursor reverse)) := by
  cases start with
  | none => rfl
  | some last =>
    have hdecode := decodeCursorText_cursorText (encodeCursor_recordCursor (h last rfl) reverse)
    show (decodeCursorText (cursorText (recordCursor reverse last))).map some = _
    rw [hdecode]
    rfl

theorem eventPage_of_encodable {found : List EventRecord} (h : ∀ e ∈ found, e.Encodable)
    (limit : Nat) (reverse : Bool) :
    eventPage found limit reverse = .ok ⟨found.take limit,
      if limit < found.length then (found.take limit).getLast?.map (recordToken reverse) else none⟩ := by
  unfold eventPage
  by_cases hmore : limit < found.length
  · simp only [if_pos hmore]
    cases hlast : (found.take limit).getLast? with
    | none => rfl
    | some last =>
      have hencode := encodeCursor_recordCursor
        (h last (mem_of_mem_take (mem_of_getLast? hlast))) reverse
      rw [recordCursor] at hencode
      simp only [encodeCursorText, hencode, Except.map]
      rfl
  · simp only [if_neg hmore]

section Page

variable {t : EventRecords} {f : EventQuery} {reverse : Bool} {start : Option EventRecord}

theorem mem_selectedRecords {e : EventRecord} :
    e ∈ selectedRecords t.rows f (start.map (recordCursor reverse)) reverse ↔
      e ∈ t.rows.filter f.selects ∧ Past (Precedes reverse) start e := by
  have hpast : ((start.map (recordCursor reverse)).all fun c => c.past e.stored) = true ↔
      Past (Precedes reverse) start e := by
    cases start with
    | none => simp [Past]
    | some last => simp [Past, past_recordCursor]
  rw [selectedRecords, mem_insertionSort, mem_filter, mem_filter, Bool.and_eq_true,
    hpast, and_assoc]

theorem pairwise_selectedRecords (cursor : Option Cursor) :
    (selectedRecords t.rows f cursor reverse).Pairwise (Precedes reverse) := by
  unfold selectedRecords
  have hsorted := pairwise_insertionSort
    (fun a b : EventRecord => OrderBy reverse a.stored b.stored)
    (t.rows.filter fun e => f.selects e && cursor.all fun c => c.past e.stored)
  have hids : (t.rows.filter fun e => f.selects e && cursor.all fun c => c.past e.stored).Pairwise
      fun a b => a.eventId ≠ b.eventId :=
    (t.sorted.filter _).imp Nat.ne_of_lt
  have hne := (perm_insertionSort (fun a b : EventRecord => OrderBy reverse a.stored b.stored)
    _).pairwise_iff (fun h => Ne.symm h) |>.mpr hids
  exact (hsorted.and hne).imp fun h => precedes_of_orderBy h.1 h.2

theorem selectEventPage_cut {limit : Int} (hlimit : 0 < limit) (hfits : limit + 1 < 2 ^ 63)
    (hrows : ∀ e ∈ t.rows, e.Encodable) (hstart : ∀ l ∈ start, l.Encodable) :
    ∃ page, selectEventPage t.rows f limit reverse (start.map (recordToken reverse)) = .ok page ∧
      Cut (Precedes reverse) (recordToken reverse) (t.rows.filter f.selects) start
        page := by
  have hdirection :
      ((start.map (recordCursor reverse)).any fun c => c.reverse != reverse) = false := by
    cases start with
    | none => rfl
    | some last => simp [recordCursor]
  have hencodable : ∀ e ∈ selectedRecords t.rows f (start.map (recordCursor reverse)) reverse,
      e.Encodable := fun e he => hrows e (mem_of_mem_filter (mem_selectedRecords.mp he).1)
  have hcut : ∀ page, eventPage (selectedRecords t.rows f (start.map (recordCursor reverse)) reverse)
      limit.toNat reverse = .ok page → Cut (Precedes reverse) (recordToken reverse)
        (t.rows.filter f.selects) start page := by
    intro page hpage
    rw [eventPage_of_encodable hencodable] at hpage
    cases hpage
    exact Keyset.Cut.of_take (show 0 < limit.toNat by omega)
      (pairwise_selectedRecords (start.map (recordCursor reverse))) (fun e => mem_selectedRecords)
      rfl rfl
  have hpage := eventPage_of_encodable hencodable limit.toNat reverse
  refine ⟨_, ?_, hcut _ hpage⟩
  simp only [selectEventPage, Int.not_le.mpr hlimit, decodeStart_recordToken hstart,
    hdirection, Bool.false_eq_true, if_false, Int.not_le.mpr hfits, hpage, Except.mapError]

end Page

/-! ## The walk of a client -/

/-- The table at each call; `inserts n` come between call `n` and the next. -/
def tableAt (t : EventRecords) (inserts : Nat → List EventRecord) : Nat → EventRecords
  | 0 => t
  | n + 1 => (inserts n).foldl insertRecord (tableAt t inserts n)

/-- The pages of at most `calls` calls, each with the cursor of the one before. -/
def walkEvents (t : EventRecords) (inserts : Nat → List EventRecord) (f : EventQuery) (limit : Int)
    (reverse : Bool) (calls : Nat) : Except PageError (List (Page EventRecord String)) :=
  Keyset.walk (fun n => selectEventPage (tableAt t inserts n).rows f limit reverse) calls 0 none

theorem subset_foldl_insertRecord (es : List EventRecord) (t : EventRecords) :
    t.rows ⊆ (es.foldl insertRecord t).rows := by
  induction es generalizing t with
  | nil => exact List.Subset.refl _
  | cons e es ih => exact fun a ha => ih (insertRecord t e) (Log.mem_push_of_mem ha)

theorem tableAt_settled {t : EventRecords} {inserts : Nat → List EventRecord} {settled : Nat}
    (h : ∀ m, settled ≤ m → inserts m = []) {m : Nat} (hm : settled ≤ m) :
    tableAt t inserts m = tableAt t inserts settled := by
  induction m, hm using Nat.le_induction with
  | base => rfl
  | succ m hm ih =>
    rw [tableAt, h m hm]
    exact ih

/-- However many events are inserted between the calls: no call fails, what the pages have together is
in the order of the query, so nothing comes twice, and each row matches; a page has no cursor exactly if
no matching row comes after what has been returned; a walk that has reached such a page has returned
every matching row of the start exactly once; and if the inserts stop, it reaches one. -/
theorem event_pages_complete (t : EventRecords) (inserts : Nat → List EventRecord) (f : EventQuery)
    (limit : Int) (reverse : Bool) (hlimit : 0 < limit) (hfits : limit + 1 < 2 ^ 63)
    (hrows : ∀ n, ∀ e ∈ (tableAt t inserts n).rows, e.Encodable) :
    (∀ calls, ∃ pages, walkEvents t inserts f limit reverse calls = .ok pages ∧
      (pages.flatMap Page.rows).Pairwise (Precedes reverse) ∧
      (∀ i page, pages[i]? = some page →
        (∀ e ∈ page.rows, e ∈ (tableAt t inserts i).rows ∧ f.selects e = true) ∧
        (page.cursorNext = none ↔ ∀ e ∈ (tableAt t inserts i).rows, f.selects e = true →
          ¬ ∀ a ∈ (pages.take (i + 1)).flatMap Page.rows, a.Precedes reverse e)) ∧
      (Ended pages → ∀ e ∈ t.rows, f.selects e = true →
        (pages.flatMap Page.rows).count e = 1)) ∧
    (∀ settled, (∀ m, settled ≤ m → inserts m = []) →
      ∃ calls pages, walkEvents t inserts f limit reverse calls = .ok pages ∧ Ended pages) := by
  have hcall : ∀ n (start : Option EventRecord),
      (∀ l ∈ start, ∃ m, l ∈ (tableAt t inserts m).rows.filter f.selects) →
      ∃ page, selectEventPage (tableAt t inserts n).rows f limit reverse
          (start.map (recordToken reverse)) = .ok page ∧
        Cut (Precedes reverse) (recordToken reverse)
          ((tableAt t inserts n).rows.filter f.selects) start page := by
    intro n start hstart
    refine selectEventPage_cut hlimit hfits (hrows n) fun l hl => ?_
    obtain ⟨m, hm⟩ := hstart l hl
    exact hrows m l (mem_of_mem_filter hm)
  have hgrow : ∀ n, (tableAt t inserts n).rows.filter f.selects ⊆
      (tableAt t inserts (n + 1)).rows.filter f.selects :=
    fun n => filter_subset _ (subset_foldl_insertRecord (inserts n) _)
  constructor
  · intro calls
    obtain ⟨pages, hpages, hwalked⟩ := Keyset.walk_from_start hcall hgrow calls
    refine ⟨pages, hpages, hwalked.sorted, ?_, ?_⟩
    · intro i page hi
      have hmem := hwalked.mem i page hi
      have hends := hwalked.ends i page hi
      rw [Nat.zero_add] at hmem hends
      refine ⟨fun e he => mem_filter.mp (hmem e he).1, ?_⟩
      rw [hends]
      simp only [mem_filter, past_none, not_forall, exists_prop, and_imp, forall_const]
    · intro hended e he hselects
      have hmem := hwalked.complete hended e (mem_filter.mpr ⟨he, hselects⟩) (past_none e)
      exact count_eq_one_of_mem (hwalked.sorted.imp fun h => ne_of_irrefl h) hmem
  · intro settled hsettled
    have hrest : ∀ m, settled ≤ m → (tableAt t inserts m).rows.filter f.selects =
        (tableAt t inserts settled).rows.filter f.selects :=
      fun m hm => by rw [tableAt_settled hsettled hm]
    exact Keyset.walk_ends hcall hrest

def sampleRecord (eventId : Nat) (observedAt : String) : EventRecord where
  eventId := eventId
  eventType := "activity"
  agentId := "agt_0123456789ab"
  attachmentId := some "atc_0123456789ab"
  logPath := some "/logs/a.log"
  byteRangeStart := some (10 * eventId)
  byteRangeEnd := some (10 * eventId + 10)
  lineOffsetStart := some eventId
  lineOffsetEnd := some (eventId + 1)
  observedAt := observedAt
  recordAt := none
  excerpt := "line"
  classifierRuleId := some "activity.v1"
  debounceWindowId := none
  debounceCollapsedCount := 1
  debounceWindowStartedAt := none
  debounceWindowEndedAt := none
  schemaVersion := 1
  jsonlAppendedAt := none

def everyEvent : EventQuery := ⟨none, [], none, none⟩

def sampleRecords : EventRecords :=
  ⟨[sampleRecord 1 "2026-01-01T00:00:05Z", sampleRecord 2 "2026-01-01T00:00:04Z",
    sampleRecord 3 "2026-01-01T00:00:06Z"], by decide⟩

/-- An event of an earlier time than what has been returned comes between the first two calls. -/
def sampleInserts : Nat → List EventRecord
  | 0 => [sampleRecord 0 "2026-01-01T00:00:04Z"]
  | _ => []

theorem encodable_sampleRecords (n : Nat) :
    ∀ e ∈ (tableAt sampleRecords sampleInserts n).rows, e.Encodable := by
  cases n with
  | zero => decide
  | succ n =>
    rw [tableAt_settled (t := sampleRecords) (fun m (hm : 1 ≤ m) => by cases m <;> trivial)
      (Nat.le_add_left 1 n)]
    decide

theorem event_pages_complete_sample :
    ∃ calls pages, walkEvents sampleRecords sampleInserts everyEvent 2 false calls = .ok pages ∧
      Ended pages :=
  (event_pages_complete sampleRecords sampleInserts everyEvent 2 false (by decide) (by decide)
    encodable_sampleRecords).2 1 fun m hm => by cases m <;> trivial

/-- Without an observation time, and with an id above the safe range, there is no cursor for the last
row of a page: the first call fails, and the rows are not returned. -/
theorem no_cursor_no_page :
    (∃ t : EventRecords, t.rows = [sampleRecord 1 "", sampleRecord 2 ""] ∧
      ∀ calls, walkEvents t (fun _ => []) everyEvent 1 false (calls + 1) =
        .error (.select (.cursorError "observed_at must be a non-empty string"))) ∧
    ∃ t : EventRecords, t.rows = [sampleRecord (2 ^ 53) "2026-01-01T00:00:05Z",
        sampleRecord (2 ^ 53 + 1) "2026-01-01T00:00:06Z"] ∧
      ∀ calls, walkEvents t (fun _ => []) everyEvent 1 false (calls + 1) =
        .error (.select (.cursorError
          "event_id 9007199254740992 exceeds safe-cursor range (9007199254740991)")) :=
  ⟨⟨⟨_, by decide⟩, rfl, fun _ => rfl⟩, ⟨_, by decide⟩, rfl, fun _ => rfl⟩

end AgentTower.Events
