import AgentTower.Events.Jsonl
import AgentTower.Lib.Outbox
import Mathlib.Data.Finset.Lattice.Lemmas

/-!
# The JSONL file as an outbox

The rows of the reader are the items of an `Outbox` and their lines the copies, as long as no append
leaves a part of its line in the file.  `os.write` may do that, and `append_event` does not look at
what it returns.
-/

namespace AgentTower.Events

open Transition List Option
open Logs
open Outbox (Step ext)
open EventLog (markedIds mem_itemIds mem_markedIds mem_pendingRows pendingRows setMark_of_ne)

/-! ## The outbox -/

variable {file : List JsonlPiece} {t : EventLog} {pass : JsonlPass} {phase : JsonlPhase}
  {rest : List CommittedEvent}

theorem linesFrom_of_whole (h : ∀ p ∈ file, p.whole = true) :
    linesFrom true file = file.filterMap JsonlPiece.record := by
  induction file with
  | nil => rfl
  | cons p rest ih =>
    have hp : p.whole = true := h p mem_cons_self
    rw [linesFrom, hp, ih fun q hq => h q (mem_cons_of_mem _ hq)]
    cases hrecord : p.record with
    | none => simp [hrecord]
    | some record => simp [hrecord]

namespace JsonlState

def lines (s : JsonlState) : List JsonlRecord := linesFrom true s.file

def lineCount (s : JsonlState) (eventId : Nat) : Nat :=
  s.lines.countP fun record => decide (record.eventId = eventId)

def outbox (s : JsonlState) : Outbox Nat where
  items := s.events.itemIds
  marked := s.events.markedIds
  copies := ↑(s.lines.map JsonlRecord.eventId)
  copied := s.phase.copied
  givenUp := ↑(s.interrupted ++ s.lateErrors)

theorem count_copies (s : JsonlState) (eventId : Nat) :
    s.outbox.copies.count eventId = s.lineCount eventId := by
  unfold outbox lineCount
  rw [Multiset.coe_count, count_eq_countP, countP_map]
  refine countP_congr fun record _ => ?_
  simp

end JsonlState

def wholeWrites : JsonlLabel → Bool
  | .append o => o.wholeLine
  | .appendDied written => written.all id
  | .otherAppend whole => whole
  | _ => true

structure JsonlInv (s : JsonlState) : Prop where
  whole : ∀ p ∈ s.file, p.whole = true
  pending : ∀ e ∈ s.phase.unmarked, e ∈ s.events.pendingRows
  sorted : s.phase.unmarked.Pairwise fun a b => a.eventId < b.eventId
  notifying : ∀ i, s.phase.notifies = some i → i ∈ s.events.markedIds
  notified : ∀ i ∈ s.notified, i ∈ s.events.markedIds
  outbox : s.outbox.Inv

theorem JsonlInv.init : JsonlInv JsonlState.init where
  whole _ hp := by cases hp
  pending _ he := by cases he
  sorted := List.Pairwise.nil
  notifying _ h := by cases h
  notified _ hi := by cases hi
  outbox := ⟨nofun, nofun, fun i => rfl⟩

/-! ## What a step does -/

section

variable (s : JsonlState) (pass : JsonlPass) (e : CommittedEvent) (todo : List CommittedEvent)

theorem afterAppend_cases {o : AppendOutcome} (ho : o.wholeLine = true) :
    s.afterAppend pass e todo o =
        { s with file := s.file ++ [⟨some e.record, true⟩], phase := .appended pass e todo } ∨
      ∃ phase, (phase = .working pass todo ∨ phase = .idle) ∧
        (s.afterAppend pass e todo o = { s with phase } ∨
          ∃ interrupted lateErrors : List Nat,
            (interrupted ++ lateErrors).Perm (e.eventId :: (s.interrupted ++ s.lateErrors)) ∧
            s.afterAppend pass e todo o =
              { s with
                file := s.file ++ [⟨some e.record, true⟩]
                phase
                interrupted
                lateErrors }) := by
  have hnothing : s.file ++ [] = s.file := append_nil _
  have hlate : (s.interrupted ++ (s.lateErrors ++ [e.eventId])).Perm
      (e.eventId :: (s.interrupted ++ s.lateErrors)) := by
    rw [← append_assoc]
    exact perm_append_singleton _ _
  match o with
  | .returned true => exact .inl rfl
  | .returned false | .oserror _ (some false) | .exception _ (some false) => cases ho
  | .oserror _ none =>
    refine .inr ⟨_, .inl rfl, .inl ?_⟩
    simp only [JsonlState.afterAppend, piecesOf, AppendOutcome.written, toList_none, map_nil,
      hnothing, reduceCtorEq, if_false]
  | .exception _ none =>
    refine .inr ⟨_, .inr rfl, .inl ?_⟩
    simp only [JsonlState.afterAppend, piecesOf, AppendOutcome.written, toList_none, map_nil,
      hnothing, reduceCtorEq, if_false]
  | .oserror _ (some true) => exact .inr ⟨_, .inl rfl, .inr ⟨_, _, hlate, rfl⟩⟩
  | .exception _ (some true) => exact .inr ⟨_, .inr rfl, .inr ⟨_, _, hlate, rfl⟩⟩

theorem afterAppendDied_cases {written : Option Bool} (hwhole : written.all id = true) :
    s.afterAppendDied e written = { s with phase := .idle } ∨
      s.afterAppendDied e written =
        { s with
          file := s.file ++ [⟨some e.record, true⟩]
          phase := .idle
          interrupted := s.interrupted ++ [e.eventId] } := by
  match written with
  | none =>
    left
    simp only [JsonlState.afterAppendDied, piecesOf, toList_none, map_nil, append_nil,
      reduceCtorEq, if_false]
  | some false => cases hwhole
  | some true => exact .inr rfl

theorem afterMark_cases (nowIso : String) (o : MarkOutcome) :
    (∃ phase, (phase = .notifying e todo ∨ phase = .working pass todo ∨ phase = .idle) ∧
      s.afterMark pass e todo nowIso o =
        { s with events := s.events.markJsonlAppended e.eventId nowIso, phase }) ∨
      ∃ phase, (phase = .working pass todo ∨ phase = .idle) ∧
        s.afterMark pass e todo nowIso o =
          { s with interrupted := s.interrupted ++ [e.eventId], phase } := by
  match o, pass with
  | .committed, .emit => exact .inl ⟨_, .inl rfl, rfl⟩
  | .committed, .retry => exact .inl ⟨_, .inr (.inl rfl), rfl⟩
  | .sqliteError, .emit => exact .inr ⟨_, .inl rfl, rfl⟩
  | .sqliteError, .retry => exact .inr ⟨_, .inr rfl, rfl⟩
  | .exception, _ => exact .inr ⟨_, .inr rfl, rfl⟩
  | .died true, _ => exact .inl ⟨_, .inr (.inr rfl), rfl⟩
  | .died false, _ => exact .inr ⟨_, .inr rfl, rfl⟩

end

/-- The steps as the outbox sees them. -/
inductive JsonlEffect (s : JsonlState) : JsonlState → Prop
  /-- The table changes in rows that are not the reader's. -/
  | audit {events : EventLog}
      (hrows : ∀ e, e.classified = true → (e ∈ events.rows ↔ e ∈ s.events.rows)) :
      JsonlEffect s { s with events }
  | otherLine : JsonlEffect s { s with file := s.file ++ [⟨none, true⟩] }
  | emitted {events : EventLog} {committed : List CommittedEvent}
      (hidle : s.phase.unmarked = [] ∧ s.phase.copied = none)
      (hrows : events.rows = s.events.rows ++ committed)
      (hnew : ∀ e ∈ committed, e.pending = true) :
      JsonlEffect s { s with events, phase := .working .emit committed }
  | retrying (hidle : s.phase.unmarked = [] ∧ s.phase.copied = none) :
      JsonlEffect s { s with phase := .working .retry (s.events.selectPendingJsonl retryLimit) }
  | copied {pass : JsonlPass} {e : CommittedEvent} {todo : List CommittedEvent}
      (hphase : s.phase = .working pass (e :: todo)) :
      JsonlEffect s
        { s with file := s.file ++ [⟨some e.record, true⟩], phase := .appended pass e todo }
  | skipped {pass : JsonlPass} {e : CommittedEvent} {todo : List CommittedEvent}
      {phase : JsonlPhase} (hphase : s.phase = .working pass (e :: todo))
      (hnext : phase = .working pass todo ∨ phase = .idle) : JsonlEffect s { s with phase }
  | lost {pass : JsonlPass} {e : CommittedEvent} {todo : List CommittedEvent} {phase : JsonlPhase}
      {interrupted lateErrors : List Nat} (hphase : s.phase = .working pass (e :: todo))
      (hnext : phase = .working pass todo ∨ phase = .idle)
      (hgivenUp : (interrupted ++ lateErrors).Perm (e.eventId :: (s.interrupted ++ s.lateErrors))) :
      JsonlEffect s
        { s with
          file := s.file ++ [⟨some e.record, true⟩]
          phase
          interrupted
          lateErrors }
  | marked {pass : JsonlPass} {e : CommittedEvent} {todo : List CommittedEvent} {nowIso : String}
      {phase : JsonlPhase} (hphase : s.phase = .appended pass e todo)
      (hnext : phase = .notifying e todo ∨ phase = .working pass todo ∨ phase = .idle) :
      JsonlEffect s
        { s with events := s.events.markJsonlAppended e.eventId nowIso, phase }
  | unmarked {pass : JsonlPass} {e : CommittedEvent} {todo : List CommittedEvent}
      {phase : JsonlPhase} (hphase : s.phase = .appended pass e todo)
      (hnext : phase = .working pass todo ∨ phase = .idle) :
      JsonlEffect s { s with interrupted := s.interrupted ++ [e.eventId], phase }
  | notified {e : CommittedEvent} {todo : List CommittedEvent} {notified : List Nat}
      (hphase : s.phase = .notifying e todo)
      (hnotified : ∀ i ∈ notified, i ∈ s.notified ∨ i = e.eventId) :
      JsonlEffect s { s with phase := .working .emit todo, notified }
  | stopped (hcopied : s.phase.copied = none) : JsonlEffect s { s with phase := .idle }

variable {e : CommittedEvent} {s s' : JsonlState} {todo : List CommittedEvent}

theorem mem_rows_auditMark {eventId : Nat} {tsIso : String}
    (h : (t.rows.any fun e => decide (e.eventId = eventId) && e.classified) = false)
    (he : e.classified = true) :
    e ∈ (t.markJsonlAppended eventId tsIso).rows ↔ e ∈ t.rows := by
  have hne : ∀ e ∈ t.rows, e.classified = true → e.eventId ≠ eventId := by
    intro e he hclassified hid
    have htest := any_eq_false.mp h e he
    simp [hid, hclassified] at htest
  constructor
  · intro hmem
    obtain ⟨e₀, he₀, rfl⟩ := mem_map.mp hmem
    rw [EventLog.classified_setMark] at he
    rw [setMark_of_ne (hne e₀ he₀ he)]
    exact he₀
  · exact fun hmem => mem_map.mpr ⟨e, hmem, setMark_of_ne (hne e hmem he)⟩

theorem emission_unmarked {source : Emission} {row : EventRow} (h : row ∈ source.rows) :
    row.jsonlAppendedAt = none := by
  cases source with
  | batch a events =>
    obtain ⟨ev, -, rfl⟩ := mem_map.mp h
    rfl
  | synthetic eventType ruleId a offsets nowIso =>
    rw [mem_singleton.mp h]
    rfl

theorem jsonlStep_effect {l : JsonlLabel} (hok : wholeWrites l = true)
    (h : jsonlStep s l = some s') : JsonlEffect s s' := by
  cases l with
  | auditInsert row =>
    simp only [jsonlStep] at h
    split at h <;> cases h
    rename_i htype
    refine .audit fun e he => ⟨fun hmem => ?_, fun hmem => mem_append_left _ hmem⟩
    rcases mem_append.mp hmem with hold | hnew
    · exact hold
    · rw [mem_singleton.mp hnew] at he
      exact absurd (of_decide_eq_true he) htype
  | auditMark eventId tsIso =>
    simp only [jsonlStep] at h
    split at h <;> cases h
    rename_i hany
    exact .audit fun e he => mem_rows_auditMark (Bool.not_eq_true _ ▸ hany) he
  | otherAppend whole =>
    cases h
    rw [show whole = true from hok]
    exact .otherLine
  | emit source =>
    simp only [jsonlStep] at h
    split at h
    · rename_i hphase
      split at h <;> cases h
      rename_i htypes
      refine .emitted (by rw [hphase]; exact ⟨rfl, rfl⟩) (EventLog.insertEvents_rows _ _)
        fun e he => ?_
      have hrow := EventLog.row_mem_of_insertEvents he
      have htype := all_eq_true.mp htypes e.row hrow
      simp [CommittedEvent.pending, CommittedEvent.classified, CommittedEvent.marked,
        emission_unmarked hrow, of_decide_eq_true htype]
    · cases h
  | retry =>
    simp only [jsonlStep] at h
    split at h <;> cases h
    rename_i hphase
    exact .retrying (by rw [hphase]; exact ⟨rfl, rfl⟩)
  | append o =>
    simp only [jsonlStep] at h
    split at h <;> cases h
    rename_i pass e todo hphase
    rcases afterAppend_cases s pass e todo hok with heq | ⟨phase, hnext, heq |
      ⟨interrupted, lateErrors, hgivenUp, heq⟩⟩
    · rw [heq]
      exact .copied hphase
    · rw [heq]
      exact .skipped hphase hnext
    · rw [heq]
      exact .lost hphase hnext hgivenUp
  | appendDied written =>
    simp only [jsonlStep] at h
    split at h <;> cases h
    rename_i pass e todo hphase
    rcases afterAppendDied_cases s e hok with heq | heq
    · rw [heq]
      exact .skipped hphase (.inr rfl)
    · rw [heq]
      refine .lost hphase (.inr rfl) ?_
      rw [append_assoc]
      exact perm_middle
  | mark nowIso o =>
    simp only [jsonlStep] at h
    split at h <;> cases h
    rename_i pass e todo hphase
    rcases afterMark_cases s pass e todo nowIso o with ⟨phase, hnext, heq⟩ | ⟨phase, hnext, heq⟩
    · rw [heq]
      exact .marked hphase hnext
    · rw [heq]
      exact .unmarked hphase hnext
  | notify registered =>
    simp only [jsonlStep] at h
    split at h <;> cases h
    rename_i e todo hphase
    refine .notified hphase fun i hi => ?_
    split at hi
    · exact (mem_append.mp hi).imp_right mem_singleton.mp
    · exact .inl hi
  | crash =>
    cases h
    cases hphase : s.phase with
    | appended pass e todo =>
      exact .unmarked hphase (.inr rfl)
    | working pass todo | notifying e todo =>
      simp only [JsonlPhase.copied, toList_none, append_nil]
      exact .stopped (by rw [hphase]; rfl)

/-! ## The steps on the outbox -/

section Ids

variable {t t' : EventLog}

theorem ids_of_classified (h : ∀ e, e.classified = true → (e ∈ t'.rows ↔ e ∈ t.rows)) :
    t'.itemIds = t.itemIds ∧ t'.markedIds = t.markedIds ∧
      ∀ e, e ∈ t'.pendingRows ↔ e ∈ t.pendingRows := by
  refine ⟨?_, ?_, fun e => ?_⟩
  · ext i
    simp only [mem_itemIds]
    exact exists_congr fun e => and_congr_left fun he => h e he.1
  · ext i
    simp only [mem_markedIds]
    exact exists_congr fun e => and_congr_left fun he => h e he.1
  · simp only [mem_pendingRows]
    exact and_congr_left fun he => h e he.1

theorem ids_of_append {committed : List CommittedEvent} (hrows : t'.rows = t.rows ++ committed)
    (hnew : ∀ e ∈ committed, e.pending = true) :
    t'.itemIds = t.itemIds ∪ (committed.map CommittedEvent.eventId).toFinset ∧
      t'.markedIds = t.markedIds ∧ t'.pendingRows = t.pendingRows ++ committed := by
  have hclassified : ∀ e ∈ committed, e.classified = true ∧ e.marked = false := fun e he => by
    simpa [CommittedEvent.pending] using hnew e he
  refine ⟨?_, ?_, ?_⟩
  · unfold EventLog.itemIds
    rw [hrows, filter_append, map_append, toFinset_append,
      filter_eq_self.mpr fun e he => (hclassified e he).1]
  · have hnone : committed.filter (fun e => e.classified && e.marked) = [] :=
      filter_eq_nil_iff.mpr fun e he => by simp [hclassified e he]
    unfold markedIds
    rw [hrows, filter_append, hnone, append_nil]
  · unfold pendingRows
    rw [hrows, filter_append, filter_eq_self.mpr hnew]

theorem markedIds_mark {e : CommittedEvent} (he : e ∈ t.pendingRows) (tsIso : String) :
    (t.markJsonlAppended e.eventId tsIso).markedIds = insert e.eventId t.markedIds := by
  obtain ⟨hmem, hclassified, -⟩ := mem_pendingRows.mp he
  have hitem : e.eventId ∈ t.itemIds := mem_itemIds.mpr ⟨e, hmem, hclassified, rfl⟩
  ext i
  rw [EventLog.mem_markedIds_mark, Finset.mem_insert, or_comm]
  refine or_congr_left ⟨And.left, fun hi => ⟨hi, hi ▸ hitem⟩⟩

end Ids

section Lines

theorem whole_append (h : ∀ p ∈ file, p.whole = true)
    (record : Option JsonlRecord) : ∀ p ∈ file ++ [⟨record, true⟩], p.whole = true := by
  intro p hp
  rcases mem_append.mp hp with hp | hp
  · exact h p hp
  · rw [mem_singleton.mp hp]

variable {s : JsonlState}

theorem lines_append (hwhole : ∀ p ∈ s.file, p.whole = true) (record : Option JsonlRecord) :
    linesFrom true (s.file ++ [⟨record, true⟩]) = s.lines ++ record.toList := by
  rw [linesFrom_of_whole (whole_append hwhole record), filterMap_append, JsonlState.lines, linesFrom_of_whole hwhole]
  cases record <;> rfl

theorem copies_append (hwhole : ∀ p ∈ s.file, p.whole = true) (e : CommittedEvent) :
    (↑((linesFrom true (s.file ++ [⟨some e.record, true⟩])).map JsonlRecord.eventId) :
      Multiset Nat) = e.eventId ::ₘ s.outbox.copies := by
  rw [lines_append hwhole, map_append]
  exact Multiset.coe_eq_coe.mpr (perm_append_singleton _ _)

end Lines

theorem JsonlInv.unmarked_item (hinv : JsonlInv s)
    (he : e ∈ s.phase.unmarked) : e.eventId ∈ s.outbox.items ∧ e.eventId ∉ s.outbox.marked := by
  have hpending := hinv.pending e he
  obtain ⟨hmem, hclassified, -⟩ := mem_pendingRows.mp hpending
  exact ⟨mem_itemIds.mpr ⟨e, hmem, hclassified, rfl⟩, EventLog.not_mem_markedIds hpending⟩

theorem copied_of_next (h : phase = .working pass todo ∨ phase = .idle) : phase.copied = none := by
  rcases h with rfl | rfl <;> rfl

/-- A step of the reader is at most two steps of the outbox: an append that leaves a line and raises
is a copy that is given up. -/
theorem JsonlEffect.outbox (hinv : JsonlInv s) (h : JsonlEffect s s') :
    Relation.ReflTransGen Step s.outbox s'.outbox := by
  have hsteps : ∀ {o : Outbox Nat}, Relation.ReflTransGen Step s.outbox o → s'.outbox = o →
      Relation.ReflTransGen Step s.outbox s'.outbox := fun h heq => heq ▸ h
  cases h with
  | audit hrows =>
    obtain ⟨hitems, hmarked, -⟩ := ids_of_classified hrows
    exact hsteps .refl (ext hitems hmarked rfl rfl rfl)
  | otherLine =>
    refine hsteps .refl (ext rfl rfl ?_ rfl rfl)
    show (↑((linesFrom true _).map JsonlRecord.eventId) : Multiset Nat) = _
    rw [lines_append hinv.whole, toList_none, append_nil]
    rfl
  | emitted hidle hrows hnew =>
    obtain ⟨hitems, hmarked, -⟩ := ids_of_append hrows hnew
    exact hsteps (.single (.commit _ _)) (ext hitems hmarked rfl hidle.2.symm rfl)
  | retrying hidle => exact hsteps .refl (ext rfl rfl rfl hidle.2.symm rfl)
  | @copied pass e todo hphase =>
    obtain ⟨hitem, hopen⟩ := hinv.unmarked_item (e := e) (by rw [hphase]; exact mem_cons_self)
    have hnone : s.outbox.copied = none := congrArg JsonlPhase.copied hphase
    exact hsteps (.single (.copy hitem hopen hnone))
      (ext rfl rfl (copies_append hinv.whole e) rfl rfl)
  | skipped hphase hnext =>
    have hnone : s.phase.copied = none := congrArg JsonlPhase.copied hphase
    exact hsteps .refl (ext rfl rfl rfl ((copied_of_next hnext).trans hnone.symm) rfl)
  | @lost pass e todo phase interrupted lateErrors hphase hnext hgivenUp =>
    obtain ⟨hitem, hopen⟩ := hinv.unmarked_item (e := e) (by rw [hphase]; exact mem_cons_self)
    have hnone : s.outbox.copied = none := congrArg JsonlPhase.copied hphase
    exact hsteps (Outbox.copy_giveUp hitem hopen hnone)
      (ext rfl rfl (copies_append hinv.whole e) (copied_of_next hnext)
        (Multiset.coe_eq_coe.mpr hgivenUp))
  | @marked pass e todo nowIso phase hphase hnext =>
    have hpending := hinv.pending e (by rw [hphase]; exact mem_cons_self)
    have hcopied : s.outbox.copied = some e.eventId := congrArg JsonlPhase.copied hphase
    refine hsteps (.single (.mark hcopied))
      (ext (EventLog.itemIds_mark _ _ _) (markedIds_mark hpending _) rfl ?_ rfl)
    rcases hnext with rfl | hnext
    · rfl
    · exact copied_of_next hnext
  | @unmarked pass e todo phase hphase hnext =>
    have hcopied : s.outbox.copied = some e.eventId := congrArg JsonlPhase.copied hphase
    refine hsteps (.single (.giveUp hcopied)) (ext rfl rfl rfl (copied_of_next hnext) ?_)
    show (↑(s.interrupted ++ [e.eventId] ++ s.lateErrors) : Multiset Nat) = _
    rw [append_assoc]
    exact Multiset.coe_eq_coe.mpr perm_middle
  | notified hphase =>
    exact hsteps .refl (ext rfl rfl rfl (congrArg JsonlPhase.copied hphase).symm rfl)
  | stopped hcopied => exact hsteps .refl (ext rfl rfl rfl hcopied.symm rfl)

/-! ## The invariant -/

theorem unmarked_of_next (h : phase = .working pass todo ∨ phase = .idle) :
    phase.unmarked.Sublist todo ∧ phase.notifies = none := by
  rcases h with rfl | rfl
  · exact ⟨List.Sublist.refl _, rfl⟩
  · exact ⟨nil_sublist _, rfl⟩

theorem JsonlInv.shrink (hinv : JsonlInv s)
    (hwhole : ∀ p ∈ s'.file, p.whole = true) (hevents : s'.events = s.events)
    (hnotified : s'.notified = s.notified) (hsub : s'.phase.unmarked.Sublist s.phase.unmarked)
    (hphase : s'.phase.notifies = none) (houtbox : s'.outbox.Inv) : JsonlInv s' where
  whole := hwhole
  pending e he := by
    rw [hevents]
    exact hinv.pending e (hsub.subset he)
  sorted := hinv.sorted.sublist hsub
  notifying i hi := by
    rw [hphase] at hi
    cases hi
  notified i hi := by
    rw [hevents]
    exact hinv.notified i (hnotified ▸ hi)
  outbox := houtbox

theorem JsonlInv.effect (hinv : JsonlInv s) (h : JsonlEffect s s') : JsonlInv s' := by
  have houtbox : s'.outbox.Inv := hinv.outbox.steps (h.outbox hinv)
  cases h with
  | audit hrows =>
    obtain ⟨-, hmarked, hpending⟩ := ids_of_classified hrows
    refine ⟨hinv.whole, fun e he => (hpending e).mpr (hinv.pending e he), hinv.sorted,
      fun i hi => ?_, fun i hi => ?_, houtbox⟩
    · rw [hmarked]
      exact hinv.notifying i hi
    · rw [hmarked]
      exact hinv.notified i hi
  | otherLine =>
    exact ⟨whole_append hinv.whole none, hinv.pending, hinv.sorted, hinv.notifying, hinv.notified,
      houtbox⟩
  | @emitted events committed hidle hrows hnew =>
    obtain ⟨-, hmarked, hpending⟩ := ids_of_append hrows hnew
    have hsorted := events.sorted
    rw [hrows] at hsorted
    refine ⟨hinv.whole, fun e he => ?_, (pairwise_append.mp hsorted).2.1,
      nofun, fun i hi => ?_, houtbox⟩
    · rw [hpending]
      exact mem_append_right _ he
    · rw [hmarked]
      exact hinv.notified i hi
  | retrying hidle =>
    exact ⟨hinv.whole, fun e he => mem_of_mem_take he,
      (EventLog.pendingRows_sorted _).sublist (take_sublist _ _), nofun,
      hinv.notified, houtbox⟩
  | copied hphase =>
    refine hinv.shrink (whole_append hinv.whole _) rfl rfl ?_ rfl houtbox
    rw [hphase]
    exact List.Sublist.refl _
  | skipped hphase hnext | unmarked hphase hnext =>
    obtain ⟨hsub, hne⟩ := unmarked_of_next hnext
    refine hinv.shrink hinv.whole rfl rfl ?_ hne houtbox
    rw [hphase]
    exact hsub.trans (sublist_cons_self _ _)
  | lost hphase hnext hgivenUp =>
    obtain ⟨hsub, hne⟩ := unmarked_of_next hnext
    refine hinv.shrink (whole_append hinv.whole _) rfl rfl ?_ hne houtbox
    rw [hphase]
    exact hsub.trans (sublist_cons_self _ _)
  | @marked pass e todo nowIso phase hphase hnext =>
    have hopen := hinv.pending
    have hsorted := hinv.sorted
    rw [hphase] at hopen hsorted
    have hmarked := markedIds_mark (hopen e mem_cons_self) nowIso
    have hsub : phase.unmarked.Sublist todo := by
      rcases hnext with rfl | hnext
      · exact List.Sublist.refl _
      · exact (unmarked_of_next hnext).1
    obtain ⟨hfirst, hrest⟩ := pairwise_cons.mp hsorted
    refine ⟨hinv.whole, fun x hx => ?_, hrest.sublist hsub, fun i hi => ?_, fun i hi => ?_,
      houtbox⟩
    · -- the others of the list have other ids
      have hxtodo := hsub.subset hx
      show x ∈ pendingRows _
      rw [EventLog.pendingRows_mark]
      exact mem_filter.mpr ⟨hopen x (mem_cons_of_mem _ hxtodo),
        decide_eq_true (Nat.ne_of_gt (hfirst x hxtodo))⟩
    · show i ∈ markedIds _
      rw [hmarked]
      rcases hnext with rfl | hnext
      · cases hi
        exact Finset.mem_insert_self _ _
      · rw [(unmarked_of_next hnext).2] at hi
        cases hi
    · show i ∈ markedIds _
      rw [hmarked]
      exact Finset.mem_insert_of_mem (hinv.notified i hi)
  | @notified e todo notified hphase hnotified =>
    have hopen := hinv.pending
    have hsorted := hinv.sorted
    rw [hphase] at hopen hsorted
    refine ⟨hinv.whole, hopen, hsorted, nofun, fun i hi => ?_, houtbox⟩
    rcases hnotified i hi with hold | rfl
    · exact hinv.notified i hold
    · exact hinv.notifying e.eventId (by rw [hphase]; rfl)
  | stopped hcopied =>
    exact hinv.shrink hinv.whole rfl rfl (nil_sublist _) rfl houtbox

abbrev JsonlReach := Reach jsonlStep fun _ l => wholeWrites l = true

theorem JsonlInv.of_reach (h : JsonlReach JsonlState.init s) : JsonlInv s :=
  h.invariant JsonlInv JsonlInv.init fun _ _ _ hinv hok hstep =>
    hinv.effect (jsonlStep_effect hok hstep)

/-! ## Retry passes -/

def faultFree : JsonlLabel → Bool
  | .retry => true
  | .append (.returned true) => true
  | .mark _ .committed => true
  | _ => false

def JsonlPhase.betweenPasses : JsonlPhase → Bool
  | .working _ [] => true
  | _ => false

def JsonlState.RetryReturns (s : JsonlState) (e : CommittedEvent) : Prop :=
  ∃ labels s', labels.all faultFree = true ∧ run jsonlStep s labels = some s' ∧
    s'.phase.betweenPasses = true ∧ e ∈ s'.events.selectPendingJsonl retryLimit

theorem pendingRows_mark_head (h : t.pendingRows = e :: rest) (tsIso : String) :
    (t.markJsonlAppended e.eventId tsIso).pendingRows = rest := by
  have hsorted := EventLog.pendingRows_sorted t
  rw [h] at hsorted
  obtain ⟨hfirst, -⟩ := pairwise_cons.mp hsorted
  rw [EventLog.pendingRows_mark, h, filter_cons, if_neg (by simp)]
  exact filter_eq_self.mpr fun x hx => decide_eq_true (Nat.ne_of_gt (hfirst x hx))

theorem run_retry_loop (nowIso : String)
    (hphase : s.phase = .working .retry todo) (hpending : s.events.pendingRows = todo ++ rest) :
    ∃ labels s', labels.all faultFree = true ∧ run jsonlStep s labels = some s' ∧
      s'.phase.betweenPasses = true ∧ s'.events.pendingRows = rest := by
  induction todo generalizing s with
  | nil => exact ⟨[], s, rfl, rfl, by rw [hphase]; rfl, hpending⟩
  | cons e todo ih =>
    let s₁ : JsonlState :=
      { s with file := s.file ++ [⟨some e.record, true⟩], phase := .appended .retry e todo }
    let s₂ : JsonlState :=
      { s₁ with
        events := s.events.markJsonlAppended e.eventId nowIso
        phase := .working .retry todo }
    have happend : jsonlStep s (.append (.returned true)) = some s₁ := by
      simp only [jsonlStep, hphase]
      rfl
    have hmark : jsonlStep s₁ (.mark nowIso .committed) = some s₂ := rfl
    obtain ⟨labels, s', hfree, hrun, hidle, hrest⟩ := ih (s := s₂) rfl
      (pendingRows_mark_head hpending nowIso)
    refine ⟨.append (.returned true) :: .mark nowIso .committed :: labels, s', hfree, ?_, hidle, hrest⟩
    simp only [run, happend, hmark, bind_some, hrun]

theorem run_retry_passes (nowIso : String) (n : Nat) (hidle : s.phase.betweenPasses = true) :
    ∃ labels s', labels.all faultFree = true ∧ run jsonlStep s labels = some s' ∧
      s'.phase.betweenPasses = true ∧
      s'.events.pendingRows = s.events.pendingRows.drop (retryLimit * n) := by
  induction n generalizing s with
  | zero => exact ⟨[], s, rfl, rfl, hidle, rfl⟩
  | succ n ih =>
    let s₁ : JsonlState :=
      { s with phase := .working .retry (s.events.selectPendingJsonl retryLimit) }
    have hretry : jsonlStep s .retry = some s₁ := by
      cases hphase : s.phase with
      | working pass todo =>
        cases todo with
        | nil =>
          simp only [jsonlStep, hphase]
          rfl
        | cons e todo =>
          rw [hphase] at hidle
          cases hidle
      | appended | notifying =>
        rw [hphase] at hidle
        cases hidle
    obtain ⟨labels₁, s₂, hfree₁, hrun₁, hidle₂, hrest⟩ := run_retry_loop nowIso (s := s₁) rfl
      (take_append_drop retryLimit s.events.pendingRows).symm
    obtain ⟨labels₂, s', hfree₂, hrun₂, hidle', hpending⟩ := ih hidle₂
    refine ⟨.retry :: labels₁ ++ labels₂, s', ?_, ?_, hidle', ?_⟩
    · rw [all_append, hfree₂, Bool.and_true]
      exact hfree₁
    · rw [run_append, run, hretry, bind_some, hrun₁, bind_some]
      exact hrun₂
    · rw [hpending, hrest, drop_drop, Nat.mul_succ, Nat.add_comm]

theorem retryReturns (hidle : s.phase.betweenPasses = true)
    (he : e ∈ s.events.pendingRows) : s.RetryReturns e := by
  obtain ⟨p, hp, heq⟩ := getElem_of_mem he
  -- the row is in the page of its position
  obtain ⟨labels, s', hfree, hrun, hidle', hpending⟩ :=
    run_retry_passes "" (p / retryLimit) hidle
  refine ⟨labels, s', hfree, hrun, hidle', ?_⟩
  have hlimit : 0 < retryLimit := by decide
  have hmod := Nat.mod_lt p hlimit
  have hdiv := Nat.div_add_mod p retryLimit
  rw [EventLog.selectPendingJsonl, hpending]
  refine mem_iff_getElem.mpr ⟨p % retryLimit, ?_, ?_⟩
  · rw [length_take, length_drop]
    omega
  · rw [getElem_take, getElem_drop, ← heq]
    congr 1

/-! ## The result -/

theorem JsonlEffect.row_kept (h : JsonlEffect s s')
    (he : e ∈ s.events.rows) (hclassified : e.classified = true) :
    e ∈ s'.events.rows ∨
      ∃ e' ∈ s'.events.rows, e'.eventId = e.eventId ∧ e'.classified = true ∧ e'.marked = true := by
  cases h with
  | audit hrows => exact .inl ((hrows e hclassified).mpr he)
  | @emitted events committed hidle hrows hnew =>
    refine .inl ?_
    show e ∈ events.rows
    rw [hrows]
    exact mem_append_left _ he
  | @marked pass e₀ todo nowIso phase hphase hnext =>
    have hmem : EventLog.setMark e₀.eventId nowIso e ∈
        (s.events.markJsonlAppended e₀.eventId nowIso).rows := mem_map_of_mem he
    by_cases hid : e.eventId = e₀.eventId
    · refine .inr ⟨_, hmem, EventLog.eventId_setMark _ _ _, ?_, ?_⟩
      · rw [EventLog.classified_setMark, hclassified]
      · rw [EventLog.marked_setMark, decide_eq_true hid, Bool.or_true]
    · rw [setMark_of_ne hid] at hmem
      exact .inl hmem
  | otherLine | retrying | copied | skipped | lost | unmarked | notified | stopped => exact .inl he

theorem row_kept_of_reach {s₁ : JsonlState} (h : JsonlReach s s₁)
    (he : e ∈ s.events.rows) (hclassified : e.classified = true) :
    e ∈ s₁.events.rows ∨
      ∃ e' ∈ s₁.events.rows, e'.eventId = e.eventId ∧ e'.classified = true ∧ e'.marked = true := by
  refine h.invariant (fun s₁ => e ∈ s₁.events.rows ∨ ∃ e' ∈ s₁.events.rows,
    e'.eventId = e.eventId ∧ e'.classified = true ∧ e'.marked = true) (.inl he) ?_
  rintro s₂ l s₃ (hmem | ⟨e', hmem, hid, hclassified', hmark⟩) hok hstep
  · exact (jsonlStep_effect hok hstep).row_kept hmem hclassified
  · rcases (jsonlStep_effect hok hstep).row_kept hmem hclassified' with
      hkept | ⟨e'', hmem'', hid'', hclassified'', hmark''⟩
    · exact .inr ⟨e', hkept, hid, hclassified', hmark⟩
    · exact .inr ⟨e'', hmem'', hid''.trans hid, hclassified'', hmark''⟩

/-- If no write leaves a part of a line in the file: a marked row has a line; a row without a mark is
returned to a later retry pass, unless it has been marked by then; a row has at most one line more
than marks of it failed or were interrupted and appends of it raised with the line written; and a row
that a follower was notified of has its mark. -/
theorem jsonl_at_least_once {s : JsonlState} (h : JsonlReach JsonlState.init s) :
    (∀ e ∈ s.events.rows, e.classified = true →
      (e.marked = true ∧ 1 ≤ s.lineCount e.eventId) ∨
      (e.marked = false ∧ ∀ s₁, JsonlReach s s₁ → s₁.phase.betweenPasses = true →
        (∃ e₁ ∈ s₁.events.rows, e₁.eventId = e.eventId ∧ e₁.marked = true) ∨ s₁.RetryReturns e)) ∧
    (∀ i, s.lineCount i ≤ 1 + (s.interrupted.count i + s.lateErrors.count i)) ∧
    ∀ i ∈ s.notified, ∃ e ∈ s.events.rows, e.eventId = i ∧ e.marked = true := by
  have hinv := JsonlInv.of_reach h
  refine ⟨fun e he hclassified => ?_, fun i => ?_, fun i hi => ?_⟩
  · cases hmark : e.marked with
    | true =>
      have hcopies := hinv.outbox.mem_copies (mem_markedIds.mpr ⟨e, he, hclassified, hmark, rfl⟩)
      rw [← Multiset.count_pos, JsonlState.count_copies] at hcopies
      exact .inl ⟨rfl, hcopies⟩
    | false =>
      refine .inr ⟨rfl, fun s₁ hreach hidle => ?_⟩
      rcases row_kept_of_reach hreach he hclassified with hkept | ⟨e₁, he₁, hid, -, hmark₁⟩
      · exact .inr (retryReturns hidle (mem_pendingRows.mpr ⟨hkept, hclassified, hmark⟩))
      · exact .inl ⟨e₁, he₁, hid, hmark₁⟩
  · have hcount := hinv.outbox.count_copies_le i
    rw [JsonlState.count_copies] at hcount
    unfold JsonlState.outbox at hcount
    rw [Multiset.coe_count, count_append] at hcount
    exact hcount
  · obtain ⟨e, he, -, hmark, hid⟩ := mem_markedIds.mp (hinv.notified i hi)
    exact ⟨e, he, hid, hmark⟩

/-! ## Runs -/

def emissionSample (excerpts : List String) : Emission :=
  .batch (newRecord (sampleCall "/logs/a") "lat_1" "t1" none)
    (excerpts.map fun excerpt => passThrough ⟨.completed, "completed.v1", excerpt⟩ ⟨"t2", 1, 0, 2, 0, 1⟩)

/-- The line of the first event and the mark of the second fail; the retry pass gets as far as the
second line of the second event. -/
def faultySample : List JsonlLabel :=
  [.emit (emissionSample ["a", "b"]), .append (.oserror "OSError" none), .append (.returned true),
    .mark "t3" .sqliteError, .retry, .append (.returned true), .mark "t4" .committed,
    .append (.returned true), .crash]

/-- The first event is marked; the second has two lines and is returned to the next pass. -/
theorem jsonl_at_least_once_faulty :
    ∃ s, run jsonlStep JsonlState.init faultySample = some s ∧
      s.events.rows.map (fun e => (e.eventId, e.marked, s.lineCount e.eventId)) =
        [(1, true, 1), (2, false, 2)] ∧
      s.interrupted = [2, 2] ∧ s.lineCount 2 ≤ 1 + (s.interrupted.count 2 + s.lateErrors.count 2) ∧
      ∃ e ∈ s.events.rows, e.eventId = 2 ∧ s.RetryReturns e := by
  obtain ⟨s, hs, hrows, hinterrupted, hidle, e, he, hid, hclassified, hmark⟩ :
      ∃ s, runWhile jsonlStep (fun _ l => wholeWrites l) JsonlState.init faultySample = some s ∧
      s.events.rows.map (fun e => (e.eventId, e.marked, s.lineCount e.eventId)) =
        [(1, true, 1), (2, false, 2)] ∧
      s.interrupted = [2, 2] ∧ s.phase.betweenPasses = true ∧
      ∃ e ∈ s.events.rows, e.eventId = 2 ∧ e.classified = true ∧ e.marked = false := by
    decide +kernel
  have hreach : JsonlReach JsonlState.init s := reach_of_runWhile .start hs
  obtain ⟨hevents, hcount, -⟩ := jsonl_at_least_once hreach
  refine ⟨s, run_of_runWhile hs, hrows, hinterrupted, hcount 2, e, he, hid, ?_⟩
  rcases hevents e he hclassified with ⟨hmarked, -⟩ | ⟨-, hreturned⟩
  · rw [hmark] at hmarked
    cases hmarked
  · refine (hreturned s .start hidle).resolve_left ?_
    rintro ⟨e₁, he₁, hid₁, hmark₁⟩
    rw [Log.eq_of_id he₁ he hid₁, hmark] at hmark₁
    cases hmark₁

def shortWriteSample : List JsonlLabel :=
  [.emit (emissionSample ["a"]), .append (.returned false), .mark "t3" .committed, .notify true]

/-- The line is written and `os.fsync` fails; the retry pass writes it again. -/
def lateErrorSample : List JsonlLabel :=
  [.emit (emissionSample ["a"]), .append (.oserror "OSError" (some true)), .retry, .append (.returned true),
    .mark "t3" .committed]

/-- A row that is marked and notified and has no line; a row with two lines and no mark that failed. -/
theorem marked_row_without_line :
    (∃ s, run jsonlStep JsonlState.init shortWriteSample = some s ∧
      s.events.rows.map (fun e => (e.eventId, e.marked, s.lineCount e.eventId)) = [(1, true, 0)] ∧
      s.notified = [1]) ∧
    ∃ s, run jsonlStep JsonlState.init lateErrorSample = some s ∧
      s.lineCount 1 = 2 ∧ s.interrupted = [] := by decide +kernel

end AgentTower.Events
