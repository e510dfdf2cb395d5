import Mathlib.Data.List.Dedup
import AgentTower.Discovery.TmuxOutput
import AgentTower.Lib.Dict

/-!
# Reconciling the panes

`reconcile` compares the rows of `panes` with what a scan found on each socket.  A container counts as
scanned if there is a result for one of its sockets; only then are its other rows looked at.
-/

namespace AgentTower.Discovery

open List

open Agents (sanitizeText)
open Routing (PaneKey PaneRow)

inductive SocketScanOutcome where
  | ok (panes : List ParsedPane)
  | failed (errorCode : ErrorCode) (errorMessage : String)
  deriving DecidableEq, Repr

def SocketScanOutcome.isOk : SocketScanOutcome → Bool
  | .ok _ => true
  | .failed .. => false

abbrev SocketResults := Dict (String × String) SocketScanOutcome

structure ContainerMeta where
  containerName : String
  containerUser : String
  deriving DecidableEq, Repr

structure PaneUpsert where
  key : PaneKey
  containerName : String
  containerUser : String
  panePid : Int
  paneTty : String
  paneCurrentCommand : String
  paneCurrentPath : String
  paneTitle : String
  paneActive : Bool
  lastScannedAt : String
  deriving DecidableEq, Repr

structure PaneTruncationNote where
  containerId : String
  tmuxSocketPath : String
  tmuxPaneId : String
  field : String
  originalLen : Nat
  deriving DecidableEq, Repr

structure PaneReconcileWriteSet where
  upserts : List PaneUpsert
  touchOnly : List PaneKey
  inactivate : List PaneKey
  paneTruncations : List PaneTruncationNote
  panesSeen : Nat
  panesNewlyActive : Nat
  panesReconciledInactive : Nat
  containersSkippedInactive : Nat
  containersTmuxUnavailable : Nat
  deriving DecidableEq, Repr

def stripOnly (value : String) : List Char :=
  value.toList.filterMap fun c =>
    if c.toNat = 0 then none
    else if c = '\t' ∨ c = '\n' then some ' '
    else if c.toNat < 0x20 ∨ c.toNat = 0x7F then none
    else some c

def upsertKey (containerId socketPath : String) (parsed : ParsedPane) : PaneKey where
  containerId := containerId
  tmuxSocketPath := socketPath
  tmuxSessionName := (sanitizeText parsed.tmuxSessionName 2048).1
  tmuxWindowIndex := parsed.tmuxWindowIndex
  tmuxPaneIndex := parsed.tmuxPaneIndex
  tmuxPaneId := (sanitizeText parsed.tmuxPaneId 2048).1

def buildUpsert (containerId socketPath : String) (info : ContainerMeta) (parsed : ParsedPane)
    (now : String) : PaneUpsert where
  key := upsertKey containerId socketPath parsed
  containerName := (sanitizeText info.containerName 2048).1
  containerUser := (sanitizeText info.containerUser 2048).1
  panePid := parsed.panePid
  paneTty := (sanitizeText parsed.paneTty 2048).1
  paneCurrentCommand := (sanitizeText parsed.paneCurrentCommand 2048).1
  paneCurrentPath := (sanitizeText parsed.paneCurrentPath 4096).1
  paneTitle := (sanitizeText parsed.paneTitle 2048).1
  paneActive := parsed.paneActive
  lastScannedAt := now

/-- The notes of `_build_upsert`, one for each field that is cut. -/
def upsertTruncations (containerId socketPath : String) (info : ContainerMeta) (parsed : ParsedPane) :
    List PaneTruncationNote :=
  [("tmux_session_name", parsed.tmuxSessionName, 2048), ("tmux_pane_id", parsed.tmuxPaneId, 2048),
    ("container_name", info.containerName, 2048), ("container_user", info.containerUser, 2048),
    ("pane_tty", parsed.paneTty, 2048), ("pane_current_command", parsed.paneCurrentCommand, 2048),
    ("pane_current_path", parsed.paneCurrentPath, 4096), ("pane_title", parsed.paneTitle, 2048)].filterMap
    fun (field, value, maxLength) =>
      if (sanitizeText value maxLength).2 then
        some ⟨containerId, socketPath, parsed.tmuxPaneId, field, (stripOnly value).length⟩
      else none

section

variable (prior : List PaneRow) (results : SocketResults) (unavailable cascade : List String)
  (info : String → ContainerMeta) (now : String)

def rowsWhere (sel : PaneRow → Bool) : List PaneKey := (prior.filter sel).map PaneRow.key

def onSocket (containerId socketPath : String) (p : PaneRow) : Bool :=
  decide (p.key.containerId = containerId ∧ p.key.tmuxSocketPath = socketPath)

def ofContainer (containerId : String) (p : PaneRow) : Bool := decide (p.key.containerId = containerId)

def parsedPanes : List ((String × String) × ParsedPane) :=
  results.entries.flatMap fun e =>
    match e.2 with
    | .ok panes => panes.map fun p => (e.1, p)
    | .failed .. => []

def upserts : List PaneUpsert :=
  (parsedPanes results).map fun e => buildUpsert e.1.1 e.1.2 (info e.1.1) e.2 now

def disappearedPanes : List PaneKey :=
  results.entries.flatMap fun e =>
    match e.2 with
    | .ok panes =>
      rowsWhere prior fun p =>
        onSocket e.1.1 e.1.2 p && p.active && decide (p.key ∉ panes.map (upsertKey e.1.1 e.1.2))
    | .failed .. => []

def failedSockets : List PaneKey :=
  results.entries.flatMap fun e =>
    match e.2 with
    | .ok _ => []
    | .failed .. =>
      if e.1.1 ∈ unavailable ∨ e.1.1 ∈ cascade then [] else rowsWhere prior (onSocket e.1.1 e.1.2)

def unreachable : List PaneKey :=
  (unavailable.filter fun c => decide (c ∉ cascade)).flatMap fun c => rowsWhere prior (ofContainer c)

/-- Step 4, for the rows with this `active`. -/
def cascaded (active : Bool) : List PaneKey :=
  cascade.flatMap fun c => rowsWhere prior fun p => ofContainer c p && decide (p.active = active)

def scannedContainers : List String := (results.entries.map fun e => e.1.1).dedup

def observedSockets (containerId : String) : List String :=
  (results.entries.filter fun e => decide (e.1.1 = containerId)).map fun e => e.1.2

/-- Step 5, for the rows with this `active`. -/
def disappearedSockets (active : Bool) : List PaneKey :=
  ((scannedContainers results).filter fun c => decide (c ∉ unavailable ∧ c ∉ cascade)).flatMap fun c =>
    rowsWhere prior fun p =>
      ofContainer c p && decide (p.key.tmuxSocketPath ∉ observedSockets results c) &&
        decide (p.active = active)

def reconcile : PaneReconcileWriteSet :=
  let inactivate := disappearedPanes prior results ++ cascaded prior cascade true ++
    disappearedSockets prior results unavailable cascade true
  { upserts := upserts results info now
    touchOnly := failedSockets prior results unavailable cascade ++
      unreachable prior unavailable cascade ++ cascaded prior cascade false ++
      disappearedSockets prior results unavailable cascade false
    inactivate
    paneTruncations := (parsedPanes results).flatMap fun e =>
      upsertTruncations e.1.1 e.1.2 (info e.1.1) e.2
    panesSeen := (parsedPanes results).length
    panesNewlyActive := ((parsedPanes results).filter fun e =>
      !prior.any fun p => decide (p.key = upsertKey e.1.1 e.1.2 e.2) && p.active).length
    panesReconciledInactive := inactivate.length
    containersSkippedInactive := (cascade.filter fun c => prior.any (ofContainer c)).length
    containersTmuxUnavailable := (unavailable.filter fun c => decide (c ∉ cascade)).length }

end

/-! ## Who is made inactive -/

variable {prior : List PaneRow} {results : SocketResults} {unavailable cascade : List String}
  {info : String → ContainerMeta} {now : String} {k : PaneKey}

theorem mem_rowsWhere {sel : PaneRow → Bool} :
    k ∈ rowsWhere prior sel ↔ ∃ p ∈ prior, sel p = true ∧ p.key = k := by
  simp only [rowsWhere, mem_map, mem_filter, and_assoc]

theorem mem_disappearedPanes :
    k ∈ disappearedPanes prior results ↔
      (∃ p ∈ prior, p.active = true ∧ p.key = k) ∧ ∃ panes,
        ((k.containerId, k.tmuxSocketPath), SocketScanOutcome.ok panes) ∈ results.entries ∧
          k ∉ panes.map (upsertKey k.containerId k.tmuxSocketPath) := by
  unfold disappearedPanes
  rw [mem_flatMap]
  constructor
  · rintro ⟨⟨⟨containerId, socketPath⟩, outcome⟩, hentry, hk⟩
    cases outcome with
    | failed => cases hk
    | ok panes =>
      obtain ⟨p, hmem, hsel, rfl⟩ := mem_rowsWhere.mp hk
      simp only [onSocket, Bool.and_eq_true, decide_eq_true_eq] at hsel
      obtain ⟨⟨⟨rfl, rfl⟩, hactive⟩, hnot⟩ := hsel
      exact ⟨⟨p, hmem, hactive, rfl⟩, panes, hentry, hnot⟩
  · rintro ⟨⟨p, hmem, hactive, rfl⟩, panes, hentry, hnot⟩
    refine ⟨_, hentry, mem_rowsWhere.mpr ⟨p, hmem, ?_, rfl⟩⟩
    simp only [onSocket, Bool.and_eq_true, decide_eq_true_eq]
    exact ⟨⟨⟨trivial, trivial⟩, hactive⟩, hnot⟩

theorem mem_cascaded :
    k ∈ cascaded prior cascade true ↔
      (∃ p ∈ prior, p.active = true ∧ p.key = k) ∧ k.containerId ∈ cascade := by
  simp only [cascaded, mem_flatMap, mem_rowsWhere, ofContainer, Bool.and_eq_true, decide_eq_true_eq]
  constructor
  · rintro ⟨c, hc, p, hmem, ⟨rfl, hactive⟩, rfl⟩
    exact ⟨⟨p, hmem, hactive, rfl⟩, hc⟩
  · rintro ⟨⟨p, hmem, hactive, rfl⟩, hc⟩
    exact ⟨_, hc, p, hmem, ⟨rfl, hactive⟩, rfl⟩

theorem mem_disappearedSockets :
    k ∈ disappearedSockets prior results unavailable cascade true ↔
      (∃ p ∈ prior, p.active = true ∧ p.key = k) ∧ k.containerId ∈ scannedContainers results ∧
        (k.containerId ∉ unavailable ∧ k.containerId ∉ cascade) ∧
        k.tmuxSocketPath ∉ observedSockets results k.containerId := by
  simp only [disappearedSockets, mem_flatMap, mem_filter, mem_rowsWhere, ofContainer,
    Bool.and_eq_true, decide_eq_true_eq]
  constructor
  · rintro ⟨c, ⟨hscanned, hreachable⟩, p, hmem, ⟨⟨rfl, hsocket⟩, hactive⟩, rfl⟩
    exact ⟨⟨p, hmem, hactive, rfl⟩, hscanned, hreachable, hsocket⟩
  · rintro ⟨⟨p, hmem, hactive, rfl⟩, hscanned, hreachable, hsocket⟩
    exact ⟨_, ⟨hscanned, hreachable⟩, p, hmem, ⟨⟨rfl, hsocket⟩, hactive⟩, rfl⟩

inductive Inactivated (results : SocketResults) (unavailable cascade : List String) (k : PaneKey) :
    Prop
  | disappeared {panes : List ParsedPane} :
      ((k.containerId, k.tmuxSocketPath), SocketScanOutcome.ok panes) ∈ results.entries →
      k ∉ panes.map (upsertKey k.containerId k.tmuxSocketPath) →
      Inactivated results unavailable cascade k
  | cascaded : k.containerId ∈ cascade → Inactivated results unavailable cascade k
  | socketGone : k.containerId ∈ scannedContainers results → k.containerId ∉ unavailable →
      k.containerId ∉ cascade → k.tmuxSocketPath ∉ observedSockets results k.containerId →
      Inactivated results unavailable cascade k

theorem mem_inactivate (info : String → ContainerMeta) (now : String) :
    k ∈ (reconcile prior results unavailable cascade info now).inactivate ↔
      (∃ p ∈ prior, p.active = true ∧ p.key = k) ∧ Inactivated results unavailable cascade k := by
  show k ∈ disappearedPanes prior results ++ cascaded prior cascade true ++
    disappearedSockets prior results unavailable cascade true ↔ _
  rw [mem_append, mem_append, mem_disappearedPanes, mem_cascaded, mem_disappearedSockets]
  constructor
  · rintro ((⟨hrow, panes, hentry, hnot⟩ | ⟨hrow, hc⟩) | ⟨hrow, hscanned, hreachable, hsocket⟩)
    · exact ⟨hrow, .disappeared hentry hnot⟩
    · exact ⟨hrow, .cascaded hc⟩
    · exact ⟨hrow, .socketGone hscanned hreachable.1 hreachable.2 hsocket⟩
  · rintro ⟨hrow, ⟨hentry, hnot⟩ | hc | ⟨hscanned, havailable, hcascade, hsocket⟩⟩
    · exact .inl (.inl ⟨hrow, _, hentry, hnot⟩)
    · exact .inl (.inr ⟨hrow, hc⟩)
    · exact .inr ⟨hrow, hscanned, ⟨havailable, hcascade⟩, hsocket⟩

theorem mem_upserts {u : PaneUpsert}
    (h : u ∈ (reconcile prior results unavailable cascade info now).upserts) :
    ∃ panes, ((u.key.containerId, u.key.tmuxSocketPath), SocketScanOutcome.ok panes) ∈ results.entries := by
  obtain ⟨⟨⟨containerId, socketPath⟩, parsed⟩, hparsed, rfl⟩ := mem_map.mp h
  obtain ⟨⟨key, outcome⟩, hentry, hmem⟩ := mem_flatMap.mp hparsed
  cases outcome with
  | failed => cases hmem
  | ok panes =>
    obtain ⟨p, -, heq⟩ := mem_map.mp hmem
    cases heq
    exact ⟨panes, hentry⟩

/-! ## The statements of the commit -/

/-- A statement of `_commit_scan`: the values that it binds besides the columns of panes, and the panes
that its `WHERE` names. -/
structure Statement where
  values : Nat
  keys : List PaneKey
  deriving DecidableEq, Repr

/-- Each pane is six variables. -/
def Statement.variables (st : Statement) : Nat := st.values + 6 * st.keys.length

/-- `_chunk`. -/
def chunk {α : Type} (size : Nat) : List α → List (List α)
  | [] => []
  | x :: items => (x :: items.take (size - 1)) :: chunk size (items.drop (size - 1))
termination_by items => items.length

def paneKeyBatch : Nat := 100

/-- `update_last_seen_at` and `cascade_agents_active_from_pane`. -/
def batchedUpdate (values : Nat) (keys : List PaneKey) : List Statement :=
  (chunk paneKeyBatch keys).map (⟨values, ·⟩)

/-- `_execute_composite_keys_update`, which has no batches. -/
def compositeKeysUpdate (keys : List PaneKey) : List Statement := if keys = [] then [] else [⟨1, keys⟩]

/-- `affected` attachments go stale. -/
def commitStatements (w : PaneReconcileWriteSet) (affected : Nat) : List Statement :=
  w.upserts.map (fun _ => ⟨17, []⟩) ++ compositeKeysUpdate w.touchOnly ++
    compositeKeysUpdate w.inactivate ++ batchedUpdate 1 (w.upserts.map PaneUpsert.key) ++
    batchedUpdate 0 w.inactivate ++ w.inactivate.map (fun k => ⟨0, [k]⟩) ++
    replicate affected ⟨2, []⟩ ++ [⟨14, []⟩]

variable {α : Type}

theorem flatten_chunk (size : Nat) (items : List α) : (chunk size items).flatten = items := by
  fun_induction chunk size items with
  | case1 => rfl
  | case2 x items ih => rw [flatten_cons, ih, cons_append, take_append_drop]

theorem length_of_mem_chunk {size : Nat} (hsize : 0 < size) {items batch : List α}
    (h : batch ∈ chunk size items) : batch.length ≤ size := by
  fun_induction chunk size items with
  | case1 => cases h
  | case2 x items ih =>
    rcases mem_cons.mp h with rfl | h
    · have hlength := length_take_le (size - 1) items
      rw [length_cons]
      omega
    · exact ih h

theorem mem_chunk_iff {size : Nat} (hsize : 0 < size) (items : List α) (n : Nat) (a : α) :
    (∃ batch, (chunk size items)[n]? = some batch ∧ a ∈ batch) ↔
      ∃ i, items[i]? = some a ∧ i / size = n := by
  fun_induction chunk size items generalizing n with
  | case1 => simp
  | case2 x items ih =>
    obtain ⟨size, rfl⟩ : ∃ m, size = m + 1 := ⟨size - 1, by omega⟩
    have hfirst : x :: items.take size = (x :: items).take (size + 1) := rfl
    have hrest : items.drop size = (x :: items).drop (size + 1) := rfl
    rw [Nat.add_sub_cancel] at ih ⊢
    rw [hrest] at ih ⊢
    rw [hfirst]
    cases n with
    | zero =>
      simp only [getElem?_cons_zero, Option.some.injEq, exists_eq_left', mem_iff_getElem?,
        getElem?_take, Nat.div_eq_zero_iff]
      refine exists_congr fun i => ?_
      split_ifs with hi <;> simp [hi]
    | succ n =>
      rw [getElem?_cons_succ, ih n]
      constructor
      · rintro ⟨i, hi, rfl⟩
        rw [getElem?_drop] at hi
        exact ⟨_, hi, Nat.add_div_left i hsize⟩
      · rintro ⟨i, hi, hn⟩
        have hle : size + 1 ≤ i := by
          by_contra hlt
          rw [Nat.div_eq_of_lt (by omega)] at hn
          omega
        obtain ⟨j, rfl⟩ := Nat.exists_eq_add_of_le hle
        rw [Nat.add_div_left j hsize] at hn
        exact ⟨j, by rwa [getElem?_drop], by omega⟩

theorem countP_mem_iff [DecidableEq α] {batches : List (List α)} :
    (∀ a, batches.countP (fun b => decide (a ∈ b)) = if a ∈ batches.flatten then 1 else 0) ↔
      batches.Pairwise Disjoint := by
  induction batches with
  | nil => simp
  | cons b batches ih =>
    have hzero : ∀ {a}, a ∉ batches.flatten → batches.countP (fun b => decide (a ∈ b)) = 0 := by
      intro a ha
      refine countP_eq_zero.mpr fun c hc hmem => ha ?_
      exact mem_flatten.mpr ⟨c, hc, of_decide_eq_true hmem⟩
    rw [pairwise_cons, ← ih]
    simp only [countP_cons, flatten_cons, mem_append, decide_eq_true_eq]
    constructor
    · intro hcount
      have hapart : ∀ a, a ∈ b → a ∉ batches.flatten := by
        intro a hb hflat
        obtain ⟨c, hc, hmem⟩ := mem_flatten.mp hflat
        have hone := hcount a
        have hpos : 0 < batches.countP (fun b => decide (a ∈ b)) :=
          countP_pos_iff.mpr ⟨c, hc, decide_eq_true hmem⟩
        rw [if_pos hb, if_pos (.inl hb)] at hone
        omega
      refine ⟨fun c hc a hb hmem => hapart a hb (mem_flatten.mpr ⟨c, hc, hmem⟩), fun a => ?_⟩
      by_cases hb : a ∈ b
      · rw [if_neg (hapart a hb), hzero (hapart a hb)]
      · simpa [hb] using hcount a
    · rintro ⟨hapart, hcount⟩ a
      by_cases hb : a ∈ b
      · have hflat : a ∉ batches.flatten := by
          intro hflat
          obtain ⟨c, hc, hmem⟩ := mem_flatten.mp hflat
          exact hapart c hc hb hmem
        rw [hzero hflat, if_pos hb, if_pos (.inl hb)]
      · simpa [hb] using hcount a

/-- No pane stands at two places of the list that fall into different batches. -/
def BatchesApart (keys : List PaneKey) : Prop :=
  ∀ i j k, keys[i]? = some k → keys[j]? = some k → i / paneKeyBatch = j / paneKeyBatch

theorem pairwise_chunk_iff {keys : List PaneKey} :
    (chunk paneKeyBatch keys).Pairwise Disjoint ↔ BatchesApart keys := by
  have hmem := @mem_chunk_iff _ paneKeyBatch (by decide) keys
  constructor
  · intro hpair i j k hi hj
    obtain ⟨b, hb, hkb⟩ := (hmem _ k).mpr ⟨i, hi, rfl⟩
    obtain ⟨c, hc, hkc⟩ := (hmem _ k).mpr ⟨j, hj, rfl⟩
    obtain ⟨hilt, rfl⟩ := List.getElem?_eq_some_iff.mp hb
    obtain ⟨hjlt, rfl⟩ := List.getElem?_eq_some_iff.mp hc
    rcases Nat.lt_trichotomy (i / paneKeyBatch) (j / paneKeyBatch) with hlt | heq | hgt
    · exact absurd hkc (pairwise_iff_getElem.mp hpair _ _ hilt hjlt hlt hkb)
    · exact heq
    · exact absurd hkb (pairwise_iff_getElem.mp hpair _ _ hjlt hilt hgt hkc)
  · intro hapart
    refine pairwise_iff_getElem.mpr fun m n hm hn hlt k hkm hkn => ?_
    obtain ⟨i, hi, him⟩ := (hmem m k).mp ⟨_, getElem?_eq_getElem hm, hkm⟩
    obtain ⟨j, hj, hjn⟩ := (hmem n k).mp ⟨_, getElem?_eq_getElem hn, hkn⟩
    have heq := hapart i j k hi hj
    omega

theorem batchedUpdate_once_iff (values : Nat) (keys : List PaneKey) :
    (∀ k, (batchedUpdate values keys).countP (fun st => decide (k ∈ st.keys)) =
      if k ∈ keys then 1 else 0) ↔ BatchesApart keys := by
  have hcount : ∀ k, (batchedUpdate values keys).countP (fun st => decide (k ∈ st.keys)) =
      (chunk paneKeyBatch keys).countP fun b => decide (k ∈ b) := fun k => countP_map
  simp only [hcount]
  rw [← pairwise_chunk_iff, ← countP_mem_iff, flatten_chunk]

theorem compositeKeysUpdate_bounded_iff (keys : List PaneKey) :
    (∀ st ∈ compositeKeysUpdate keys, st.variables ≤ 999) ↔ keys.length ≤ 166 := by
  unfold compositeKeysUpdate
  split_ifs with hkeys
  · simp [hkeys]
  · rw [forall_mem_singleton]
    show 1 + 6 * keys.length ≤ 999 ↔ _
    omega

theorem batchedUpdate_bounded {values : Nat} (hvalues : values ≤ 1) (keys : List PaneKey) :
    ∀ st ∈ batchedUpdate values keys, st.variables ≤ 999 := by
  intro st hmem
  obtain ⟨batch, hbatch, rfl⟩ := mem_map.mp hmem
  have hlength := length_of_mem_chunk (by decide) hbatch
  simp only [Statement.variables, paneKeyBatch] at hlength ⊢
  omega

theorem commitStatements_bounded_iff (w : PaneReconcileWriteSet) (affected : Nat) :
    (∀ st ∈ commitStatements w affected, st.variables ≤ 999) ↔
      w.touchOnly.length ≤ 166 ∧ w.inactivate.length ≤ 166 := by
  rw [← compositeKeysUpdate_bounded_iff, ← compositeKeysUpdate_bounded_iff]
  simp only [commitStatements, forall_mem_append]
  constructor
  · rintro ⟨⟨⟨⟨⟨⟨⟨-, htouch⟩, hinactivate⟩, -⟩, -⟩, -⟩, -⟩, -⟩
    exact ⟨htouch, hinactivate⟩
  · rintro ⟨htouch, hinactivate⟩
    refine ⟨⟨⟨⟨⟨⟨⟨?_, htouch⟩, hinactivate⟩, batchedUpdate_bounded le_rfl _⟩,
      batchedUpdate_bounded (Nat.zero_le 1) _⟩, ?_⟩, ?_⟩, ?_⟩
    -- an insert, the look-up of one pane, a stale attachment and the row of the scan
    · exact forall_mem_map.mpr fun _ _ => by decide
    · exact forall_mem_map.mpr fun _ _ => Nat.le_of_ble_eq_true rfl
    · intro st hst
      rw [(mem_replicate.mp hst).2]
      decide
    · exact forall_mem_singleton.mpr (by decide)

/-- No statement binds more than 999 variables, and each pane of a batched update is in one batch of it,
exactly when at most 166 panes are touched without an upsert, as many are made inactive, and no pane
falls into two batches. -/
theorem scan_statements_bounded (w : PaneReconcileWriteSet) (affected : Nat) :
    ((∀ st ∈ commitStatements w affected, st.variables ≤ 999) ∧
      (∀ k, (batchedUpdate 1 (w.upserts.map PaneUpsert.key)).countP (fun st => decide (k ∈ st.keys)) =
        if k ∈ w.upserts.map PaneUpsert.key then 1 else 0) ∧
      ∀ k, (batchedUpdate 0 w.inactivate).countP (fun st => decide (k ∈ st.keys)) =
        if k ∈ w.inactivate then 1 else 0) ↔
    (w.touchOnly.length ≤ 166 ∧ w.inactivate.length ≤ 166) ∧
      BatchesApart (w.upserts.map PaneUpsert.key) ∧ BatchesApart w.inactivate := by
  rw [commitStatements_bounded_iff, batchedUpdate_once_iff, batchedUpdate_once_iff]

def manyPanes (n : Nat) : List PaneRow :=
  (List.range n).map fun i => ⟨⟨"c", "s", "n", i, 0, "%"⟩, true⟩

/-- A scan that does not reach tmux in the container of the panes. -/
def manyTouched (n : Nat) : PaneReconcileWriteSet :=
  reconcile (manyPanes n) Dict.empty ["c"] [] (fun _ => ⟨"", ""⟩) "t"

/-- 166 panes is what one statement takes. -/
theorem touch_update_too_large : ∃ st ∈ commitStatements (manyTouched 167) 0, st.variables = 1003 := by
  have hmem : ⟨1, (manyPanes 167).map PaneRow.key⟩ ∈
      compositeKeysUpdate (manyTouched 167).touchOnly := by decide +kernel
  refine ⟨⟨1, (manyPanes 167).map PaneRow.key⟩, ?_, by decide +kernel⟩
  simp only [commitStatements, mem_append, hmem, true_or, or_true]

end AgentTower.Discovery
