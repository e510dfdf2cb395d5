import AgentTower.App.ListContents

/-!
# The panes of the dashboard

The dashboard joins panes with agents on the container and the pane id, `app.pane.list` on the whole
composite key.  A pane id is unique on one tmux server only.
-/

namespace AgentTower.App

open Agents List Sql
open Routing (PaneKey)

namespace ListDb

/-- The join that the queries of the dashboard share. -/
def hasActiveAgent (db : ListDb) (key : PaneKey) : Bool :=
  db.agents.rows.any fun a => a.active && decide (a.key.containerId = key.containerId) &&
    decide (a.key.tmuxPaneId = key.tmuxPaneId)

def onActiveContainer (db : ListDb) (p : PaneListing) : Bool :=
  (db.containers.get p.key.containerId).any Routing.ContainerRow.active

end ListDb

structure PaneCounts where
  total : Nat
  registered : Nat
  unregistered : Nat
  deriving DecidableEq, Repr

def paneCounts (db : ListDb) : PaneCounts :=
  let total := db.panes.rows.length
  let registered := db.panes.rows.countP fun p => db.hasActiveAgent p.key
  ⟨total, registered, total - registered⟩

structure PaneStateBuckets where
  discoveredAndUnmanaged : Nat
  discoveredAndRegistered : Nat
  inactiveOrStale : Nat
  discoveryDegraded : Nat
  deriving DecidableEq, Repr

def computePaneStateBuckets (db : ListDb) : PaneStateBuckets :=
  let ios := db.panes.rows.countP fun p =>
    (db.containers.get p.key.containerId).any fun c => !c.active || !p.pane.active
  let dar := db.panes.rows.countP fun p =>
    db.onActiveContainer p && p.pane.active && db.hasActiveAgent p.key
  ⟨db.panes.rows.length - ios - dar, dar, ios, 0⟩

/-- The `ORDER BY` is the listing's with the pane id last; the panes are all active. -/
def firstUnadoptedPaneId (db : ListDb) : Option String :=
  ((db.panes.rows.filter fun p =>
      db.onActiveContainer p && p.pane.active && !db.hasActiveAgent p.key).insertionSort fun p q =>
    (listingOrder p.pane q.pane).then (compare p.key.tmuxPaneId q.key.tmuxPaneId) ≠ .gt).head?.map
      fun p => p.key.tmuxPaneId

variable {db : ListDb}

theorem isSome_linkedAgent (key : PaneKey) : (db.linkedAgent key).isSome = true ↔
    ∃ a ∈ db.agents.rows, a.active = true ∧ a.key = key := by
  simp [ListDb.linkedAgent]

theorem hasActiveAgent_of_linked {key : PaneKey} (h : (db.linkedAgent key).isSome = true) :
    db.hasActiveAgent key = true := by
  obtain ⟨a, ha, hactive, rfl⟩ := (isSome_linkedAgent key).mp h
  refine any_eq_true.mpr ⟨a, ha, ?_⟩
  simp [hactive]

theorem countP_selectPanes (f : PaneListing → Bool) : (db.selectPanesForListing none).countP f =
    db.panes.rows.countP fun p => f p && (db.containers.get p.key.containerId).isSome := by
  rw [ListDb.selectPanesForListing, (perm_insertionSort _ _).countP_eq, countP_filter]
  simp

theorem countP_paneRows {args : ListArgs PaneFilters PaneOrder} (h : args.filters = ⟨none, none⟩) :
    (paneRows db args).countP PaneView.registered = db.panes.rows.countP fun p =>
      (db.linkedAgent p.key).isSome && (db.containers.get p.key.containerId).isSome := by
  have hrows : (paneRows db args).Perm ((db.selectPanesForListing none).map db.paneView) := by
    refine (sortRows_perm _ _ _).trans (Perm.map _ ?_)
    rw [h]
    exact Perm.of_eq (filter_eq_self.mpr fun _ _ => rfl)
  rw [hrows.countP_eq, countP_map, countP_selectPanes]
  rfl

theorem countP_eq_iff {α : Type} {f g : α → Bool} {l : List α}
    (h : ∀ a ∈ l, g a = true → f a = true) :
    l.countP f = l.countP g ↔ ∀ a ∈ l, f a = true → g a = true := by
  have hboth : l.countP g = (l.filter f).countP g := by
    rw [countP_filter]
    refine countP_congr fun a ha => ?_
    rw [Bool.and_eq_true]
    exact ⟨fun hg => ⟨hg, h a ha hg⟩, And.left⟩
  rw [hboth, countP_eq_length_filter, eq_comm, countP_eq_length]
  simp only [mem_filter, and_imp]

/-- The condition is that a pane with an active agent of its container and its id has its container, and
an active agent with its whole key. -/
theorem dashboard_agrees_with_pane_list (db : ListDb) :
    ((∀ args : ListArgs PaneFilters PaneOrder, args.filters = ⟨none, none⟩ →
        (paneCounts db).registered = (paneRows db args).countP PaneView.registered) ∧
      (computePaneStateBuckets db).discoveredAndRegistered =
        (db.selectPanesForListing none).countP (fun p =>
          (db.paneView p).registered && p.pane.active && db.onActiveContainer p) ∧
      (firstUnadoptedPaneId db = none ↔ ∀ p ∈ db.panes.rows, p.pane.active = true →
        db.onActiveContainer p = true → (db.linkedAgent p.key).isSome = true)) ↔
    ∀ p ∈ db.panes.rows, db.hasActiveAgent p.key = true →
      (db.linkedAgent p.key).isSome = true ∧
        (db.containers.get p.key.containerId).isSome = true := by
  have hcounts : ∀ args : ListArgs PaneFilters PaneOrder, args.filters = ⟨none, none⟩ →
      ((paneCounts db).registered = (paneRows db args).countP PaneView.registered ↔
        ∀ p ∈ db.panes.rows, db.hasActiveAgent p.key = true →
          (db.linkedAgent p.key).isSome = true ∧
            (db.containers.get p.key.containerId).isSome = true) := by
    intro args hargs
    rw [countP_paneRows hargs]
    simp only [← Bool.and_eq_true]
    exact countP_eq_iff fun p _ hboth => hasActiveAgent_of_linked (Bool.and_eq_true_iff.mp hboth).1
  constructor
  · exact fun h => (hcounts ⟨1, ⟨.default, .asc, "default:asc"⟩, [], ⟨none, none⟩⟩ rfl).mp (h.1 _ rfl)
  · intro hcond
    have hagent : ∀ p ∈ db.panes.rows, db.hasActiveAgent p.key = (db.linkedAgent p.key).isSome :=
      fun p hp => Bool.eq_iff_iff.mpr ⟨fun h => (hcond p hp h).1, hasActiveAgent_of_linked⟩
    refine ⟨fun args hargs => (hcounts args hargs).mpr hcond, ?_, ?_⟩
    · rw [countP_selectPanes]
      refine countP_congr fun p hp => ?_
      have hcontainer : db.onActiveContainer p = true →
          (db.containers.get p.key.containerId).isSome = true := by
        unfold ListDb.onActiveContainer
        cases db.containers.get p.key.containerId <;> simp
      simp only [hagent p hp, ListDb.paneView, Bool.and_eq_true]
      tauto
    · have hnone : firstUnadoptedPaneId db = none ↔ db.panes.rows.filter (fun p =>
          db.onActiveContainer p && p.pane.active && !db.hasActiveAgent p.key) = [] := by
        rw [firstUnadoptedPaneId, Option.map_eq_none_iff, head?_eq_none_iff,
          ← length_eq_zero_iff, length_insertionSort, length_eq_zero_iff]
      rw [hnone, filter_eq_nil_iff]
      refine forall₂_congr fun p hp => ?_
      rw [hagent p hp]
      cases db.onActiveContainer p <;> cases p.pane.active <;> cases db.linkedAgent p.key <;> simp

def paneOnSocket (tmuxSocketPath : String) : PaneListing :=
  ⟨⟨{ exampleAgent.key with tmuxSocketPath }, true⟩, "bench", "t0", "t1"⟩

/-- One container; the pane `%0` on two tmux servers, and an agent in the first. -/
def twoServersDb : ListDb where
  containers := ⟨[⟨"3ff", "bench", none, true⟩], by decide, by decide, by decide⟩
  panes := ⟨[paneOnSocket "/tmp/tmux-1000/default", paneOnSocket "/tmp/tmux-1000/other"],
    by decide, by decide, by decide⟩
  agents := ⟨[exampleAgent], by decide, by decide, by decide⟩
  logAttachments := Table.empty
  events := Table.empty
  messageQueue := Table.empty

/-- Both panes count as registered, and nothing is left to adopt; the list links one of them. -/
theorem pane_on_other_server_counts :
    (paneCounts twoServersDb).registered = 2 ∧
      (∀ args : ListArgs PaneFilters PaneOrder, args.filters = ⟨none, none⟩ →
        (paneRows twoServersDb args).countP PaneView.registered = 1) ∧
      (computePaneStateBuckets twoServersDb).discoveredAndRegistered = 2 ∧
      firstUnadoptedPaneId twoServersDb = none ∧
      twoServersDb.linkedAgent (paneOnSocket "/tmp/tmux-1000/other").key = none := by
  refine ⟨by decide +kernel, fun args hargs => ?_, by decide +kernel, by decide +kernel,
    by decide +kernel⟩
  rw [(paneRows_perm exampleEnv _ args).countP_eq, hargs]
  decide +kernel

end AgentTower.App
