import AgentTower.State.Schema

/-!
# Crashes while the database is made

On a first open every statement is stored by itself, and almost all of them do nothing when they have
been done.  The exception is the rebuild of `events`: from the statement that makes `events_new` to the
one that renames it, the next open finds an `events` that it wants to rebuild, and an `events_new` that
it cannot make.
-/

namespace AgentTower.Schema

open Fallible List
open Ddl Script
open OpenError (sql)

def Kept (D : Database → Prop) : Prop :=
  ∀ as : List Statement, (∀ a ∈ as, a.createsOther .eventsNew = true) →
    Keeps issue (statements as) D

theorem kept_fact (f : Fact TableName IndexName) : Kept fun db => f.holds db = true :=
  fun _ has => Stmt.keeps_fact sql (fun a ha => (Bool.and_eq_true_iff.mp (has a ha)).1) f

theorem kept_absent : Kept fun db => db.table? .eventsNew = none :=
  fun _ has => Stmt.keeps_absent sql has

theorem kept_done (as : List Statement) : Kept fun db => ∀ a ∈ as, a.Done db :=
  fun bs hbs db db' hdone hcrash a ha f hf =>
    kept_fact f bs hbs db db' (hdone a ha f hf) hcrash

variable {D : Database → Prop} {db db' : Database}

theorem Kept.columns (h : Kept D) : Keeps issue (addMissingColumns .messageQueue queueColumns) D :=
  keeps_addMissingColumns sql fun c v =>
    h [.addColumn .messageQueue c v] (forall_mem_singleton.mpr rfl)

theorem Kept.migrationV8 (h : Kept D) : Keeps issue applyMigrationV8 D :=
  (h [.createTable true routes, .createIndex true idxRoutesCreatedAtRouteId] (by decide)).seq
    (h.columns.seq (h [.createIndex true idxMessageQueueRouteEvent] (by decide)))

theorem resumable_configureConnection :
    Resumable issue (statements configureConnection) fun db =>
      ∀ a ∈ configureConnection, a.Done db :=
  resumable_statements sql (by decide)

def creations : List Statement :=
  applyMigrationV2 ++ applyMigrationV3 ++ applyMigrationV4 ++ applyMigrationV5 ++ applyMigrationV6 ++
    createQueue

theorem ensureCurrentSchema_current :
    ensureCurrentSchema currentSchemaVersion
      = (statements creations).seq (rebuildEvents.seq applyMigrationV8) := rfl

theorem resumable_creations :
    Resumable issue (statements creations) fun db => ∀ a ∈ creations, a.Done db :=
  resumable_statements sql (by decide)

theorem resumes_migrationV8 (h : Crash issue applyMigrationV8 db db') :
    applyMigrationV8.run issue db' = applyMigrationV8.run issue db := by
  have hroutes : Resumable issue (statements [.createTable true routes,
      .createIndex true idxRoutesCreatedAtRouteId]) _ :=
    resumable_statements sql (by decide)
  have hcolumns : Resumable issue (addMissingColumns .messageQueue queueColumns) _ :=
    resumable_addMissingColumns sql (by decide)
  have hindex : Resumable issue (statements [.createIndex true idxMessageQueueRouteEvent]) _ :=
    resumable_statements sql (by decide)
  have hkept : Keeps issue (statements [.createIndex true idxMessageQueueRouteEvent]) fun db =>
      ∀ c ∈ queueColumns, (Fact.column .messageQueue c.1.name).holds db = true :=
    fun db db' hdb hcrash c hc => kept_fact (.column .messageQueue c.1.name) _ (by decide) db db'
      (hdb c hc) hcrash
  have hdone := kept_done [.createTable true routes, .createIndex true idxRoutesCreatedAtRouteId]
  exact (hroutes.seq (hcolumns.seq hindex hkept)
    (hdone.columns.seq (hdone _ (by decide)))).resumes h

/-! ## The version -/

/-- The database is known to have the current version. -/
structure Versioned (db : Database) : Prop where
  configured : ∀ a ∈ configureConnection, a.Done db
  version : (Fact.firstValue .schemaVersion (.integer currentSchemaVersion)).holds db = true

theorem kept_versioned : Kept Versioned :=
  fun as has db db' h hcrash =>
    ⟨kept_done _ as has db db' h.configured hcrash, kept_fact _ as has db db' h.version hcrash⟩

theorem Versioned.run_readOrCreate (h : Versioned db) (next : Int → Migration) :
    (readOrCreateSchemaVersion next).run issue db = (next currentSchemaVersion).run issue db := by
  obtain ⟨t, ht, hfirst⟩ := (Option.any_eq_true _ _).mp h.version
  rw [decide_eq_true_eq] at hfirst
  obtain ⟨row, hrow, hversion⟩ := Option.bind_eq_some_iff.mp hfirst
  obtain ⟨rows, hrows⟩ := List.head?_eq_some_iff.mp hrow
  simp only [readOrCreateSchemaVersion, run, ht, Option.map_some, hrows, hversion]

theorem Versioned.run_open (h : Versioned db) :
    openRegistry.run issue db = (ensureCurrentSchema currentSchemaVersion).run issue db := by
  unfold openRegistry
  rw [run_seq_of_ok (resumable_configureConnection.skips h.configured)]
  exact h.run_readOrCreate ensureCurrentSchema

def configuredDatabase : Database := ⟨[⟨schemaVersion, []⟩], []⟩

def versionedDatabase : Database :=
  ⟨[⟨schemaVersion, [[.integer currentSchemaVersion]]⟩], []⟩

theorem versioned_versionedDatabase : Versioned versionedDatabase :=
  ⟨by decide, by decide⟩

theorem run_configureConnection :
    (statements configureConnection).run issue Db.empty = .ok configuredDatabase := rfl

-- `next` is left open here, so that nothing of the migrations is computed
theorem run_readOrCreate (next : Int → Migration) :
    (readOrCreateSchemaVersion next).run issue configuredDatabase
      = (next currentSchemaVersion).run issue versionedDatabase := rfl

theorem crash_readOrCreate {next : Int → Migration}
    (h : Crash issue (readOrCreateSchemaVersion next) configuredDatabase db) :
    db = configuredDatabase ∨ Crash issue (next currentSchemaVersion) versionedDatabase db := by
  unfold readOrCreateSchemaVersion at h
  cases h with
  | here => exact .inl rfl
  | read h =>
    have h : Crash issue (.exec (.insert .schemaVersion [.integer currentSchemaVersion])
      (next currentSchemaVersion)) configuredDatabase db := h
    cases h with
    | here => exact .inl rfl
    | exec hinsert hrest =>
      have hrow : issue (.insert .schemaVersion [.integer currentSchemaVersion]) configuredDatabase
        = .ok versionedDatabase := rfl
      rw [hrow] at hinsert
      cases hinsert
      exact .inr hrest

theorem run_open_empty :
    openRegistry.run issue Db.empty
      = (ensureCurrentSchema currentSchemaVersion).run issue versionedDatabase := by
  unfold openRegistry
  rw [run_seq_of_ok run_configureConnection]
  exact run_readOrCreate ensureCurrentSchema

theorem crash_open (h : Crash issue openRegistry Db.empty db) :
    (openRegistry.run issue db = openRegistry.run issue Db.empty ∧ db.table? .eventsNew = none) ∨
      Crash issue (ensureCurrentSchema currentSchemaVersion) versionedDatabase db := by
  have hfirst : ∀ {db : Database}, Crash issue (statements configureConnection) Db.empty db →
      openRegistry.run issue db = openRegistry.run issue Db.empty ∧
        db.table? .eventsNew = none := by
    intro db hcrash
    refine ⟨?_, kept_absent configureConnection (by decide) _ _ rfl hcrash⟩
    unfold openRegistry
    rw [run_seq, run_seq, resumable_configureConnection.resumes hcrash]
  rcases crash_seq h with hcrash | ⟨db₁, hrun, hcrash⟩
  · exact .inl (hfirst hcrash)
  · rw [run_configureConnection] at hrun
    cases hrun
    rcases crash_readOrCreate hcrash with rfl | hcrash
    · exact .inl (hfirst (crash_of_run run_configureConnection))
    · exact .inr hcrash

/-- The statements before the indexes of `events`. -/
def beforeIndexes : List Statement :=
  applyMigrationV2 ++ applyMigrationV3 ++ applyMigrationV4 ++ applyMigrationV5 ++
    [.createTable true events]

theorem creations_eq :
    creations = beforeIndexes ++ (eventsIndexes.map (.createIndex true) ++ createQueue) := rfl

structure Rebuilt (db : Database) : Prop where
  versioned : Versioned db
  absent : db.table? .eventsNew = none
  before : ∀ a ∈ beforeIndexes, a.Done db
  queue : ∀ a ∈ createQueue, a.Done db
  nullable : (Fact.nullable .events "attachment_id").holds db = true

theorem kept_rebuilt : Kept Rebuilt :=
  fun as has db db' h hcrash =>
    ⟨kept_versioned as has db db' h.versioned hcrash, kept_absent as has db db' h.absent hcrash,
      kept_done _ as has db db' h.before hcrash, kept_done _ as has db db' h.queue hcrash,
      kept_fact _ as has db db' h.nullable hcrash⟩

theorem Rebuilt.run_rebuildEvents (h : Rebuilt db) : rebuildEvents.run issue db = .ok db := by
  obtain ⟨t, ht, hcolumn⟩ := (Option.any_eq_true _ _).mp h.nullable
  obtain ⟨c, hc, hnull⟩ := (Option.any_eq_true _ _).mp hcolumn
  have hdone : eventsRebuilt db = true := by
    simp only [eventsRebuilt, ht, hc, Option.all_some, hnull]
  simp only [rebuildEvents, run, hdone, if_true]

theorem Rebuilt.run_creations (h : Rebuilt db)
    (hindexes : (statements (eventsIndexes.map (.createIndex true))).run issue db = .ok db') :
    (statements creations).run issue db = .ok db' := by
  have hbefore : Resumable issue (statements beforeIndexes) _ :=
    resumable_statements sql (by decide)
  have hqueue : Resumable issue (statements createQueue) _ := resumable_statements sql (by decide)
  have hdb' : Rebuilt db' := kept_rebuilt _ (by decide) db db' h (crash_of_run hindexes)
  rw [creations_eq, statements_append, statements_append, run_seq_of_ok (hbefore.skips h.before),
    run_seq_of_ok hindexes]
  exact hqueue.skips hdb'.queue

/-! ## The statements of the rebuild, one by one -/

def blocked (db : Database) : Bool :=
  (db.table? .eventsNew).isSome &&
    match openRegistry.run issue db with
    | .error (.sql (.tableExists .eventsNew)) => true
    | _ => false

def copied (db : Database) : Bool :=
  decide (∀ a ∈ configureConnection ++ beforeIndexes ++ createQueue, a.Done db) &&
  (Fact.firstValue .schemaVersion (.integer currentSchemaVersion)).holds db &&
  (Fact.nullable .events "attachment_id").holds db && (db.table? .eventsNew).isNone &&
  eventsIndexes.all (fun x => !db.hasIndex x.name) &&
  ((statements (eventsIndexes.map (.createIndex false))).run issue db).toOption.isSome

/-- The states that the rebuild of a first open goes through. -/
structure Rebuild (created copy indexed : Database) : Prop where
  creations : (statements creations).run issue versionedDatabase = .ok created
  needed : eventsRebuilt created = false
  blocked : ∀ n ∈ [1, 2, 3], blocked ((statements copyEvents).after issue n created) = true
  copyEvents : (statements copyEvents).run issue created = .ok copy
  rebuilt : Rebuilt copy
  noIndex : ∀ x ∈ eventsIndexes, copy.hasIndex x.name = false
  indexes : (statements (eventsIndexes.map (.createIndex false))).run issue copy = .ok indexed

theorem rebuild_exists : ∃ created copy indexed, Rebuild created copy indexed := by
  have hrun : ((statements creations).run issue versionedDatabase).toOption.any (fun db =>
      !eventsRebuilt db &&
      ([1, 2, 3].all (fun n => blocked ((statements copyEvents).after issue n db)) &&
      ((statements copyEvents).run issue db).toOption.any copied)) = true := by decide +kernel
  obtain ⟨created, hcreated, hresult⟩ := (Option.any_eq_true _ _).mp hrun
  simp only [Bool.and_eq_true, Bool.not_eq_true', all_eq_true] at hresult
  obtain ⟨hneeded, hblocked, hcopy⟩ := hresult
  obtain ⟨copy, hcopied, hresult⟩ := (Option.any_eq_true _ _).mp hcopy
  simp only [copied, Bool.and_eq_true, decide_eq_true_eq, all_eq_true, Bool.not_eq_true',
    Option.isNone_iff_eq_none] at hresult
  obtain ⟨⟨⟨⟨⟨hdone, hversion⟩, hnullable⟩, habsent⟩, hnone⟩, hindexed⟩ := hresult
  obtain ⟨indexed, hindexed⟩ := Option.isSome_iff_exists.mp hindexed
  rw [forall_mem_append, forall_mem_append] at hdone
  exact ⟨created, copy, indexed, eq_ok_of_toOption hcreated, hneeded, hblocked,
    eq_ok_of_toOption hcopied, ⟨⟨hdone.1.1, hversion⟩, habsent, hdone.1.2, hdone.2, hnullable⟩, hnone,
    eq_ok_of_toOption hindexed⟩

namespace Rebuild

variable {created copy indexed db : Database}

section

variable (h : Rebuild created copy indexed)
include h

theorem guardedIndexes :
    (statements (eventsIndexes.map (.createIndex true))).run issue copy = .ok indexed :=
  (run_createIndexes sql (by decide) h.noIndex).trans h.indexes

theorem run_rebuildEvents : rebuildEvents.run issue created = .ok indexed := by
  simp only [rebuildEvents, run, h.needed, Bool.false_eq_true, if_false]
  rw [run_seq_of_ok h.copyEvents, h.indexes]

theorem run_ensure :
    (ensureCurrentSchema currentSchemaVersion).run issue versionedDatabase
      = applyMigrationV8.run issue indexed := by
  rw [ensureCurrentSchema_current, run_seq_of_ok h.creations, run_seq_of_ok h.run_rebuildEvents]

theorem rebuilt_indexed : Rebuilt indexed :=
  kept_rebuilt _ (by decide) copy indexed h.rebuilt (crash_of_run h.indexes)

end

end Rebuild

/-! ## Where a crash can be -/

structure Resumes (db : Database) : Prop where
  versioned : Versioned db
  absent : db.table? .eventsNew = none
  run : (ensureCurrentSchema currentSchemaVersion).run issue db
    = (ensureCurrentSchema currentSchemaVersion).run issue versionedDatabase

theorem resumes_creations
    (h : Crash issue (statements creations) versionedDatabase db) : Resumes db := by
  have hcreates : ∀ a ∈ creations, a.createsOther .eventsNew = true := by decide
  refine ⟨kept_versioned _ hcreates _ _ versioned_versionedDatabase h,
    kept_absent _ hcreates _ _ rfl h, ?_⟩
  rw [ensureCurrentSchema_current, run_seq, run_seq, resumable_creations.resumes h]

namespace Rebuild

variable {created copy indexed db : Database}

section

variable (h : Rebuild created copy indexed)
include h

theorem resumes_indexes
    (hcrash : Crash issue (statements (eventsIndexes.map (.createIndex false))) copy db) :
    Resumes db := by
  have hrebuilt : Rebuilt db := kept_rebuilt _ (by decide) copy db h.rebuilt hcrash
  have hguarded : Resumable issue (statements (eventsIndexes.map (.createIndex true))) _ :=
    resumable_statements sql (by decide)
  have hindexes : (statements (eventsIndexes.map (.createIndex true))).run issue db
      = .ok indexed := by
    rw [hguarded.resumes (crash_createIndexes sql (by decide) h.noIndex hcrash)]
    exact h.guardedIndexes
  refine ⟨hrebuilt.versioned, hrebuilt.absent, ?_⟩
  rw [h.run_ensure, ensureCurrentSchema_current, run_seq_of_ok (hrebuilt.run_creations hindexes),
    run_seq_of_ok h.rebuilt_indexed.run_rebuildEvents]

theorem resumes_rebuildEvents (hcrash : Crash issue rebuildEvents created db) :
    Schema.blocked db = true ∨ Resumes db := by
  have hcreated : Resumes created := resumes_creations (crash_of_run h.creations)
  unfold rebuildEvents at hcrash
  cases hcrash with
  | here => exact .inr hcreated
  | read hcrash =>
    simp only [h.needed, Bool.false_eq_true, if_false] at hcrash
    rcases crash_seq hcrash with hcopy | ⟨db₁, hrun, hindexes⟩
    · obtain ⟨n, hn, rfl⟩ := crash_statements hcopy
      have hcases : n = 0 ∨ n ∈ [1, 2, 3] ∨ n = Schema.copyEvents.length := by
        have hlength : Schema.copyEvents.length = 4 := rfl
        simp only [mem_cons, not_mem_nil, or_false]
        omega
      rcases hcases with rfl | hbetween | rfl
      · exact .inr hcreated
      · exact .inl (h.blocked n hbetween)
      · rw [after_of_run h.copyEvents]
        exact .inr (h.resumes_indexes (.here _ _))
    · rw [h.copyEvents] at hrun
      cases hrun
      exact .inr (h.resumes_indexes hindexes)

theorem resumes_migrationV8 (hcrash : Crash issue applyMigrationV8 indexed db) : Resumes db := by
  have hrebuilt : Rebuilt db := kept_rebuilt.migrationV8 indexed db h.rebuilt_indexed hcrash
  have hdone : ∀ a ∈ Schema.creations, a.Done indexed :=
    resumable_creations.establishes (h.rebuilt.run_creations h.guardedIndexes)
  have hdone := (kept_done _).migrationV8 indexed db hdone hcrash
  refine ⟨hrebuilt.versioned, hrebuilt.absent, ?_⟩
  rw [h.run_ensure, ensureCurrentSchema_current, run_seq_of_ok (resumable_creations.skips hdone),
    run_seq_of_ok hrebuilt.run_rebuildEvents, Schema.resumes_migrationV8 hcrash]

end

end Rebuild

theorem crash_ensure
    (h : Crash issue (ensureCurrentSchema currentSchemaVersion) versionedDatabase db) :
    blocked db = true ∨ Resumes db := by
  obtain ⟨created, copy, indexed, hr⟩ := rebuild_exists
  rw [ensureCurrentSchema_current] at h
  rcases crash_seq h with hcrash | ⟨db₁, hrun, hcrash⟩
  · exact .inr (resumes_creations hcrash)
  · rw [hr.creations] at hrun
    cases hrun
    rcases crash_seq hcrash with hcrash | ⟨db₁, hrun, hcrash⟩
    · exact hr.resumes_rebuildEvents hcrash
    · rw [hr.run_rebuildEvents] at hrun
      cases hrun
      exact .inr (hr.resumes_migrationV8 hcrash)

theorem open_succeeds : ∃ db, openRegistry.run issue Db.empty = .ok db := by
  have hrun : (openRegistry.run issue Db.empty).toOption.isSome = true := by decide +kernel
  obtain ⟨db, hdb⟩ := Option.isSome_iff_exists.mp hrun
  exact ⟨db, eq_ok_of_toOption hdb⟩

end AgentTower.Schema
