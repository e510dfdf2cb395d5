import AgentTower.Lib.Script
import Mathlib.Data.List.Nodup

/-!
# Statements that define a database

SQLite's `CREATE TABLE` and the like on a database of tables and indexes, in the order in which they
were made.  The texts of types, defaults and checks are kept as they are; the rows that are inserted
are not checked against them.  Statements that only create keep every fact that another could test, so
a list of guarded ones can be run again after a crash at any point (`resumable_statements`).
-/

namespace Ddl

open List
open Script (Crash Keeps Resumable run statements)

/-- `now` stands for the time at which the row was written. -/
inductive Value where
  | null
  | integer (n : Int)
  | text (s : String)
  | now
  deriving DecidableEq, Repr

abbrev Row := List Value

/-- `clauses` is what follows the type, `NOT NULL` apart. -/
structure Column where
  name : String
  declType : String
  notNull : Bool
  clauses : List String
  deriving DecidableEq, Repr

structure IndexColumn where
  name : String
  desc : Bool
  deriving DecidableEq, Repr

structure TableDef (ν : Type) where
  name : ν
  columns : List Column
  constraints : List String
  deriving DecidableEq, Repr

structure Table (ν : Type) where
  schema : TableDef ν
  rows : List Row
  deriving DecidableEq, Repr

structure Index (ν ι : Type) where
  name : ι
  table : ν
  columns : List IndexColumn
  unique : Bool
  condition : Option String
  deriving DecidableEq, Repr

structure Db (ν ι : Type) where
  tables : List (Table ν)
  indexes : List (Index ν ι)
  deriving DecidableEq, Repr

inductive SqlError (ν ι : Type) where
  | tableExists (name : ν)
  | indexExists (name : ι)
  | noSuchTable (name : ν)
  | noSuchColumn (name : String)
  | duplicateColumn (name : String)
  deriving DecidableEq, Repr

variable {ν ι ε : Type}

namespace Table

def column? (t : Table ν) (c : String) : Option Column :=
  t.schema.columns.find? fun col => decide (col.name = c)

def firstValue (t : Table ν) : Option Value := t.rows.head?.bind List.head?

def hasKey (t : Table ν) (v : Value) : Bool := t.rows.any fun r => decide (r.head? = some v)

def insert (t : Table ν) (r : Row) : Table ν := { t with rows := t.rows ++ [r] }

def addColumn (t : Table ν) (c : Column) (default : Value) : Table ν where
  schema := { t.schema with columns := t.schema.columns ++ [c] }
  rows := t.rows.map (· ++ [default])

def setColumn (t : Table ν) (c : String) (v : Value) : Table ν :=
  { t with rows := t.rows.map fun r => r.set (t.schema.columns.findIdx fun col => decide (col.name = c)) v }

end Table

/-- Rows and columns are only added. -/
inductive Table.Extends (t : Table ν) : Table ν → Prop
  | same : t.Extends t
  | insert (r : Row) : t.Extends (t.insert r)
  | addColumn (c : Column) (default : Value) : t.Extends (t.addColumn c default)

namespace Table.Extends

variable {t t' : Table ν}

theorem name (h : t.Extends t') : t'.schema.name = t.schema.name := by
  cases h with
  | same | insert | addColumn => rfl

theorem column? (h : t.Extends t') {c : String} {col : Column} (hc : t.column? c = some col) :
    t'.column? c = some col := by
  cases h with
  | same => exact hc
  | insert r => exact hc
  | addColumn c' default =>
    unfold Table.column? at hc ⊢
    simp only [Table.addColumn]
    rw [List.find?_append, hc]
    rfl

theorem firstValue (h : t.Extends t') {v : Value} (hv : t.firstValue = some v) :
    t'.firstValue = some v := by
  obtain ⟨r, hr, hhead⟩ := Option.bind_eq_some_iff.mp hv
  unfold Table.firstValue
  cases h with
  | same => exact hv
  | insert r' =>
    simp only [Table.insert, List.head?_append, hr]
    exact hhead
  | addColumn c default =>
    simp only [Table.addColumn, List.head?_map, hr]
    show (r ++ [default]).head? = some v
    rw [List.head?_append, hhead]
    rfl

theorem hasKey (h : t.Extends t') {v : Value} (hv : t.hasKey v = true) : t'.hasKey v = true := by
  unfold Table.hasKey at hv ⊢
  cases h with
  | same => exact hv
  | insert r =>
    simp only [Table.insert]
    rw [any_append, hv]
    rfl
  | addColumn c default =>
    obtain ⟨r, hr, hhead⟩ := any_eq_true.mp hv
    refine any_eq_true.mpr ⟨r ++ [default], mem_map_of_mem hr, ?_⟩
    rw [decide_eq_true_eq] at hhead ⊢
    rw [List.head?_append, hhead]
    rfl

end Table.Extends

section

variable [DecidableEq ν]

namespace Db

def empty : Db ν ι := ⟨[], []⟩

def table? (db : Db ν ι) (n : ν) : Option (Table ν) :=
  db.tables.find? fun t => decide (t.schema.name = n)

def hasIndex [DecidableEq ι] (db : Db ν ι) (i : ι) : Bool :=
  db.indexes.any fun x => decide (x.name = i)

def mapTable (db : Db ν ι) (n : ν) (f : Table ν → Table ν) : Db ν ι :=
  { db with tables := db.tables.map fun t => if t.schema.name = n then f t else t }

def modifyTable (db : Db ν ι) (n : ν) (f : Table ν → Table ν) : Except (SqlError ν ι) (Db ν ι) :=
  match db.table? n with
  | none => .error (.noSuchTable n)
  | some _ => .ok (db.mapTable n f)

theorem table?_mapTable (db : Db ν ι) (n m : ν) (f : Table ν → Table ν)
    (hf : ∀ t, (f t).schema.name = t.schema.name) :
    (db.mapTable n f).table? m = (db.table? m).map fun t => if m = n then f t else t := by
  unfold table? mapTable
  rw [List.find?_map]
  have hname : ((fun t : Table ν => decide (t.schema.name = m)) ∘ fun t =>
      if t.schema.name = n then f t else t) = fun t => decide (t.schema.name = m) := by
    funext t
    simp only [Function.comp]
    split
    · rw [hf]
    · rfl
  rw [hname]
  cases hfind : db.tables.find? fun t => decide (t.schema.name = m) with
  | none => rfl
  | some t =>
    have hfound := List.find?_some hfind
    have hm : t.schema.name = m := of_decide_eq_true hfound
    simp only [Option.map_some, hm]

theorem table?_create (db : Db ν ι) (d : TableDef ν) (n : ν) :
    Db.table? { db with tables := db.tables ++ [⟨d, []⟩] } n
      = (db.table? n).or (if d.name = n then some ⟨d, []⟩ else none) := by
  unfold table?
  rw [List.find?_append, List.find?_singleton]
  by_cases hn : d.name = n
  · simp [hn]
  · simp [hn]

omit [DecidableEq ν] in
theorem hasIndex_create [DecidableEq ι] (db : Db ν ι) (x : Index ν ι) (i : ι) :
    Db.hasIndex { db with indexes := db.indexes ++ [x] } i = (db.hasIndex i || decide (x.name = i)) := by
  unfold hasIndex
  rw [any_append, any_cons, any_nil, Bool.or_false]

end Db

end

variable [DecidableEq ν] [DecidableEq ι]

inductive Stmt (ν ι : Type) where
  | pragma (setting : String)
  | createTable (ifNotExists : Bool) (d : TableDef ν)
  | createIndex (ifNotExists : Bool) (x : Index ν ι)
  | insert (n : ν) (row : Row)
  | insertOrIgnore (n : ν) (key : Value) (rest : Row)
  | insertSelect (target source : ν)
  | setColumn (n : ν) (c : String) (v : Value)
  | dropTable (n : ν)
  | renameTable (source target : ν)
  | addColumn (n : ν) (c : Column) (default : Value)
  deriving Repr

namespace Stmt

def apply (db : Db ν ι) : Stmt ν ι → Except (SqlError ν ι) (Db ν ι)
  | pragma _ => .ok db
  | createTable ifNotExists d =>
    match db.table? d.name with
    | some _ => if ifNotExists then .ok db else .error (.tableExists d.name)
    | none => .ok { db with tables := db.tables ++ [⟨d, []⟩] }
  | createIndex ifNotExists x =>
    match db.table? x.table with
    | none => .error (.noSuchTable x.table)
    | some t =>
      if db.hasIndex x.name then if ifNotExists then .ok db else .error (.indexExists x.name)
      else
        match x.columns.find? fun c => (t.column? c.name).isNone with
        | some c => .error (.noSuchColumn c.name)
        | none => .ok { db with indexes := db.indexes ++ [x] }
  | insert n row => db.modifyTable n fun t => t.insert row
  | insertOrIgnore n key rest =>
    match db.table? n with
    | none => .error (.noSuchTable n)
    | some t => if t.hasKey key then .ok db else .ok (db.mapTable n fun t => t.insert (key :: rest))
  | insertSelect target source =>
    match db.table? source with
    | none => .error (.noSuchTable source)
    | some t => db.modifyTable target fun t' => { t' with rows := t'.rows ++ t.rows }
  | setColumn n c v => db.modifyTable n fun t => t.setColumn c v
  | dropTable n =>
    match db.table? n with
    | none => .error (.noSuchTable n)
    | some _ =>
      .ok ⟨db.tables.filter fun t => decide (t.schema.name ≠ n),
        db.indexes.filter fun x => decide (x.table ≠ n)⟩
  | renameTable source target =>
    match db.table? source, db.table? target with
    | none, _ => .error (.noSuchTable source)
    | some _, some _ => .error (.tableExists target)
    | some _, none =>
      .ok ⟨(db.mapTable source fun t => { t with schema := { t.schema with name := target } }).tables,
        db.indexes.map fun x => if x.table = source then { x with table := target } else x⟩
  | addColumn n c default =>
    match db.table? n with
    | none => .error (.noSuchTable n)
    | some t =>
      if (t.column? c.name).isSome then .error (.duplicateColumn c.name)
      else .ok (db.mapTable n fun t => t.addColumn c default)

/-- The statement as a script issues it, which raises `wrap` of the error. -/
def issue (wrap : SqlError ν ι → ε) (a : Stmt ν ι) (db : Db ν ι) : Except ε (Db ν ι) :=
  (a.apply db).mapError wrap

theorem issue_eq_ok {wrap : SqlError ν ι → ε} {a : Stmt ν ι} {db db' : Db ν ι} :
    a.issue wrap db = .ok db' ↔ a.apply db = .ok db' := by
  unfold issue
  cases a.apply db with
  | ok db₁ | error e => simp [Except.mapError]

end Stmt

/-! ## What creating keeps -/

open Stmt (addColumn apply createIndex issue)

structure Db.Extends (db db' : Db ν ι) : Prop where
  tables : ∀ {n t}, db.table? n = some t → ∃ t', db'.table? n = some t' ∧ t.Extends t'
  indexes : ∀ {i}, db.hasIndex i = true → db'.hasIndex i = true

namespace Db

variable {db db' : Db ν ι} {n : ν}

theorem Extends.refl (db : Db ν ι) : db.Extends db :=
  ⟨fun h => ⟨_, h, .same⟩, id⟩

theorem extends_mapTable (db : Db ν ι) (n : ν) {f : Table ν → Table ν}
    (hf : ∀ t : Table ν, t.Extends (f t)) : db.Extends (db.mapTable n f) := by
  refine ⟨fun {m t} ht => ⟨if m = n then f t else t, ?_, ?_⟩, id⟩
  · rw [table?_mapTable db n m f fun t => (hf t).name, ht]
    rfl
  · split
    · exact hf t
    · exact .same

end Db

namespace Stmt

def creates : Stmt ν ι → Bool
  | pragma _ | createTable _ _ | createIndex _ _ | insert _ _ | insertOrIgnore _ _ _
  | addColumn _ _ _ => true
  | _ => false

/-- What a creating statement does: nothing, or it adds a table, or an index, or to one table. -/
inductive Creation (db : Db ν ι) : Stmt ν ι → Db ν ι → Prop
  | same (a : Stmt ν ι) : Creation db a db
  | table (ifNotExists : Bool) (d : TableDef ν) :
      Creation db (.createTable ifNotExists d) { db with tables := db.tables ++ [⟨d, []⟩] }
  | index (ifNotExists : Bool) (x : Index ν ι) :
      Creation db (.createIndex ifNotExists x) { db with indexes := db.indexes ++ [x] }
  | change (a : Stmt ν ι) (n : ν) {f : Table ν → Table ν} (hf : ∀ t : Table ν, t.Extends (f t)) :
      Creation db a (db.mapTable n f)

theorem creation_of_apply {a : Stmt ν ι} {db db' : Db ν ι} (ha : a.creates = true)
    (h : a.apply db = .ok db') : Creation db a db' := by
  cases a with
  | pragma setting =>
    cases h
    exact .same _
  | createTable ifNotExists d =>
    simp only [apply] at h
    split at h
    · split at h <;> cases h
      exact .same _
    · cases h
      exact .table ifNotExists d
  | createIndex ifNotExists x =>
    simp only [apply] at h
    split at h
    · cases h
    · split at h
      · split at h <;> cases h
        exact .same _
      · split at h <;> cases h
        exact .index ifNotExists x
  | insert n row =>
    simp only [apply, Db.modifyTable] at h
    split at h <;> cases h
    exact .change _ n fun _ => .insert row
  | insertOrIgnore n key rest =>
    simp only [apply] at h
    split at h
    · cases h
    · split at h
      · cases h
        exact .same _
      · cases h
        exact .change _ n fun _ => .insert (key :: rest)
  | addColumn n c default =>
    simp only [apply] at h
    split at h
    · cases h
    · split at h <;> cases h
      exact .change _ n fun _ => .addColumn c default
  | insertSelect | setColumn | dropTable | renameTable => cases ha

theorem extends_apply {a : Stmt ν ι} {db db' : Db ν ι} (ha : a.creates = true)
    (h : a.apply db = .ok db') : db.Extends db' := by
  cases creation_of_apply ha h with
  | same => exact .refl db
  | table ifNotExists d =>
    refine ⟨fun {n t} ht => ⟨t, ?_, .same⟩, id⟩
    rw [Db.table?_create, ht]
    rfl
  | index ifNotExists x =>
    refine ⟨fun ht => ⟨_, ht, .same⟩, fun hi => ?_⟩
    rw [Db.hasIndex_create, hi]
    rfl
  | change a n hf => exact Db.extends_mapTable db n hf

end Stmt

/-! ## Facts -/

/-- What a statement, or the script around it, finds in the database. -/
inductive Fact (ν ι : Type) where
  | table (n : ν)
  | column (n : ν) (c : String)
  | nullable (n : ν) (c : String)
  | firstValue (n : ν) (v : Value)
  | key (n : ν) (v : Value)
  | index (i : ι)

def Fact.holds (db : Db ν ι) : Fact ν ι → Bool
  | table n => (db.table? n).isSome
  | column n c => (db.table? n).any fun t => (t.column? c).isSome
  | nullable n c => (db.table? n).any fun t => (t.column? c).any fun col => !col.notNull
  | firstValue n v => (db.table? n).any fun t => decide (t.firstValue = some v)
  | key n v => (db.table? n).any fun t => t.hasKey v
  | index i => db.hasIndex i

namespace Db.Extends

variable {db db' : Db ν ι}

theorem any_table (h : db.Extends db') {n : ν} {p : Table ν → Bool}
    (hp : ∀ t t', t.Extends t' → p t = true → p t' = true) (hdb : (db.table? n).any p = true) :
    (db'.table? n).any p = true := by
  obtain ⟨t, ht, hpt⟩ := (Option.any_eq_true _ _).mp hdb
  obtain ⟨t', ht', hext⟩ := h.tables ht
  exact (Option.any_eq_true _ _).mpr ⟨t', ht', hp t t' hext hpt⟩

theorem holds (h : db.Extends db') {f : Fact ν ι} (hf : f.holds db = true) : f.holds db' = true := by
  cases f with
  | table n =>
    obtain ⟨t, ht⟩ := Option.isSome_iff_exists.mp hf
    obtain ⟨t', ht', -⟩ := h.tables ht
    exact Option.isSome_iff_exists.mpr ⟨t', ht'⟩
  | column n c =>
    refine h.any_table (fun t t' hext hc => ?_) hf
    obtain ⟨col, hcol⟩ := Option.isSome_iff_exists.mp hc
    rw [hext.column? hcol]
    rfl
  | nullable n c =>
    refine h.any_table (fun t t' hext hc => ?_) hf
    obtain ⟨col, hcol, hnull⟩ := (Option.any_eq_true _ _).mp hc
    rw [hext.column? hcol]
    exact hnull
  | firstValue n v =>
    refine h.any_table (fun t t' hext hv => ?_) hf
    rw [decide_eq_true_eq] at hv ⊢
    exact hext.firstValue hv
  | key n v => exact h.any_table (fun t t' hext hv => hext.hasKey hv) hf
  | index i => exact h.indexes hf

end Db.Extends

/-! ## Resuming -/

namespace Stmt

variable (wrap : SqlError ν ι → ε)

def guarded : Stmt ν ι → Bool
  | pragma _ | createTable true _ | createIndex true _ | insertOrIgnore _ _ _ => true
  | _ => false

omit [DecidableEq ν] [DecidableEq ι] in
theorem creates_of_guarded {a : Stmt ν ι} (h : a.guarded = true) : a.creates = true := by
  cases a with
  | pragma | createTable | createIndex | insertOrIgnore => rfl
  | insert | insertSelect | setColumn | dropTable | renameTable | addColumn => cases h

def facts : Stmt ν ι → List (Fact ν ι)
  | createTable _ d => [.table d.name]
  | createIndex _ x => [.table x.table, .index x.name]
  | insertOrIgnore n key _ => [.key n key]
  | _ => []

def Done (a : Stmt ν ι) (db : Db ν ι) : Prop := ∀ f ∈ a.facts, f.holds db = true

instance (a : Stmt ν ι) (db : Db ν ι) : Decidable (a.Done db) :=
  inferInstanceAs (Decidable (∀ f ∈ a.facts, f.holds db = true))

theorem Done.extends {a : Stmt ν ι} {db db' : Db ν ι} (h : a.Done db) (hext : db.Extends db') :
    a.Done db' :=
  fun f hf => hext.holds (h f hf)

theorem keeps_done {a b : Stmt ν ι} {db db' : Db ν ι} (hb : b.creates = true) (h : a.Done db)
    (hok : b.issue wrap db = .ok db') : a.Done db' :=
  h.extends (extends_apply hb (issue_eq_ok.mp hok))

theorem resumable_createTable (d : TableDef ν) :
    Resumable (issue (ι := ι) wrap) (.exec (createTable true d) .done)
      (createTable true d).Done := by
  refine .exec (fun {db db'} hok => ?_) fun {db} hdone => ?_
  · have hok := issue_eq_ok.mp hok
    simp only [apply, if_true] at hok
    refine forall_mem_singleton.mpr ?_
    show (db'.table? d.name).isSome = true
    split at hok
    · rename_i t ht
      cases hok
      rw [ht]
      rfl
    · rename_i hnone
      cases hok
      rw [Db.table?_create, hnone, if_pos rfl]
      rfl
  · have htable : (db.table? d.name).isSome = true := hdone (.table d.name) (mem_singleton.mpr rfl)
    obtain ⟨t, ht⟩ := Option.isSome_iff_exists.mp htable
    refine issue_eq_ok.mpr ?_
    simp only [apply, ht, if_true]

theorem resumable_createIndex (x : Index ν ι) :
    Resumable (issue wrap) (.exec (createIndex true x) .done) (createIndex true x).Done := by
  refine .exec (fun {db db'} hok => ?_) fun {db} hdone => ?_
  · have hok := issue_eq_ok.mp hok
    have hext := extends_apply (a := createIndex true x) rfl hok
    simp only [apply, if_true] at hok
    split at hok
    · cases hok
    · rename_i t ht
      have htable : Fact.holds db' (.table x.table) = true :=
        hext.holds (f := .table x.table) (by rw [Fact.holds, ht]; rfl)
      refine forall_mem_cons.mpr ⟨htable, forall_mem_singleton.mpr ?_⟩
      show db'.hasIndex x.name = true
      split at hok
      · rename_i hindex
        cases hok
        exact hindex
      · split at hok <;> cases hok
        rw [Db.hasIndex_create, decide_eq_true rfl, Bool.or_true]
  · have htable : (db.table? x.table).isSome = true := hdone (.table x.table) (mem_cons_self ..)
    have hindex : db.hasIndex x.name = true :=
      hdone (.index x.name) (mem_cons_of_mem _ (mem_cons_self ..))
    obtain ⟨t, ht⟩ := Option.isSome_iff_exists.mp htable
    refine issue_eq_ok.mpr ?_
    simp only [apply, ht, hindex, if_true]

theorem resumable_insertOrIgnore (n : ν) (key : Value) (rest : Row) :
    Resumable (issue (ι := ι) wrap) (.exec (insertOrIgnore n key rest) .done)
      (insertOrIgnore n key rest).Done := by
  refine .exec (fun {db db'} hok => ?_) fun {db} hdone => ?_
  · have hok := issue_eq_ok.mp hok
    simp only [apply] at hok
    refine forall_mem_singleton.mpr ?_
    show (db'.table? n).any (fun t => t.hasKey key) = true
    split at hok
    · cases hok
    · rename_i t ht
      split at hok
      · rename_i hkey
        cases hok
        rw [ht]
        exact hkey
      · cases hok
        rw [Db.table?_mapTable db n n (fun t => t.insert (key :: rest)) fun t => rfl, ht]
        simp [Table.hasKey, Table.insert]
  · have hkey : (db.table? n).any (fun t => t.hasKey key) = true :=
      hdone (.key n key) (mem_singleton.mpr rfl)
    obtain ⟨t, ht, hkey⟩ := (Option.any_eq_true _ _).mp hkey
    refine issue_eq_ok.mpr ?_
    simp only [apply, ht, hkey, if_true]

theorem resumable_guarded {a : Stmt ν ι} (h : a.guarded = true) :
    Resumable (issue wrap) (.exec a .done) a.Done := by
  cases a with
  | pragma setting => exact .exec nofun fun _ => rfl
  | createTable ifNotExists d =>
    cases ifNotExists with
    | false => cases h
    | true => exact resumable_createTable wrap d
  | createIndex ifNotExists x =>
    cases ifNotExists with
    | false => cases h
    | true => exact resumable_createIndex wrap x
  | insertOrIgnore n key rest => exact resumable_insertOrIgnore wrap n key rest
  | insert | insertSelect | setColumn | dropTable | renameTable | addColumn => cases h

theorem keeps_fact {as : List (Stmt ν ι)} (h : ∀ a ∈ as, a.creates = true) (f : Fact ν ι) :
    Keeps (issue wrap) (.statements as) fun db => f.holds db = true :=
  Script.Keeps.statements fun a ha _ _ hf hok =>
    (extends_apply (h a ha) (issue_eq_ok.mp hok)).holds hf

end Stmt

theorem resumable_statements (wrap : SqlError ν ι → ε) {as : List (Stmt ν ι)}
    (h : ∀ a ∈ as, a.guarded = true) :
    Resumable (issue wrap) (.statements as) fun db => ∀ a ∈ as, a.Done db :=
  .statements (fun a ha => Stmt.resumable_guarded wrap (h a ha)) fun _ _ b hb _ _ hdone hok =>
    Stmt.keeps_done wrap (Stmt.creates_of_guarded (h b hb)) hdone hok

/-! ## Indexes that are not there yet -/

section CreateIndexes

variable (wrap : SqlError ν ι → ε) {x : Index ν ι} {xs : List (Index ν ι)} {db db' : Db ν ι}

theorem issue_createIndex (hnone : db.hasIndex x.name = false) :
    (createIndex true x).issue wrap db = (createIndex false x).issue wrap db := by
  simp only [issue, apply, hnone, Bool.false_eq_true, if_false]

theorem hasIndex_createIndex (hnone : db.hasIndex x.name = false)
    (h : (createIndex false x).issue wrap db = .ok db') (i : ι) :
    db'.hasIndex i = (db.hasIndex i || decide (x.name = i)) := by
  have h := Stmt.issue_eq_ok.mp h
  simp only [apply, hnone, Bool.false_eq_true, if_false] at h
  split at h
  · cases h
  · split at h <;> cases h
    exact Db.hasIndex_create db x i

theorem hasIndex_rest (hnodup : ((x :: xs).map Index.name).Nodup)
    (hnone : ∀ y ∈ x :: xs, db.hasIndex y.name = false)
    (h : (createIndex false x).issue wrap db = .ok db') :
    ∀ y ∈ xs, db'.hasIndex y.name = false := by
  intro y hy
  rw [map_cons, nodup_cons] at hnodup
  have hother : x.name ≠ y.name := fun heq => hnodup.1 (heq ▸ mem_map_of_mem hy)
  rw [hasIndex_createIndex wrap (hnone x (mem_cons_self ..)) h, hnone y (mem_cons_of_mem _ hy)]
  simpa using hother

theorem run_createIndexes (hnodup : (xs.map Index.name).Nodup)
    (hnone : ∀ x ∈ xs, db.hasIndex x.name = false) :
    (statements (xs.map (createIndex true))).run (issue wrap) db
      = (statements (xs.map (createIndex false))).run (issue wrap) db := by
  induction xs generalizing db with
  | nil => rfl
  | cons x xs ih =>
    simp only [map_cons, statements, run]
    rw [issue_createIndex wrap (hnone x (mem_cons_self ..))]
    cases h : (createIndex false x).issue wrap db with
    | error e => rfl
    | ok db₁ => exact ih (nodup_cons.mp hnodup).2 (hasIndex_rest wrap hnodup hnone h)

theorem crash_createIndexes (hnodup : (xs.map Index.name).Nodup)
    (hnone : ∀ x ∈ xs, db.hasIndex x.name = false)
    (h : Crash (issue wrap) (.statements (xs.map (.createIndex false))) db db') :
    Crash (issue wrap) (.statements (xs.map (.createIndex true))) db db' := by
  induction xs generalizing db with
  | nil => exact h
  | cons x xs ih =>
    cases h with
    | here => exact .here _ _
    | exec hx hrest =>
      have hfirst := issue_createIndex wrap (hnone x (mem_cons_self ..))
      exact .exec (hfirst.trans hx)
        (ih (nodup_cons.mp hnodup).2 (hasIndex_rest wrap hnodup hnone hx) hrest)

end CreateIndexes

def Stmt.createsOther (n : ν) (a : Stmt ν ι) : Bool :=
  a.creates &&
    match a with
    | .createTable _ d => decide (d.name ≠ n)
    | _ => true

theorem Stmt.absent_apply {a : Stmt ν ι} {n : ν} {db db' : Db ν ι} (ha : a.createsOther n = true)
    (h : a.apply db = .ok db') (hnone : db.table? n = none) : db'.table? n = none := by
  unfold createsOther at ha
  rw [Bool.and_eq_true] at ha
  obtain ⟨hcreates, hother⟩ := ha
  cases creation_of_apply hcreates h with
  | same => exact hnone
  | table ifNotExists d =>
    rw [Db.table?_create, hnone, if_neg (of_decide_eq_true hother)]
    rfl
  | index ifNotExists x => exact hnone
  | @change _ m f hf =>
    rw [Db.table?_mapTable db m n f fun t => (hf t).name, hnone]
    rfl

theorem Stmt.keeps_absent (wrap : SqlError ν ι → ε) {n : ν} {as : List (Stmt ν ι)}
    (h : ∀ a ∈ as, a.createsOther n = true) :
    Keeps (issue wrap) (.statements as) fun db => db.table? n = none :=
  Script.Keeps.statements fun a ha _ _ hnone hok =>
    absent_apply (h a ha) (issue_eq_ok.mp hok) hnone

/-! ## Columns that are added if they are missing -/

section AddMissing

variable (wrap : SqlError ν ι → ε) (n : ν) (cs : List (Column × Value))

def missingColumns (db : Db ν ι) : List (Column × Value) :=
  cs.filter fun c => !(Fact.column n c.1.name).holds db

def addMissingColumns : Script (Stmt ν ι) (Db ν ι) ε :=
  .read fun db => .statements ((missingColumns n cs db).map fun c => .addColumn n c.1 c.2)

variable {n cs} {db db' : Db ν ι}

theorem column_addColumn {c : Column} {v : Value}
    (h : (addColumn n c v).apply db = .ok db') (d : String) :
    (Fact.column n d).holds db' = (decide (c.name = d) || (Fact.column n d).holds db) := by
  simp only [apply] at h
  split at h
  · cases h
  · rename_i t ht
    split at h <;> cases h
    simp only [Fact.holds]
    rw [Db.table?_mapTable db n n (fun t => t.addColumn c v) fun t => rfl, ht]
    simp only [if_true, Option.map_some, Option.any_some, Table.column?, Table.addColumn]
    rw [List.find?_append, Option.isSome_or, Bool.or_comm]
    by_cases hd : c.name = d
    · simp [hd]
    · simp [hd]

section

variable (hnodup : (cs.map fun c => c.1.name).Nodup)
include hnodup

theorem missingColumns_addColumn {c : Column × Value}
    {rest : List (Column × Value)} (hmissing : missingColumns n cs db = c :: rest)
    (h : (addColumn n c.1 c.2).apply db = .ok db') : missingColumns n cs db' = rest := by
  have hnames : ((c :: rest).map fun c => c.1.name).Nodup := by
    rw [← hmissing]
    exact hnodup.sublist (filter_sublist.map _)
  have hfilter : missingColumns n cs db'
      = (missingColumns n cs db).filter fun d => !decide (c.1.name = d.1.name) := by
    unfold missingColumns
    rw [filter_filter]
    refine filter_congr fun d _ => ?_
    rw [column_addColumn h, Bool.not_or]
  rw [hfilter, hmissing, filter_cons, if_neg (by simp), filter_eq_self]
  intro d hd
  rw [map_cons, nodup_cons] at hnames
  simp only [Bool.not_eq_true', decide_eq_false_iff_not]
  exact fun heq => hnames.1 (heq ▸ mem_map_of_mem hd)

theorem resumes_missing
    {missing : List (Column × Value)} (hmissing : missingColumns n cs db = missing)
    (hcrash : Crash (issue wrap) (.statements (missing.map fun c => .addColumn n c.1 c.2)) db db') :
    (addMissingColumns n cs).run (issue wrap) db'
      = (statements (missing.map fun c => addColumn n c.1 c.2)).run (issue wrap)
        db := by
  induction missing generalizing db with
  | nil =>
    cases hcrash
    simp only [addMissingColumns, run, hmissing]
  | cons c rest ih =>
    cases hcrash with
    | here => simp only [addMissingColumns, run, hmissing]
    | exec hadd hrest =>
      rw [ih (missingColumns_addColumn hnodup hmissing (Stmt.issue_eq_ok.mp hadd)) hrest]
      exact (Fallible.bind_of_ok hadd _).symm

theorem none_missing
    {missing : List (Column × Value)} (hmissing : missingColumns n cs db = missing)
    (h : (statements (missing.map fun c => addColumn n c.1 c.2)).run (issue wrap)
      db = .ok db') : missingColumns n cs db' = [] := by
  induction missing generalizing db with
  | nil =>
    cases h
    exact hmissing
  | cons c rest ih =>
    obtain ⟨db₁, hadd, hrest⟩ := Script.run_exec_eq_ok.mp h
    exact ih (missingColumns_addColumn hnodup hmissing (Stmt.issue_eq_ok.mp hadd)) hrest

end

theorem missingColumns_eq_nil :
    missingColumns n cs db = [] ↔ ∀ c ∈ cs, (Fact.column n c.1.name).holds db = true := by
  unfold missingColumns
  rw [filter_eq_nil_iff]
  simp

theorem resumable_addMissingColumns (hnodup : (cs.map fun c => c.1.name).Nodup) :
    Resumable (issue wrap) (addMissingColumns n cs) fun db =>
      ∀ c ∈ cs, (Fact.column n c.1.name).holds db = true := by
  constructor
  · intro db db' hcrash
    cases hcrash with
    | here => rfl
    | read hcrash => exact resumes_missing wrap hnodup rfl hcrash
  · intro db db' h
    exact missingColumns_eq_nil.mp (none_missing wrap hnodup rfl h)
  · intro db h
    simp only [addMissingColumns, run, missingColumns_eq_nil.mpr h, map_nil, statements]

theorem keeps_addMissingColumns {D : Db ν ι → Prop}
    (h : ∀ (c : Column) (v : Value), Keeps (issue wrap) (.statements [.addColumn n c v]) D) :
    Keeps (issue wrap) (addMissingColumns n cs) D := by
  intro db db' hD hcrash
  cases hcrash with
  | here => exact hD
  | read hcrash =>
    refine Script.Keeps.statements (fun a ha s s' hs hok => ?_) _ _ hD hcrash
    obtain ⟨c, -, rfl⟩ := mem_map.mp ha
    exact h c.1 c.2 _ _ hs (.exec hok (.here _ _))

end AddMissing

end Ddl
