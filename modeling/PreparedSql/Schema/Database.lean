import PreparedSql.Schema.Table

/-!
# Databases

Tables of different models, in registration order. No two share a name or a model, so a model finds its
table.
-/

namespace PreparedSql

structure AnyTable where
  model : Model
  table : Table model

namespace AnyTable

def name (t : AnyTable) : String :=
  t.table.name.text

def Distinct (a b : AnyTable) : Prop :=
  a.name ≠ b.name ∧ a.model ≠ b.model

instance : DecidableRel Distinct :=
  fun _ _ => inferInstanceAs (Decidable (_ ∧ _))

def find (M : Model) : List AnyTable → Option (Table M)
  | [] => none
  | t :: rest => if same : t.model = M then some (same ▸ t.table) else find M rest

theorem pairwise_distinct_iff {tables : List AnyTable} :
    tables.Pairwise Distinct ↔ (tables.map name).Nodup ∧ (tables.map model).Nodup :=
  pairwise_keys_iff

theorem find_eq_none_iff {M : Model} {tables : List AnyTable} :
    find M tables = none ↔ ∀ u ∈ tables, u.model ≠ M := by
  induction tables with
  | nil => simp [find]
  | cons u rest ih =>
    rw [find, List.forall_mem_cons]
    by_cases same : u.model = M <;> simp [same, ih]

end AnyTable

structure Database where
  tables : List AnyTable
  pairwise_distinct : tables.Pairwise AnyTable.Distinct

namespace Database

/-- The database of the tables, if none repeats the name or model of an earlier one. -/
def make (tables : List AnyTable) : Except Error Database :=
  match distinct : firstRepeat AnyTable.Distinct [] tables with
  | some t => .error (.duplicateTable t.name)
  | none => .ok ⟨tables, pairwise_of_firstRepeat _ distinct⟩

theorem make_eq_ok_iff {tables : List AnyTable} {db : Database} :
    make tables = .ok db ↔ db.tables = tables := by
  obtain ⟨registered, distinct⟩ := db
  unfold make
  split
  · rename_i t repeated
    simp only [reduceCtorEq, false_iff]
    rintro rfl
    rw [(firstRepeat_eq_none_iff _).2 ⟨distinct, by simp⟩] at repeated
    cases repeated
  · simp only [Except.ok.injEq, Database.mk.injEq]
    exact eq_comm

theorem make_eq_error_iff {tables : List AnyTable} {e : Error} : make tables = .error e ↔
    ∃ t, firstRepeat AnyTable.Distinct [] tables = some t ∧ e = .duplicateTable t.name := by
  unfold make
  split
  · rename_i t repeated
    simp [repeated, eq_comm]
  · rename_i none
    simp [none]

def table (db : Database) (M : Model) : Except Error (Table M) :=
  match AnyTable.find M db.tables with
  | some t => .ok t
  | none => .error (.tableNotFound M.name)

def tableNames (db : Database) : List String :=
  db.tables.map AnyTable.name

def createStatements (db : Database) : List String :=
  db.tables.map fun t => t.table.schema

def dropStatements (db : Database) : List String :=
  db.tables.map fun t => t.table.dropStatement

/-- Each table is dropped and created before the next. -/
def recreateStatements (db : Database) : List String :=
  db.tables.flatMap fun t => [t.table.dropStatement, t.table.schema]

def inspect (db : Database) : String :=
  Inspect.record "Database" [("tables", Inspect.list (db.tableNames.map Inspect.quoted))]

end Database

end PreparedSql
