import PreparedSql.Proofs.Schema.Index
import PreparedSql.Proofs.Schema.Mapping

/-!
# The registry of tables

Main statement: tables of which no two share a name or a model make a database, and the first that
repeats one before it is refused; in a database each model finds its own table, by search or by index, and
the statements of the schema stand in the order of the tables (`Database.make_registers`).
-/

namespace PreparedSql

open Text

namespace Text

theorem backtick_not_mem (name : Identifier) : backtick ∉ name.text.toList := by
  intro member
  have parts := List.all_eq_true.1 (all_isWordPart_of_isWord name.isWord_text) _ member
  exact absurd parts (by decide)

/-- A quoted name ends at its closing backtick, whatever follows. -/
theorem text_eq_of_quoted_append {a b : Identifier} {x y : String}
    (same : a.quoted ++ x = b.quoted ++ y) : a.text = b.text := by
  have letters (name : Identifier) (rest : List Char) :
      (name.text.toList ++ backtick :: rest).takeWhile (· ≠ backtick) = name.text.toList := by
    have inside : ∀ c ∈ name.text.toList, (decide (c ≠ backtick)) = true := fun c member =>
      decide_eq_true fun quote => backtick_not_mem name (quote ▸ member)
    rw [List.takeWhile_append_of_pos inside, List.takeWhile_cons_of_neg (by simp), List.append_nil]
  have open' (name : Identifier) (rest : String) :
      (name.quoted ++ rest).toList = backtick :: (name.text.toList ++ backtick :: rest.toList) := by
    have sign : "`".toList = [backtick] := rfl
    simp [Identifier.quoted, sign]
  have chars := congrArg String.toList same
  rw [open', open'] at chars
  apply String.toList_inj.1
  rw [← letters a x.toList, ← letters b y.toList, (List.cons.inj chars).2]

end Text

namespace AnyTable

variable {tables : List AnyTable} {M : Model}

/-- The search for a model gives the only table of that model. -/
theorem find_eq_some_iff (models : (tables.map model).Nodup) {t : Table M} :
    find M tables = some t ↔ tables.filter (fun u => u.model = M) = [⟨M, t⟩] := by
  induction tables with
  | nil => simp [find]
  | cons u rest ih =>
    rw [List.map_cons, List.nodup_cons] at models
    obtain ⟨own, table⟩ := u
    by_cases same : own = M
    · subst same
      have others : rest.filter (fun u => u.model = own) = [] := by
        refine List.filter_eq_nil_iff.2 fun v member => ?_
        simp only [decide_eq_true_eq]
        exact fun again => models.1 (List.mem_map.2 ⟨v, member, again⟩)
      rw [find, dif_pos rfl, List.filter_cons_of_pos (by simp), others]
      simp
    · rw [find, dif_neg same, List.filter_cons_of_neg (by simpa using same)]
      exact ih models.2

end AnyTable

namespace Database

variable {tables : List AnyTable} {db : Database}

/-- The table is the first that has the name or the model of a table before it. -/
def FirstClash (tables : List AnyTable) (t : AnyTable) : Prop :=
  ∃ before after, tables = before ++ t :: after ∧
    ((before.map AnyTable.name).Nodup ∧ (before.map AnyTable.model).Nodup) ∧
      (t.name ∈ before.map AnyTable.name ∨ t.model ∈ before.map AnyTable.model)

theorem firstClash_iff {t : AnyTable} :
    FirstClash tables t ↔ firstRepeat AnyTable.Distinct [] tables = some t :=
  (firstRepeat_keys_iff rfl).symm

/-- The database answers for exactly these tables. -/
structure Registers (db : Database) (tables : List AnyTable) : Prop where
  found : ∀ (M : Model) (t : Table M),
    db.table M = .ok t ↔ tables.filter (fun u => u.model = M) = [⟨M, t⟩]
  missing : ∀ (M : Model) (e : Error),
    db.table M = .error e ↔ (∀ u ∈ tables, u.model ≠ M) ∧ e = .tableNotFound M.name

theorem registers (db : Database) : db.Registers db.tables := by
  have models := (AnyTable.pairwise_distinct_iff.1 db.pairwise_distinct).2
  constructor
  · intro M t
    rw [← AnyTable.find_eq_some_iff models, table]
    split <;> rename_i found <;> simp [found]
  · intro M e
    rw [← AnyTable.find_eq_none_iff, table]
    split <;> rename_i found <;> simp [found, eq_comm]

/-- Each table's statements stand at the table's place, no two tables share one, and each table is
dropped immediately before it is created. -/
structure Lists (db : Database) (tables : List AnyTable) : Prop where
  create : ∀ i : Nat, db.createStatements[i]? = tables[i]?.map fun t => t.table.schema
  drop : ∀ i : Nat, db.dropStatements[i]? = tables[i]?.map fun t => t.table.dropStatement
  once : db.createStatements.Nodup ∧ db.dropStatements.Nodup ∧ db.recreateStatements.Nodup
  alternate : ∀ i : Nat, db.recreateStatements[2 * i]? = db.dropStatements[i]? ∧
    db.recreateStatements[2 * i + 1]? = db.createStatements[i]?

theorem name_eq_of_schema {a b : AnyTable} (same : a.table.schema = b.table.schema) :
    a.name = b.name := by
  unfold Table.schema at same
  simp only [String.append_assoc] at same
  exact text_eq_of_quoted_append ((String.append_right_inj _).1 same)

theorem name_eq_of_dropStatement {a b : AnyTable} (same : a.table.dropStatement = b.table.dropStatement) :
    a.name = b.name := by
  have names : a.table.name.quoted = b.table.name.quoted := (String.append_right_inj _).1 same
  exact text_eq_of_quoted_append (congrArg (· ++ "") names)

/-- No text both drops and creates. -/
theorem dropStatement_ne_schema (a b : AnyTable) : a.table.dropStatement ≠ b.table.schema := by
  intro same
  unfold Table.dropStatement Table.schema at same
  have head := congrArg (fun text : String => text.toList.head?) same
  simp at head

/-- Statements that show the name of their table are as distinct as the tables. -/
theorem nodup_statements (db : Database) {statement : AnyTable → String}
    (names : ∀ {a b : AnyTable}, statement a = statement b → a.name = b.name) :
    (db.tables.map statement).Nodup :=
  List.pairwise_map.2 (db.pairwise_distinct.imp fun apart same => apart.1 (names same))

theorem nodup_recreateStatements (db : Database) : db.recreateStatements.Nodup := by
  refine List.pairwise_flatMap.2 ⟨?_, db.pairwise_distinct.imp fun {a b} apart => ?_⟩
  · intro t _
    simpa using dropStatement_ne_schema t t
  · simp only [List.mem_cons, List.not_mem_nil, or_false]
    rintro _ (rfl | rfl) _ (rfl | rfl) same
    · exact apart.1 (name_eq_of_dropStatement same)
    · exact dropStatement_ne_schema a b same
    · exact dropStatement_ne_schema b a same.symm
    · exact apart.1 (name_eq_of_schema same)

/-- Two values for each element of a list stand at an even place and the odd place after it. -/
theorem getElem?_flatMap_pair {α β : Type} (f g : α → β) (list : List α) (i : Nat) :
    (list.flatMap fun a => [f a, g a])[2 * i]? = list[i]?.map f ∧
      (list.flatMap fun a => [f a, g a])[2 * i + 1]? = list[i]?.map g := by
  induction list generalizing i with
  | nil => simp
  | cons a rest ih =>
    cases i with
    | zero => exact ⟨rfl, rfl⟩
    | succ i => simpa [Nat.mul_add] using ih i

theorem lists (db : Database) : db.Lists db.tables where
  create i := List.getElem?_map
  drop i := List.getElem?_map
  once := ⟨db.nodup_statements name_eq_of_schema, db.nodup_statements name_eq_of_dropStatement,
    db.nodup_recreateStatements⟩
  alternate i := by
    rw [dropStatements, createStatements, List.getElem?_map, List.getElem?_map]
    exact getElem?_flatMap_pair _ _ db.tables i

/-- A database is made of any tables that differ from one another, in name and in model; otherwise the
first table that does not is named. It answers for its own tables only, as an index of their models does
that is filled while they are compared. -/
theorem make_registers (tables : List AnyTable) :
    ((∃ db, make tables = .ok db) ↔
        (tables.map AnyTable.name).Nodup ∧ (tables.map AnyTable.model).Nodup) ∧
      (∀ e, make tables = .error e ↔ ∃ t, FirstClash tables t ∧ e = .duplicateTable t.name) ∧
      (∀ db, make tables = .ok db → db.Registers tables ∧ db.Lists tables) ∧
      match make tables with
      | .error e => Indexed.build tables = .error e
      | .ok db =>
        ∃ indexed, Indexed.build tables = .ok indexed ∧ ∀ M, indexed.table M = db.table M := by
  refine ⟨?_, ?_, ?_, Indexed.build_cases tables⟩
  · rw [← AnyTable.pairwise_distinct_iff]
    constructor
    · rintro ⟨db, made⟩
      rw [← make_eq_ok_iff.1 made]
      exact db.pairwise_distinct
    · intro distinct
      exact ⟨⟨tables, distinct⟩, make_eq_ok_iff.2 rfl⟩
  · intro e
    simp only [firstClash_iff]
    exact make_eq_error_iff
  · intro db made
    rw [← make_eq_ok_iff.1 made]
    exact ⟨db.registers, db.lists⟩

example : Database.make [⟨Shelf.book, Shelf.books⟩, ⟨Shelf.book, Shelf.books⟩] =
    .error (.duplicateTable "books") := by
  rfl

end Database

end PreparedSql
