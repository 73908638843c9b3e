import PreparedSql.Schema.Column
import PreparedSql.Schema.Distinct

/-!
# Tables

A table is a non-empty list of columns of one model, no two of which share a name or a field. Attributes
are looked up by the names of fields; a `Selection` is a list of columns drawn from the table.
-/

namespace PreparedSql

open Text

variable {M : Model}

def Column.Distinct (a b : Column M) : Prop :=
  a.name ≠ b.name ∧ a.field ≠ b.field

instance : DecidableRel (@Column.Distinct M) :=
  fun _ _ => inferInstanceAs (Decidable (_ ∧ _))

structure Table (M : Model) where
  name : Identifier
  columns : List (Column M)
  columns_ne_nil : columns ≠ []
  pairwise_distinct : columns.Pairwise Column.Distinct
  deriving DecidableEq

/-- Columns of a table, in any order and number. -/
structure Table.Selection (t : Table M) where
  columns : List (Column M)
  mem : ∀ c ∈ columns, c ∈ t.columns

namespace Table

/-- Validates a table: its name, then that it has columns, then that they are distinct. -/
def make (name : String) (columns : List (Column M)) : Except Error (Table M) :=
  match Identifier.ofString? name with
  | none => .error (.invalidIdentifier name)
  | some word =>
    if empty : columns = [] then .error (.emptyTable name)
    else
      match distinct : firstRepeat Column.Distinct [] columns with
      | some c => .error (.duplicateColumn c.name.text name)
      | none => .ok ⟨word, columns, empty, pairwise_of_firstRepeat _ distinct⟩

structure Builder (M : Model) where
  name : String
  columns : List (Column M) := []

namespace Builder

def column (b : Builder M) (c : Column M) : Builder M :=
  { b with columns := b.columns ++ [c] }

def build (b : Builder M) : Except Error (Table M) :=
  make b.name b.columns

end Builder

def quoted (t : Table M) : String :=
  t.name.quoted

def schema (t : Table M) : String :=
  "CREATE TABLE " ++ t.quoted ++ " (\n" ++
    ",\n".intercalate (t.columns.map fun c => "  " ++ c.schema) ++ "\n)"

def dropStatement (t : Table M) : String :=
  "DROP TABLE IF EXISTS " ++ t.quoted

def columnIndex (t : Table M) (name : String) : Except Error Nat :=
  match t.columns.findIdx? fun c => c.field.name == name with
  | some i => .ok i
  | none => .error (.attributeNotFound name t.name.text)

def column? (t : Table M) (name : String) : Option (Column M) :=
  t.columns.find? fun c => c.field.name == name

theorem mem_of_column? {t : Table M} {name : String} {c : Column M} (h : t.column? name = some c) :
    c ∈ t.columns :=
  List.mem_of_find?_eq_some h

def column (t : Table M) (name : String) : Except Error (Column M) :=
  match t.column? name with
  | some c => .ok c
  | none => .error (.attributeNotFound name t.name.text)

def all (t : Table M) : t.Selection :=
  ⟨t.columns, fun _ h => h⟩

/-- The columns of the attributes, in the order and number in which they are listed. -/
def lookup (t : Table M) : List String → Except Error t.Selection
  | [] => .ok ⟨[], by simp⟩
  | name :: rest =>
    match found : t.column? name with
    | none => .error (.attributeNotFound name t.name.text)
    | some c =>
      match t.lookup rest with
      | .error e => .error e
      | .ok s => .ok ⟨c :: s.columns, by simpa using ⟨mem_of_column? found, s.mem⟩⟩

/-- The columns of the attributes; an empty list means every column. -/
def only (t : Table M) (names : List String) : Except Error t.Selection :=
  if names = [] then .ok t.all else t.lookup names

def allBut (t : Table M) (names : List String) : Except Error t.Selection :=
  match t.lookup names with
  | .error e => .error e
  | .ok excluded =>
    .ok ⟨t.columns.filter fun c => c ∉ excluded.columns, fun _ h => (List.mem_filter.1 h).1⟩

def inspect (t : Table M) : String :=
  Inspect.record "Table" [
    ("name", Inspect.quoted t.name.text),
    ("columns", Inspect.list (t.columns.map fun c => Inspect.quoted c.name.text))]

end Table

end PreparedSql
