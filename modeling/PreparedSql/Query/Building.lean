import PreparedSql.Query.Basic

/-!
# The queries of a table

A table starts every query on it. Lists of attributes are checked here, so a query holds only columns of its
table.
-/

namespace PreparedSql

variable {M : Model}

namespace Table

def select (t : Table M) : Query M :=
  .select t t.all

/-- Selects the listed attributes, or every column for an empty list. -/
def selectOnly (t : Table M) (names : List String) : Except Error (Query M) :=
  match t.only names with
  | .ok s => .ok (.select t s)
  | .error e => .error e

def insert (t : Table M) : Query M :=
  .insert t t.all none

def insertOnly (t : Table M) (names : List String) : Except Error (Query M) :=
  match t.only names with
  | .ok s => .ok (.insert t s none)
  | .error e => .error e

def insertAllBut (t : Table M) (names : List String) : Except Error (Query M) :=
  match t.allBut names with
  | .ok s => .ok (.insert t s none)
  | .error e => .error e

def update (t : Table M) : Query M :=
  .update t

def delete (t : Table M) : Query M :=
  .delete t

end Table

/-- Gives a bare insert the record whose fields it inserts. -/
def Query.values (q : Query M) (r : Record M) : Query M :=
  match q with
  | .insert t s _ => .insert t s (some r)
  | q => q

end PreparedSql
