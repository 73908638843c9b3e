import PreparedSql.Expr.Assignment
import PreparedSql.Expr.Condition

/-!
# Queries

A query is a statement over one table, continued by clauses. Each clause writes its text after the query that
it continues and takes its slots after that query's slots.
-/

namespace PreparedSql

variable {M : Model}

abbrev CountVariable := Variable (.required .bigIntUnsigned)

inductive RowLimit where
  | fixed (count : UInt64)
  | var (v : CountVariable)

def RowLimit.count (ρ : Valuation) : RowLimit → UInt64
  | fixed count => count
  | var v => ρ.get _ v

def RowLimit.value (ρ : Valuation) (l : RowLimit) : Value :=
  .of .bigIntUnsigned (l.count ρ)

inductive Query (M : Model) where
  | select (table : Table M) (selection : table.Selection)
  | insert (table : Table M) (selection : table.Selection) (record : Option (Record M))
  | update (table : Table M)
  | delete (table : Table M)
  | filtered (query : Query M) (condition : Condition M)
  | assigned (query : Query M) (assignment : Assignment M)
  | limited (query : Query M) (limit : RowLimit)

def Column.quotedList (columns : List (Column M)) : String :=
  ", ".intercalate (columns.map Column.quoted)

def Column.placeholders (columns : List (Column M)) : String :=
  ", ".intercalate (columns.map fun _ => "?")

namespace Query

def table : Query M → Table M
  | select t _ | insert t _ _ | update t | delete t => t
  | filtered q _ | assigned q _ | limited q _ => q.table

def render : Query M → Except Error String
  | select t s => .ok ("SELECT " ++ Column.quotedList s.columns ++ " FROM " ++ t.quoted)
  | insert t s _ =>
    .ok ("INSERT INTO " ++ t.quoted ++ " (" ++ Column.quotedList s.columns ++ ") VALUES (" ++
      Column.placeholders s.columns ++ ")")
  | update t => .ok ("UPDATE " ++ t.quoted)
  | delete t => .ok ("DELETE FROM " ++ t.quoted)
  | filtered q c =>
    match q.render with
    | .error e => .error e
    | .ok sql =>
      match c.render q.table with
      | .error e => .error e
      | .ok condition => .ok (sql ++ " WHERE " ++ condition)
  | assigned q a =>
    match q.render with
    | .error e => .error e
    | .ok sql =>
      match a.render q.table with
      | .error e => .error e
      | .ok assignment => .ok (sql ++ " SET " ++ assignment)
  | limited q _ =>
    match q.render with
    | .error e => .error e
    | .ok sql => .ok (sql ++ " LIMIT ?")

def inputCount : Query M → Nat
  | select .. | update _ | delete _ => 0
  | insert _ s _ => s.columns.length
  | filtered q c => q.inputCount + c.slotCount
  | assigned q a => q.inputCount + a.slotCount
  | limited q _ => q.inputCount + 1

end Query

end PreparedSql
