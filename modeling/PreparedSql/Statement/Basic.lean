import PreparedSql.Query.Binding
import PreparedSql.Query.Building
import PreparedSql.Query.Rows
import PreparedSql.Session.Basic

/-!
# Statements

A statement is a query rendered once, with its slots. It is refused when its text holds another number of
placeholders than the query claims slots.
-/

namespace PreparedSql

open Text

variable {M : Model}

structure Statement (M : Model) where
  query : Query M
  sql : String
  inputs : Inputs
  outputs : Outputs
  persistent : Bool := true

namespace Statement

def ofQuery (ρ : Valuation) (q : Query M) : Except Error (Statement M) :=
  match q.render with
  | .error e => .error e
  | .ok sql =>
    if placeholderCount sql = q.inputCount then
      .ok {
        query := q
        sql
        inputs := q.bind ρ 0 (Inputs.unbound q.inputCount)
        outputs := q.declareOutputs (Outputs.empty q.outputCount) }
    else .error (.slotMismatch (placeholderCount sql) q.inputCount)

def prepare (ρ : Valuation) (q : Query M) (σ : Session) : Except Error (Statement M) × Session :=
  match ofQuery ρ q with
  | .error e => (.error e, σ)
  | .ok s => (.ok s, σ.log (.prepared s.sql s.inputs.length s.outputs.length))

def setPersistent (s : Statement M) (persistent : Bool) : Statement M :=
  { s with persistent }

def rebind (ρ : Valuation) (s : Statement M) : Statement M :=
  { s with inputs := s.query.rebind ρ 0 s.inputs }

/-- Writes a record into the slots of an insert; only a bare insert takes one. -/
def bindRecord (s : Statement M) (r : Record M) : Statement M :=
  match s.query with
  | .insert _ selection _ => { s with inputs := Column.bindAll r selection.columns 0 s.inputs }
  | _ => s

def values (s : Statement M) : List Value :=
  s.inputs.slots.map InputSlot.value

end Statement

end PreparedSql
