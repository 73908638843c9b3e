import PreparedSql.Statement.Basic

/-!
# Executing statements

Every execution reads the variables again, logs the values, and sends the parameters if all slots are bound to
real values. What is not sent leaves no trace but the log.
-/

namespace PreparedSql

variable {M : Model}

structure Outcome (M : Model) (α : Type) where
  result : Except Error α
  statement : Statement M
  session : Session

namespace Statement

def submit (ρ : Valuation) (s : Statement M) (σ : Session) : Outcome M Answer :=
  let s := s.rebind ρ
  let σ := σ.log (.executing s.sql s.values)
  match s.inputs.parameters with
  | .error e => ⟨.error e, s, σ⟩
  | .ok parameters =>
    let (result, σ) := σ.run s.sql s.persistent parameters
    ⟨result, s, σ⟩

/-- A record for each row. A row that cannot be read leaves the rest of the answer unread. -/
def fetchAll (ρ : Valuation) (s : Statement M) (σ : Session) : Outcome M (List (Record M)) :=
  match s.submit ρ σ with
  | ⟨.error e, s, σ⟩ => ⟨.error e, s, σ⟩
  | ⟨.ok answer, s, σ⟩ =>
    match s.query.readRows s.outputs answer.rows with
    | (outputs, .error e) => ⟨.error e, { s with outputs }, σ⟩
    | (outputs, .ok records) =>
      match σ.finish with
      | (.error e, σ) => ⟨.error e, { s with outputs }, σ⟩
      | (.ok (), σ) => ⟨.ok records, { s with outputs }, σ.log (.rowsFetched s.sql records.length)⟩

/-- The record of the first row, if there is one. What follows that row is not read. -/
def fetchOptional (ρ : Valuation) (s : Statement M) (σ : Session) : Outcome M (Option (Record M)) :=
  match s.submit ρ σ with
  | ⟨.error e, s, σ⟩ => ⟨.error e, s, σ⟩
  | ⟨.ok answer, s, σ⟩ =>
    match σ.firstRow answer with
    | (.error e, σ) => ⟨.error e, s, σ⟩
    | (.ok none, σ) => ⟨.ok none, s, σ⟩
    | (.ok (some row), σ) =>
      let (outputs, result) := s.query.readRow s.outputs row
      ⟨result.map some, { s with outputs }, σ⟩

def fetchOne (ρ : Valuation) (s : Statement M) (σ : Session) : Outcome M (Record M) :=
  match s.fetchOptional ρ σ with
  | ⟨.error e, s, σ⟩ => ⟨.error e, s, σ⟩
  | ⟨.ok none, s, σ⟩ => ⟨.error (.database .rowNotFound), s, σ⟩
  | ⟨.ok (some r), s, σ⟩ => ⟨.ok r, s, σ⟩

/-- The generated id of an insert, the number of changed rows of any other statement. -/
def execute (ρ : Valuation) (s : Statement M) (σ : Session) : Outcome M Nat :=
  match s.submit ρ σ with
  | ⟨.error e, s, σ⟩ => ⟨.error e, s, σ⟩
  | ⟨.ok answer, s, σ⟩ =>
    match σ.finish with
    | (.error e, σ) => ⟨.error e, s, σ⟩
    | (.ok (), σ) => ⟨.ok (if s.query.answersWithId then answer.lastId else answer.affected), s, σ⟩

end Statement

end PreparedSql
