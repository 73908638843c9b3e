import PreparedSql.Query.Basic

/-!
# Reading rows

A select declares one output slot for each of its columns and moves a stored row into a record. A SET
clause returns no rows, so it hides the slots of what it continues.
-/

namespace PreparedSql

variable {M : Model}

def Column.declareAll : List (Column M) → Nat → Outputs → Outputs
  | [], _, b => b
  | c :: rest, index, b => declareAll rest (index + 1) (c.bindOutput b index)

/-- Moves the stored slots into a record, up to the first column that refuses its slot. -/
def Column.finalizeAll (b : Outputs) :
    List (Column M) → Nat → Record M → Record M × Except Error Unit
  | [], _, r => (r, .ok ())
  | c :: rest, index, r =>
    match b.slot? index with
    | none => (r, .error (.unboundSlot index))
    | some slot =>
      match c.finalize r slot with
      | (r, .ok ()) => finalizeAll b rest (index + 1) r
      | (r, .error e) => (r, .error e)

namespace Query

def outputColumns : Query M → List (Column M)
  | select _ s => s.columns
  | insert .. | update _ | delete _ | assigned .. => []
  | filtered q _ | limited q _ => q.outputColumns

def outputCount (q : Query M) : Nat :=
  q.outputColumns.length

def declareOutputs (q : Query M) (b : Outputs) : Outputs :=
  Column.declareAll q.outputColumns 0 b

def finalizeRow (q : Query M) (b : Outputs) (r : Record M) : Record M × Except Error Unit :=
  Column.finalizeAll b q.outputColumns 0 r

/-- Reads one row into a fresh record: the slots afterwards, and the record. -/
def readRow (q : Query M) (b : Outputs) (row : Row) : Outputs × Except Error (Record M) :=
  match b.fetch row with
  | (b, .error e) => (b, .error e)
  | (b, .ok ()) =>
    match q.finalizeRow b Record.default with
    | (_, .error e) => (b, .error e)
    | (r, .ok ()) => (b, .ok r)

def readRows (q : Query M) : Outputs → List Row → Outputs × Except Error (List (Record M))
  | b, [] => (b, .ok [])
  | b, row :: rest =>
    match q.readRow b row with
    | (b, .error e) => (b, .error e)
    | (b, .ok r) =>
      match q.readRows b rest with
      | (b, .error e) => (b, .error e)
      | (b, .ok rs) => (b, .ok (r :: rs))

/-- An insert answers with the generated id, any other statement with the number of changed rows. -/
def answersWithId : Query M → Bool
  | insert .. => true
  | select .. | update _ | delete _ => false
  | filtered q _ | assigned q _ | limited q _ => q.answersWithId

end Query

end PreparedSql
