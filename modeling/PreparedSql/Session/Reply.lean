import PreparedSql.Slot.Output

/-!
# Replies of a server

What the server answers to one execution: rows or counts, and the error that comes after the rows or in their
place. Such an error may come earlier, in place of everything, when the statement has to be prepared first.
-/

namespace PreparedSql

structure Answer where
  rows : List Row := []
  affected : Nat := 0
  lastId : Nat := 0

/-- An answer with the error at its end, which waits for the execution unless the reply `refusesPreparing`. -/
structure Reply where
  answer : Answer := {}
  ending : Option ServerError := none
  refusesPreparing : Bool := false

def Reply.refusal (r : Reply) : Option ServerError :=
  if r.refusesPreparing then r.ending else none

end PreparedSql
