import PreparedSql.Session.Reply
import PreparedSql.Slot.Input

/-!
# Sessions

A session is one connection to a server whose replies are given in advance: what it has prepared, what it
has sent, and what it has logged. Each execution uses the next reply. An answer need not be read to its end;
the error that waits there then meets the next statement, which is not sent.
-/

namespace PreparedSql

open Calendar

/-- What the server receives; `prepare` carries the id that it gave out, if it accepted. -/
inductive Traffic where
  | prepare (sql : String) (id : Option Nat)
  | execute (id : Nat) (parameters : List (Datum DateTime))
  | close (id : Nat)

inductive Event where
  | prepared (sql : String) (inputs outputs : Nat)
  | executing (sql : String) (values : List Value)
  | rowsFetched (sql : String) (count : Nat)
  | executingRaw (sql : String)

/-- `unread` is the error at the end of the last answer as long as nobody has read so far; `prepared` holds
the statements that are kept, the last used first. -/
structure Session where
  replies : List Reply := []
  unread : Option ServerError := none
  prepared : List (String × Nat) := []
  preparedCount : Nat := 0
  traffic : List Traffic := []
  events : List Event := []

namespace Session

def log (e : Event) (σ : Session) : Session :=
  { σ with events := σ.events ++ [e] }

def send (t : Traffic) (σ : Session) : Session :=
  { σ with traffic := σ.traffic ++ [t] }

def expect (replies : List Reply) (σ : Session) : Session :=
  { σ with replies }

/-- Prepares a statement: its id, or the error that the next reply holds for this moment. -/
def prepare (sql : String) (σ : Session) : Except ServerError Nat × Session :=
  match σ.replies.head?.bind Reply.refusal with
  | some e => (.error e, { σ with replies := σ.replies.tail }.send (.prepare sql none))
  | none =>
    let id := σ.preparedCount + 1
    (.ok id, { σ with preparedCount := id }.send (.prepare sql (some id)))

/-- The next reply, used up; without one the statement is done and changed nothing. -/
def nextReply (σ : Session) : Reply × Session :=
  match σ.replies with
  | [] => ({}, σ)
  | r :: rest => (r, { σ with replies := rest })

/-- Reads the last answer to its end: the error that was waiting there, if any. -/
def finish (σ : Session) : Except Error Unit × Session :=
  match σ.unread with
  | none => (.ok (), σ)
  | some e => (.error (.database (.server e)), { σ with unread := none })

def execute (id : Nat) (parameters : List (Datum DateTime)) (σ : Session) : Answer × Session :=
  let (reply, σ) := (σ.send (.execute id parameters)).nextReply
  (reply.answer, { σ with unread := reply.ending })

def capacity : Nat := 100

/-- Keeps a prepared statement as the last used one; the server closes what no longer finds room. -/
def keep (sql : String) (id : Nat) (σ : Session) : Session :=
  let others := σ.prepared.filter fun (text, _) => text ≠ sql
  let kept := { σ with prepared := (sql, id) :: others.take (capacity - 1) }
  (others.drop (capacity - 1)).foldl (fun σ (_, oldest) => σ.send (.close oldest)) kept

def runPersistent (sql : String) (parameters : List (Datum DateTime)) (σ : Session) :
    Except ServerError Answer × Session :=
  match σ.prepared.lookup sql with
  | some id =>
    let (answer, σ) := (σ.keep sql id).execute id parameters
    (.ok answer, σ)
  | none =>
    match σ.prepare sql with
    | (.error e, σ) => (.error e, σ)
    | (.ok id, σ) =>
      let (answer, σ) := (σ.keep sql id).execute id parameters
      (.ok answer, σ)

def runOnce (sql : String) (parameters : List (Datum DateTime)) (σ : Session) :
    Except ServerError Answer × Session :=
  match σ.prepare sql with
  | (.error e, σ) => (.error e, σ)
  | (.ok id, σ) =>
    let (answer, σ) := σ.execute id parameters
    (.ok answer, σ.send (.close id))

/-- Runs a statement, unless the client cannot encode a date among its parameters or the last answer still
has an error to report. -/
def run (sql : String) (persistent : Bool) (parameters : List (Datum DateTime)) (σ : Session) :
    Except Error Answer × Session :=
  match firstUnsendable parameters with
  | some (position, date) => (.error (.database (.encode position date)), σ)
  | none =>
    match σ.finish with
    | (.error e, σ) => (.error e, σ)
    | (.ok (), σ) =>
      match if persistent then σ.runPersistent sql parameters else σ.runOnce sql parameters with
      | (.error e, σ) => (.error (.database (.server e)), σ)
      | (.ok answer, σ) => (.ok answer, σ)

/-- The first row of an answer, whatever follows it; an answer without rows is read to its end. -/
def firstRow (answer : Answer) (σ : Session) : Except Error (Option Row) × Session :=
  match answer.rows with
  | row :: _ => (.ok (some row), σ)
  | [] =>
    match σ.finish with
    | (.error e, σ) => (.error e, σ)
    | (.ok (), σ) => (.ok none, σ)

def queryRow (sql : String) (σ : Session) : Except Error Row × Session :=
  match σ.run sql true [] with
  | (.error e, σ) => (.error e, σ)
  | (.ok answer, σ) =>
    match σ.firstRow answer with
    | (.error e, σ) => (.error e, σ)
    | (.ok none, σ) => (.error (.database .rowNotFound), σ)
    | (.ok (some row), σ) => (.ok row, σ)

def runRaw (sql : String) (σ : Session) : Except Error Unit × Session :=
  match (σ.log (.executingRaw sql)).run sql false [] with
  | (.error e, σ) => (.error e, σ)
  | (.ok _, σ) => σ.finish

def runAll : List String → Session → Except Error Unit × Session
  | [], σ => (.ok (), σ)
  | sql :: rest, σ =>
    match σ.runRaw sql with
    | (.error e, σ) => (.error e, σ)
    | (.ok (), σ) => σ.runAll rest

end Session

end PreparedSql
