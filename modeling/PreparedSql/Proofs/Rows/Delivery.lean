import PreparedSql.Proofs.Rows.Records
import PreparedSql.Proofs.Use.Traffic

/-!
# What a server delivers

An execution is answered with rows that arrive one by one, up to the end or to an error. Main
statement: what an execution delivers is decided by its parameters, by an error that the last answer
left unread, and otherwise by the next reply (`Session.delivery_run`).
-/

namespace PreparedSql

open Calendar

variable {M : Model}

/-- Rows in order, and the error after them. -/
structure Delivery where
  rows : List Row
  ending : Option Error

def ServerError.reported (e : ServerError) : Error :=
  .database (.server e)

namespace Delivery

def failure (e : Error) : Delivery :=
  ⟨[], some e⟩

def of (result : Except Error Answer) (unread : Option ServerError) : Delivery :=
  match result with
  | .error e => failure e
  | .ok answer => ⟨answer.rows, unread.map ServerError.reported⟩

/-- The record of each row in order, if every row has one and nothing went wrong after them. -/
def records (columns : List (Column M)) (d : Delivery) : Except Error (List (Record M)) :=
  match d.rows.mapM (Row.record columns) with
  | .error e => .error e
  | .ok records =>
    match d.ending with
    | some e => .error e
    | none => .ok records

def first (columns : List (Column M)) (d : Delivery) : Except Error (Option (Record M)) :=
  match d.rows, d.ending with
  | row :: _, _ => (row.record columns).map some
  | [], some e => .error e
  | [], none => .ok none

def only (columns : List (Column M)) (d : Delivery) : Except Error (Record M) :=
  match d.first columns with
  | .error e => .error e
  | .ok none => .error (.database .rowNotFound)
  | .ok (some r) => .ok r

theorem only_of_head {columns : List (Column M)} {d : Delivery} {row : Row}
    (delivered : d.rows.head? = some row) : d.only columns = row.record columns := by
  obtain ⟨rest, rows⟩ := List.head?_eq_some_iff.1 delivered
  rw [only, first, rows]
  dsimp only
  cases row.record columns <;> rfl

end Delivery

/-- What a reply delivers: its rows, if the statement is `kept` prepared or the reply does not refuse
to prepare it, and its error. -/
def Reply.delivery (kept : Bool) (r : Reply) : Delivery :=
  ⟨if kept ∨ r.refusal = none then r.answer.rows else [], r.ending.map ServerError.reported⟩

theorem Reply.ending_of_refusal {r : Reply} {e : ServerError} (refused : r.refusal = some e) :
    r.ending = some e := by
  unfold refusal at refused
  split at refused
  · exact refused
  · cases refused

theorem Reply.delivery_of_refusal {r : Reply} {e : ServerError} (refused : r.refusal = some e) :
    r.delivery false = .failure e.reported := by
  simp [delivery, refused, ending_of_refusal refused, Delivery.failure]

namespace Session

/-- What an execution of the statement delivers. -/
def delivery (sql : String) (persistent : Bool) (parameters : List (Datum DateTime)) (σ : Session) :
    Delivery :=
  match firstUnsendable parameters with
  | some (position, date) => .failure (.database (.encode position date))
  | none =>
    match σ.unread with
    | some e => .failure e.reported
    | none => σ.nextReply.1.delivery (persistent && (σ.prepared.lookup sql).isSome)

theorem delivery_log (sql : String) (persistent : Bool) (parameters : List (Datum DateTime)) (e : Event)
    (σ : Session) : (σ.log e).delivery sql persistent parameters = σ.delivery sql persistent parameters := by
  have next : (σ.log e).nextReply.1 = σ.nextReply.1 := nextReply_congr rfl
  unfold delivery
  rw [next]
  rfl

theorem replies_keep (sql : String) (id : Nat) (σ : Session) : (σ.keep sql id).replies = σ.replies := by
  rw [keep_eq]

theorem delivery_execute (id : Nat) (parameters : List (Datum DateTime)) {σ after : Session}
    (left : after.replies = σ.replies) {kept : Bool} (prepared : kept ∨ σ.nextReply.1.refusal = none) :
    Delivery.of (.ok (after.execute id parameters).1) (after.execute id parameters).2.unread =
      σ.nextReply.1.delivery kept := by
  have next : (after.send (.execute id parameters)).nextReply.1 = σ.nextReply.1 := nextReply_congr left
  rw [Reply.delivery, if_pos prepared, ← next]
  rfl

/-- A statement that stays prepared delivers the next reply, whether it has to be prepared first or
not. -/
theorem delivery_runPersistent (sql : String) (parameters : List (Datum DateTime)) (σ : Session) :
    Delivery.of ((σ.runPersistent sql parameters).1.mapError ServerError.reported)
      (σ.runPersistent sql parameters).2.unread =
        σ.nextReply.1.delivery (σ.prepared.lookup sql).isSome := by
  unfold runPersistent
  cases found : σ.prepared.lookup sql with
  | some id => exact delivery_execute id parameters (replies_keep sql id σ) (.inl rfl)
  | none =>
    rcases σ.prepare_cases sql with ⟨e, refusal, prepared⟩ | ⟨refusal, prepared⟩
    · rw [prepared]
      exact (Reply.delivery_of_refusal refusal).symm
    · rw [prepared]
      refine delivery_execute _ parameters ?_ (.inr refusal)
      exact replies_keep sql _ _

theorem delivery_runOnce (sql : String) (parameters : List (Datum DateTime)) (σ : Session) :
    Delivery.of ((σ.runOnce sql parameters).1.mapError ServerError.reported)
      (σ.runOnce sql parameters).2.unread = σ.nextReply.1.delivery false := by
  unfold runOnce
  rcases σ.prepare_cases sql with ⟨e, refusal, prepared⟩ | ⟨refusal, prepared⟩
  · rw [prepared]
    exact (Reply.delivery_of_refusal refusal).symm
  · rw [prepared]
    refine delivery_execute _ parameters ?_ (.inr refusal)
    rfl

/-- A result and what it left unread are what the execution was to deliver. -/
theorem delivery_run (sql : String) (persistent : Bool) (parameters : List (Datum DateTime))
    (σ : Session) :
    Delivery.of (σ.run sql persistent parameters).1 (σ.run sql persistent parameters).2.unread =
      σ.delivery sql persistent parameters := by
  rcases σ.run_cases sql persistent parameters with
    ⟨position, date, unsendable, given⟩ | ⟨sendable, e, unread, given⟩ | ⟨sendable, unread, result, after, ran, given⟩
  · rw [given, delivery, unsendable]
    rfl
  · rw [given, delivery, sendable, unread]
    rfl
  · have answered : Delivery.of (result.mapError ServerError.reported) after.unread =
        σ.nextReply.1.delivery (persistent && (σ.prepared.lookup sql).isSome) := by
      cases persistent with
      | true =>
        have delivered := delivery_runPersistent sql parameters σ
        rwa [show σ.runPersistent sql parameters = (result, after) from ran] at delivered
      | false =>
        have delivered := delivery_runOnce sql parameters σ
        rwa [show σ.runOnce sql parameters = (result, after) from ran] at delivered
    rw [given, delivery, sendable, unread]
    exact answered

end Session

end PreparedSql
