import PreparedSql.Proofs.Rows.Delivery
import PreparedSql.Proofs.Schema.Registry
import PreparedSql.Session.Schema

/-!
# Changing a schema

The statements of a change run one after the other, and each gets an answer before the next is sent.
Main statement: they run up to the first that fails, whose error is the result, so nothing is created
in the place of a table that was not dropped (`Database.changes_stop`).
-/

namespace PreparedSql

/-- What one statement without parameters puts on the wire; refused while it is prepared, it gets no
further. -/
def Reply.exchange (r : Reply) (sql : String) (id : Nat) : List Traffic :=
  if r.refusal.isSome then [.prepare sql none]
  else [.prepare sql (some id), .execute id [], .close id]

namespace Session

/-- The reply so many places ahead; behind the last one the server is done and changed nothing. -/
def replyAt (σ : Session) (i : Nat) : Reply :=
  σ.replies.getD i {}

/-- The error that answers the statement at place `i` of a run. What waits on the connection from an
answer before answers the first statement, in place of the server. -/
def failure (σ : Session) (i : Nat) : Option ServerError :=
  match σ.unread, i with
  | none, i => (σ.replyAt i).ending
  | some e, 0 => some e
  | some _, i + 1 => (σ.replyAt i).ending

theorem failure_of_free {σ : Session} (free : σ.unread = none) (i : Nat) :
    σ.failure i = (σ.replyAt i).ending := by
  simp [failure, free]

def verdict : Option ServerError → Except Error Unit
  | none => .ok ()
  | some e => .error e.reported

theorem runOnce_eq (sql : String) (σ : Session) :
    σ.runOnce sql [] =
      match (σ.replyAt 0).refusal with
      | some e =>
        (.error e, { σ with
          replies := σ.replies.tail
          traffic := σ.traffic ++ [.prepare sql none] })
      | none =>
        (.ok (σ.replyAt 0).answer, { σ with
          replies := σ.replies.tail
          unread := (σ.replyAt 0).ending
          preparedCount := σ.preparedCount + 1
          traffic := σ.traffic ++
            [.prepare sql (some (σ.preparedCount + 1)), .execute (σ.preparedCount + 1) [],
              .close (σ.preparedCount + 1)] }) := by
  unfold runOnce prepare execute nextReply replyAt send
  cases σ.replies with
  | nil => simp [Reply.refusal]
  | cons r rest => cases refused : r.refusal <;> simp [refused]

def answered (sql : String) (σ : Session) : Session :=
  { σ with
    replies := σ.replies.tail
    preparedCount := if (σ.replyAt 0).refusal.isSome then σ.preparedCount else σ.preparedCount + 1
    traffic := σ.traffic ++ (σ.replyAt 0).exchange sql (σ.preparedCount + 1)
    events := σ.events ++ [.executingRaw sql] }

theorem runRaw_of_free (sql : String) {σ : Session} (free : σ.unread = none) :
    σ.runRaw sql = (verdict (σ.failure 0), σ.answered sql) := by
  have finished : (σ.log (.executingRaw sql)).finish = (.ok (), σ.log (.executingRaw sql)) := by
    rw [finish, show (σ.log (.executingRaw sql)).unread = none from free]
  have next : (σ.log (.executingRaw sql)).replyAt 0 = σ.replyAt 0 := rfl
  have sent : firstUnsendable [] = none := rfl
  rw [runRaw, run, sent, finished, failure_of_free free]
  simp only [Bool.false_eq_true, if_false, runOnce_eq, next, answered, Reply.exchange]
  cases refused : (σ.replyAt 0).refusal with
  | some e => simp [verdict, Reply.ending_of_refusal refused, log, free, ServerError.reported]
  | none => cases (σ.replyAt 0).ending <;> simp [verdict, finish, log, free, ServerError.reported]

/-- A statement that an error waits for is not sent. -/
theorem runRaw_of_waiting (sql : String) {σ : Session} {e : ServerError} (waiting : σ.unread = some e) :
    σ.runRaw sql = (.error e.reported, { σ.log (.executingRaw sql) with unread := none }) := by
  have sent : firstUnsendable [] = none := rfl
  rw [runRaw, run, sent, finish, show (σ.log (.executingRaw sql)).unread = some e from waiting]
  rfl

theorem replyAt_answered (sql : String) (σ : Session) (i : Nat) :
    (σ.answered sql).replyAt i = σ.replyAt (i + 1) := by
  unfold replyAt answered
  cases σ.replies <;> rfl

theorem failure_answered (sql : String) {σ : Session} (free : σ.unread = none) (i : Nat) :
    (σ.answered sql).failure i = σ.failure (i + 1) := by
  have still : (σ.answered sql).unread = none := free
  rw [failure_of_free still, failure_of_free free, replyAt_answered]

/-- A run gets to the last of these statements: all before it are answered with success. -/
def Reaches (σ : Session) (statements : List String) : Prop :=
  ∀ i, i + 1 < statements.length → σ.failure i = none

/-- How a run ends of which `sent` was handed to the connection. What is handed to it goes over the wire,
each statement under an id of its own, unless an error waits there, which answers the first statement
before it is sent. -/
structure Stops (σ : Session) (statements sent : List String) (result : Except Error Unit)
    (after : Session) : Prop where
  begins : sent <+: statements
  reaches : σ.Reaches sent
  longest : ∀ more, more <+: statements → σ.Reaches more → more <+: sent
  ok : result = .ok () ↔ sent = statements ∧ ∀ i < sent.length, σ.failure i = none
  error : ∀ e, result = .error e ↔
    ∃ last, sent.length = last + 1 ∧ ∃ failed, σ.failure last = some failed ∧ e = failed.reported
  events : after.events = σ.events ++ sent.map .executingRaw
  traffic : σ.unread = none → after.traffic = σ.traffic ++
    (sent.mapIdx fun i sql => (σ.replyAt i).exchange sql (σ.preparedCount + i + 1)).flatten
  waiting : ∀ e, σ.unread = some e → after.traffic = σ.traffic

theorem stops_nil (σ : Session) : σ.Stops [] [] (.ok ()) σ where
  begins := List.nil_prefix
  reaches := by simp [Reaches]
  longest more inside _ := inside
  ok := by simp
  error := by simp
  events := by simp
  traffic := by simp
  waiting _ _ := rfl

/-- A run is over with the first statement that fails. -/
theorem stops_of_failure {σ after : Session} {sql : String} {e : ServerError}
    (failed : σ.failure 0 = some e) (events : after.events = σ.events ++ [.executingRaw sql])
    (traffic : σ.unread = none →
      after.traffic = σ.traffic ++ (σ.replyAt 0).exchange sql (σ.preparedCount + 1))
    (waiting : ∀ e, σ.unread = some e → after.traffic = σ.traffic) (rest : List String) :
    σ.Stops (sql :: rest) [sql] (.error e.reported) after where
  begins := by simp
  reaches := by simp [Reaches]
  longest more inside reaches := by
    cases more with
    | nil => exact List.nil_prefix
    | cons first others =>
      obtain ⟨rfl, _⟩ := List.cons_prefix_cons.1 inside
      cases others with
      | nil => exact List.prefix_refl _
      | cons second others =>
        have succeeded := reaches 0 (by simp)
        rw [failed] at succeeded
        cases succeeded
  ok := by simp [failed]
  error := by simp [failed, eq_comm]
  events := events
  traffic free := by simpa using traffic free
  waiting := waiting

theorem answered_of_success (sql : String) {σ : Session} (free : σ.unread = none)
    (succeeded : σ.failure 0 = none) :
    (σ.answered sql).preparedCount = σ.preparedCount + 1 := by
  have accepted : (σ.replyAt 0).refusal = none := by
    rw [failure_of_free free] at succeeded
    simp [Reply.refusal, succeeded]
  simp [answered, accepted]

/-- After a statement that succeeds, the rest of the run is a run of its own. -/
theorem Stops.cons {σ after : Session} {sql : String} {rest sent : List String}
    {result : Except Error Unit} (free : σ.unread = none) (succeeded : σ.failure 0 = none)
    (later : (σ.answered sql).Stops rest sent result after) :
    σ.Stops (sql :: rest) (sql :: sent) result after where
  begins := List.cons_prefix_cons.2 ⟨rfl, later.begins⟩
  reaches i inside := by
    cases i with
    | zero => exact succeeded
    | succ i =>
      rw [← failure_answered sql free]
      exact later.reaches i (Nat.lt_of_succ_lt_succ inside)
  longest more inside reaches := by
    cases more with
    | nil => exact List.nil_prefix
    | cons first others =>
      obtain ⟨rfl, tail⟩ := List.cons_prefix_cons.1 inside
      refine List.cons_prefix_cons.2 ⟨rfl, later.longest others tail fun i bound => ?_⟩
      rw [failure_answered first free]
      exact reaches (i + 1) (Nat.succ_lt_succ bound)
  ok := by
    rw [later.ok]
    simp only [failure_answered sql free, List.cons.injEq, true_and, List.length_cons]
    refine and_congr_right fun _ => ⟨fun all i bound => ?_, fun all i bound => all (i + 1) (by omega)⟩
    cases i with
    | zero => exact succeeded
    | succ i => exact all i (Nat.lt_of_succ_lt_succ bound)
  error e := by
    rw [later.error]
    simp only [failure_answered sql free, List.length_cons]
    constructor
    · rintro ⟨last, count, failed⟩
      exact ⟨last + 1, by rw [count], failed⟩
    · rintro ⟨last, count, failed, fails, same⟩
      cases last with
      | zero =>
        rw [succeeded] at fails
        cases fails
      | succ last => exact ⟨last, Nat.succ.inj count, failed, fails, same⟩
  events := by simp [later.events, answered]
  traffic _ := by
    have first : (σ.answered sql).traffic =
        σ.traffic ++ (σ.replyAt 0).exchange sql (σ.preparedCount + 1) := rfl
    have place (i : Nat) : σ.preparedCount + 1 + i + 1 = σ.preparedCount + (i + 1) + 1 := by omega
    rw [later.traffic free, first, answered_of_success sql free succeeded]
    simp [replyAt_answered, place]
  waiting e waits := by
    rw [free] at waits
    cases waits

theorem runAll_singleton (sql : String) (σ : Session) : σ.runAll [sql] = σ.runRaw sql := by
  rw [runAll]
  rcases σ.runRaw sql with ⟨_ | _, after⟩ <;> rfl

/-- Statements are run up to the first that fails. -/
theorem runAll_stops (statements : List String) (σ : Session) :
    ∃ sent, σ.Stops statements sent (σ.runAll statements).1 (σ.runAll statements).2 := by
  induction statements generalizing σ with
  | nil => exact ⟨[], stops_nil σ⟩
  | cons sql rest ih =>
    cases unread : σ.unread with
    | some e =>
      have failed : σ.failure 0 = some e := by simp [failure, unread]
      rw [runAll, runRaw_of_waiting sql unread]
      refine ⟨[sql], stops_of_failure failed ?_ ?_ ?_ rest⟩
      · rfl
      · simp [unread]
      · exact fun _ _ => rfl
    | none =>
      rw [runAll, runRaw_of_free sql unread]
      cases failed : σ.failure 0 with
      | some e =>
        refine ⟨[sql], stops_of_failure failed ?_ ?_ ?_ rest⟩
        · rfl
        · exact fun _ => rfl
        · simp [unread]
      | none =>
        obtain ⟨sent, later⟩ := ih (σ.answered sql)
        exact ⟨sql :: sent, later.cons unread failed⟩

def Succeeds (σ : Session) (sent : List String) (sql : String) : Prop :=
  ∃ i : Nat, sent[i]? = some sql ∧ σ.failure i = none

/-- Of what a run handed over, all before a statement succeeded. -/
theorem Stops.succeeds {σ after : Session} {statements sent : List String} {result : Except Error Unit}
    (stops : σ.Stops statements sent result after) {i j : Nat} {sql : String} (bound : j < sent.length)
    (before : i < j) (there : statements[i]? = some sql) : σ.Succeeds sent sql := by
  refine ⟨i, ?_, stops.reaches i (by omega)⟩
  rw [← there]
  exact (List.prefix_iff_getElem?.1 stops.begins i (by omega)) ▸ (List.getElem?_eq_getElem (by omega))

end Session

inductive SchemaChange where
  | create
  | drop
  | recreate
  deriving DecidableEq

namespace SchemaChange

def statements (db : Database) : SchemaChange → List String
  | create => db.createStatements
  | drop => db.dropStatements
  | recreate => db.recreateStatements

def run (db : Database) (σ : Session) : SchemaChange → Except Error Unit × Session
  | create => db.create σ
  | drop => db.drop σ
  | recreate => db.recreate σ

def runTable {M : Model} (t : Table M) (σ : Session) : SchemaChange → Except Error Unit × Session
  | create => t.create σ
  | drop => t.drop σ
  | recreate => t.recreate σ

theorem run_eq (change : SchemaChange) (db : Database) (σ : Session) :
    change.run db σ = σ.runAll (change.statements db) := by
  cases change <;> rfl

/-- A table that changes by itself changes like a database that holds nothing else. -/
theorem runTable_eq (change : SchemaChange) {M : Model} {t : Table M} {db : Database}
    (single : db.tables = [⟨M, t⟩]) (σ : Session) : change.runTable t σ = change.run db σ := by
  rw [run_eq]
  cases change with
  | create =>
    rw [statements, Database.createStatements, single]
    exact (Session.runAll_singleton t.schema σ).symm
  | drop =>
    rw [statements, Database.dropStatements, single]
    exact (Session.runAll_singleton t.dropStatement σ).symm
  | recreate =>
    have two : db.recreateStatements = [t.dropStatement, t.schema] := by
      rw [Database.recreateStatements, single]
      rfl
    rw [statements, two, Session.runAll, runTable, Table.recreate, Table.drop]
    rcases Session.runRaw t.dropStatement σ with ⟨_ | _, after⟩
    · rfl
    · exact (Session.runAll_singleton t.schema after).symm

end SchemaChange

namespace Database

/-- Where a table is created, it was dropped before, and all tables before it were dropped and created. -/
def Guards (db : Database) (σ : Session) (sent : List String) : Prop :=
  ∀ before t after, db.tables = before ++ t :: after → t.table.schema ∈ sent →
    σ.Succeeds sent t.table.dropStatement ∧
      ∀ u ∈ before, σ.Succeeds sent u.table.dropStatement ∧ σ.Succeeds sent u.table.schema

theorem getElem?_recreateStatements {db : Database} {i : Nat} {t : AnyTable}
    (there : db.tables[i]? = some t) :
    db.recreateStatements[2 * i]? = some t.table.dropStatement ∧
      db.recreateStatements[2 * i + 1]? = some t.table.schema := by
  obtain ⟨drop, create⟩ := db.lists.alternate i
  rw [drop, create, db.lists.drop, db.lists.create, there]
  exact ⟨rfl, rfl⟩

/-- However a recreation ends, no table is created that was not dropped right before. -/
theorem guards_of_stops {db : Database} {σ after : Session} {sent : List String}
    {result : Except Error Unit} (stops : σ.Stops db.recreateStatements sent result after) : db.Guards σ sent := by
  intro before t rest tables created
  obtain ⟨k, place⟩ := List.getElem?_of_mem created
  have bound : k < sent.length := (List.getElem?_eq_some_iff.1 place).1
  have own : db.tables[before.length]? = some t := by simp [tables]
  obtain ⟨dropped, listed⟩ := getElem?_recreateStatements own
  -- No statement stands twice in the list, so the one that was sent is the one of the table.
  have same : k = 2 * before.length + 1 := by
    have found := List.prefix_iff_getElem?.1 stops.begins k bound
    rw [List.getElem?_eq_getElem bound] at place
    refine (List.getElem?_inj ?_ db.nodup_recreateStatements).1 ?_
    · exact Nat.lt_of_lt_of_le bound stops.begins.length_le
    · rw [found, place, listed]
  constructor
  · exact stops.succeeds bound (by omega) dropped
  · intro u member
    obtain ⟨j, found⟩ := List.getElem?_of_mem member
    have earlier : j < before.length := (List.getElem?_eq_some_iff.1 found).1
    have there : db.tables[j]? = some u := by
      rw [tables, List.getElem?_append_left earlier, found]
    obtain ⟨drop, create⟩ := getElem?_recreateStatements there
    exact ⟨stops.succeeds bound (by omega) drop, stops.succeeds bound (by omega) create⟩

/-- Whatever the server answers, a change runs up to the first statement that fails, and a table by itself
changes like a database of that table alone. -/
theorem changes_stop (db : Database) (σ : Session) :
    (∀ change : SchemaChange, ∃ sent,
      σ.Stops (change.statements db) sent (change.run db σ).1 (change.run db σ).2 ∧
        (change = .recreate → db.Guards σ sent)) ∧
      ∀ (M : Model) (t : Table M), ∃ single, make [⟨M, t⟩] = .ok single ∧
        ∀ change : SchemaChange, change.runTable t σ = change.run single σ := by
  constructor
  · intro change
    obtain ⟨sent, stops⟩ := Session.runAll_stops (change.statements db) σ
    rw [← change.run_eq] at stops
    refine ⟨sent, stops, ?_⟩
    rintro rfl
    exact guards_of_stops stops
  · intro M t
    exact ⟨⟨[⟨M, t⟩], List.pairwise_singleton _ _⟩, make_eq_ok_iff.2 rfl,
      fun change => change.runTable_eq rfl σ⟩

end Database

end PreparedSql
