import PreparedSql.Proofs.Rows.Declared
import PreparedSql.Proofs.Rows.Delivery
import PreparedSql.Proofs.Use.Moments

/-!
# Fetching

A statement has one array of output slots for all its rows and executions. Main statement: this never
shows, since at every moment fetching is a map of what is delivered, row by row
(`Moment.fetches_run`).
-/

namespace PreparedSql

variable {M : Model}

/-- A select of the columns, continued by any conditions and row counts. -/
inductive Query.Selects {t : Table M} (selection : t.Selection) : Query M → Prop where
  | select : Selects selection (.select t selection)
  | filtered {q : Query M} (inner : Selects selection q) (c : Condition M) :
      Selects selection (.filtered q c)
  | limited {q : Query M} (inner : Selects selection q) (l : RowLimit) :
      Selects selection (.limited q l)

theorem Query.Selects.outputColumns_eq {t : Table M} {selection : t.Selection} {q : Query M}
    (selects : q.Selects selection) : q.outputColumns = selection.columns := by
  induction selects with
  | select => rfl
  | filtered inner c ih => exact ih
  | limited inner l ih => exact ih

theorem Query.Receives.declared {q : Query M} {b after : Outputs} (receives : q.Receives b after)
    (declared : b.Declared q.outputColumns) : after.Declared q.outputColumns := by
  cases receives with
  | nothing => exact declared
  | row row => exact declared_readRow declared row
  | rows rows => exact declared_readRows declared rows

namespace Statement

variable {s : Statement M}

/-- Every way of fetching reads what is delivered, without regard to what the slots hold. -/
structure Fetches (columns : List (Column M)) (ρ : Valuation) (s : Statement M) (σ : Session)
    (d : Delivery) : Prop where
  all : (s.fetchAll ρ σ).result = d.records columns
  optional : (s.fetchOptional ρ σ).result = d.first columns
  one : (s.fetchOne ρ σ).result = d.only columns

/-- The output slots are declared for the columns of the query. -/
def Ready (s : Statement M) : Prop :=
  s.outputs.Declared s.query.outputColumns

theorem delivery_submit {ρ : Valuation} {parameters : List (Datum Calendar.DateTime)}
    (applied : (s.rebind ρ).inputs.parameters = .ok parameters) (σ : Session) :
    Delivery.of (s.submit ρ σ).result (s.submit ρ σ).session.unread =
      σ.delivery s.sql s.persistent parameters := by
  have delivered := Session.delivery_run s.sql s.persistent parameters
    (σ.log (.executing s.sql (s.rebind ρ).values))
  rw [Session.delivery_log] at delivered
  rw [submit_of_applied applied]
  exact delivered

theorem result_fetchAll (ready : s.Ready) (ρ : Valuation) (σ : Session) :
    (s.fetchAll ρ σ).result =
      (Delivery.of (s.submit ρ σ).result (s.submit ρ σ).session.unread).records s.query.outputColumns := by
  obtain ⟨result, submitted⟩ := submit_eq ρ s σ
  unfold fetchAll
  rw [submitted]
  cases result with
  | error e => rfl
  | ok answer =>
    have mapped := Query.readRows_eq ready answer.rows
    dsimp only [Delivery.of, Delivery.records, rebind]
    rw [← mapped]
    cases read : s.query.readRows s.outputs answer.rows with
    | mk outputs records =>
      cases records with
      | error e => rfl
      | ok records =>
        unfold Session.finish
        cases (s.submit ρ σ).session.unread <;> rfl

theorem result_fetchOptional (ready : s.Ready) (ρ : Valuation) (σ : Session) :
    (s.fetchOptional ρ σ).result =
      (Delivery.of (s.submit ρ σ).result (s.submit ρ σ).session.unread).first s.query.outputColumns := by
  obtain ⟨result, submitted⟩ := submit_eq ρ s σ
  unfold fetchOptional
  rw [submitted]
  cases result with
  | error e => rfl
  | ok answer =>
    dsimp only [Delivery.of, Delivery.first, Session.firstRow]
    cases rows : answer.rows with
    | nil =>
      dsimp only [Session.finish]
      cases (s.submit ρ σ).session.unread <;> rfl
    | cons row rest => exact congrArg (Except.map some) (Query.readRow_eq ready row)

theorem result_fetchOne (ρ : Valuation) (σ : Session) :
    (s.fetchOne ρ σ).result =
      match (s.fetchOptional ρ σ).result with
      | .error e => .error e
      | .ok none => .error (.database .rowNotFound)
      | .ok (some r) => .ok r := by
  unfold fetchOne
  split <;> rename_i fetched <;> rw [fetched]

/-- A ready statement whose slots are applied fetches what is delivered. -/
theorem fetches_of_ready (ready : s.Ready) {ρ : Valuation}
    {parameters : List (Datum Calendar.DateTime)}
    (applied : (s.rebind ρ).inputs.parameters = .ok parameters) (σ : Session) :
    s.Fetches s.query.outputColumns ρ σ (σ.delivery s.sql s.persistent parameters) := by
  have delivered := delivery_submit applied σ
  have first := result_fetchOptional ready ρ σ
  rw [delivered] at first
  refine ⟨?_, first, ?_⟩
  · rw [result_fetchAll ready, delivered]
  · rw [result_fetchOne, first]
    rfl

theorem ready_of_prepared {ρ : Valuation} {q : Query M} (prepared : ofQuery ρ q = .ok s) : s.Ready := by
  obtain ⟨rendered, same, _, _⟩ := ofQuery_inv prepared
  rw [Except.ok.inj (prepared.symm.trans (ofQuery_eq_ok rendered same))]
  exact q.declared_declareOutputs

theorem Ready.perform (ready : s.Ready) (c : Call) (ρ : Valuation) (σ : Session) :
    (c.perform ρ s σ).statement.Ready := by
  obtain ⟨outputs, receives, same, _⟩ := ends_perform c ρ s σ
  rw [same]
  exact receives.declared ready

theorem Ready.bindRecord (ready : s.Ready) (r : Record M) : (s.bindRecord r).Ready := by
  unfold Statement.bindRecord
  split <;> exact ready

end Statement

namespace Moment

variable {m : Moment M}

theorem ready_step (ready : m.statement.Ready) (a : Action M) : (m.step a).statement.Ready := by
  cases a with
  | set | update | rebind | persist => exact ready
  | bindRecord r => exact ready.bindRecord r
  | call c σ => exact ready.perform c m.current σ

/-- A statement stays ready in use. -/
theorem ready_run (ready : m.statement.Ready) (actions : List (Action M)) :
    (m.run actions).statement.Ready :=
  preserved_run (P := fun m => m.statement.Ready) (fun _ a kept => ready_step kept a) ready actions

theorem columns_run {ρ : Valuation} {q : Query M} {s : Statement M} {t : Table M}
    {selection : t.Selection} (selects : q.Selects selection)
    (prepared : Statement.ofQuery ρ q = .ok s) (actions : List (Action M)) :
    ((start ρ q s).run actions).statement.query.outputColumns = selection.columns := by
  rw [(filled_run prepared actions).query, selects.outputColumns_eq]

/-- Whatever was done with a select before, and whatever failed, fetching gives the records of the
rows that are delivered next. -/
theorem fetches_run {ρ : Valuation} {q : Query M} {s : Statement M} {t : Table M}
    {selection : t.Selection} (selects : q.Selects selection)
    (prepared : Statement.ofQuery ρ q = .ok s) (actions : List (Action M)) :
    let m := (start ρ q s).run actions
    ∀ parameters, (m.statement.rebind m.current).inputs.parameters = .ok parameters →
      (∀ σ, m.statement.Fetches selection.columns m.current σ
        (σ.delivery m.statement.sql m.statement.persistent parameters)) ∧
      ∀ row, Row.Gives selection.columns row (row.record selection.columns) := by
  intro m parameters applied
  have ready : m.statement.Ready := ready_run (Statement.ready_of_prepared prepared) actions
  have fetches := Statement.fetches_of_ready ready applied
  rw [columns_run selects prepared] at fetches
  exact ⟨fetches, Row.gives_record selection.columns⟩

end Moment

def Shelf.upcoming : Query Shelf.book :=
  .limited
    (.filtered (.select Shelf.books ⟨Shelf.books.columns ++ Shelf.books.columns.tail, by decide⟩)
      (.compare .gt Shelf.due (.literal (some (.ofCalendar 2024 2 29 12 0 0)))))
    (.var Shelf.count)

theorem Moment.fetches_run_upcoming :
    ∃ selection : Shelf.books.Selection, Shelf.upcoming.Selects selection ∧
      ∃ s, Statement.ofQuery Valuation.default Shelf.upcoming = .ok s ∧
        let actions := [.call .fetchAll { replies := [{ answer := { rows := [[⟨.text, none⟩]] } }] },
          .set Shelf.count (5 : UInt64), .call .fetchOne {}]
        let m := (start Valuation.default Shelf.upcoming s).run actions
        ∃ parameters, (m.statement.rebind m.current).inputs.parameters = .ok parameters ∧
          (∀ σ, m.statement.Fetches selection.columns m.current σ
            (σ.delivery m.statement.sql m.statement.persistent parameters)) ∧
          ∀ row, Row.Gives selection.columns row (row.record selection.columns) := by
  have selects : Shelf.upcoming.Selects _ := .limited (.filtered .select _) _
  have rendered : Shelf.upcoming.render = .ok _ := rfl
  have prepared : Statement.ofQuery Valuation.default Shelf.upcoming = .ok _ :=
    Statement.ofQuery_eq_ok rendered (by decide)
  exact ⟨_, selects, _, prepared, _, rfl, fetches_run selects prepared _ _ rfl⟩

end PreparedSql
