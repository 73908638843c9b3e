import PreparedSql.Proofs.Parameters.Types
import PreparedSql.Proofs.Use.Moments

/-!
# Typed slots in use

A statement without conditions in the caller's words never holds a value of a wrong type, and only an
insert without a record leaves slots unbound. Main statement: this holds after every use of the
statement, and it decides what becomes of its slots when they are sent (`Moment.typed_run`).
-/

namespace PreparedSql

open Text

variable {M : Model}

def Action.bindsRecord : Action M → Bool
  | bindRecord _ => true
  | set .. | update .. | rebind | persist _ | call .. => false

namespace Query

def isInsert : Query M → Bool
  | insert .. => true
  | select .. | update _ | delete _ | filtered .. | assigned .. | limited .. => false

/-- The columns of the insert at the base of the query, if it never received a record: not when the
query was built, and not since. Only an insert without clauses can receive one later. -/
def unrecorded (q : Query M) (actions : List (Action M)) : List (Column M) :=
  if q.isInsert ∧ actions.any Action.bindsRecord then [] else q.awaited

theorem awaited_values (q : Query M) (r : Record M) :
    (q.values r).awaited = if q.isInsert then [] else q.awaited := by
  cases q <;> rfl

theorem isInsert_values (q : Query M) (r : Record M) : (q.values r).isInsert = q.isInsert := by
  cases q <;> rfl

end Query

namespace Moment

variable {q : Query M} {sql : String} {m : Moment M}

/-- An insert waits until a record is bound. -/
theorem awaited_run (m : Moment M) (actions : List (Action M)) :
    (m.run actions).asked.awaited = m.asked.unrecorded actions := by
  induction actions generalizing m with
  | nil => simp [run, Query.unrecorded]
  | cons a rest ih =>
    refine (ih (m.step a)).trans ?_
    unfold Query.unrecorded
    cases a with
    | bindRecord r =>
      simp only [step, Query.isInsert_values, Query.awaited_values, List.any_cons, Action.bindsRecord,
        Bool.true_or, and_true]
      split <;> simp_all
    | set | update | rebind | persist | call => rfl

/-- The slots of a statement in use are typed by its query. -/
theorem Filled.typed (h : m.Filled q sql) (own : q.wordings = []) :
    m.statement.inputs.Typed q.slotTypes m.asked.awaited.length := by
  have types : m.asked.slotTypes = q.slotTypes := by
    rcases h.record with same | ⟨r, same⟩
    · rw [same]
    · rw [same, Query.slotTypes_values]
  have typed := m.asked.await_claims.typed m.read
  rw [h.inputs, Query.slots_of_own (h.wordings.trans own)]
  rwa [Query.types_parameters, types] at typed

/-- At every moment each slot holds a value of its operand's type, but for those of an insert that
never received a record; these, and dates that do not exist, are all that keeps the slots from being
sent. -/
theorem typed_run {ρ : Valuation} {q : Query M} {s : Statement M}
    (prepared : Statement.ofQuery ρ q = .ok s) (own : q.wordings = []) (actions : List (Action M)) :
    let inputs := ((start ρ q s).run actions).statement.inputs
    let waiting := (q.unrecorded actions).length
    inputs.Typed q.slotTypes waiting ∧ inputs.Applies waiting := by
  intro inputs waiting
  have typed : inputs.Typed q.slotTypes waiting := by
    have held := (filled_run prepared actions).typed own
    rwa [awaited_run] at held
  exact ⟨typed, typed.applies⟩

end Moment

def Shelf.limitedInsert : Query Shelf.book :=
  .limited Shelf.books.insert (.var Shelf.count)

theorem Moment.typed_run_limitedInsert :
    Shelf.limitedInsert.wordings = [] ∧
      ∃ s, Statement.ofQuery Valuation.default Shelf.limitedInsert = .ok s ∧
        let actions := [.bindRecord Record.default, .set Shelf.count (5 : UInt64), .call .execute {}]
        let inputs := ((start Valuation.default Shelf.limitedInsert s).run actions).statement.inputs
        let waiting := (Shelf.limitedInsert.unrecorded actions).length
        inputs.Typed Shelf.limitedInsert.slotTypes waiting ∧ inputs.Applies waiting := by
  have own : Shelf.limitedInsert.wordings = [] := rfl
  have rendered : Shelf.limitedInsert.render = .ok _ := rfl
  have prepared : Statement.ofQuery Valuation.default Shelf.limitedInsert = .ok _ :=
    Statement.ofQuery_eq_ok rendered (by decide)
  exact ⟨own, _, prepared, typed_run prepared own _⟩

end PreparedSql
