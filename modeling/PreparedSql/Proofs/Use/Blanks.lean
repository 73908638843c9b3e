import PreparedSql.Proofs.Use.Moments

/-!
# Values and texts

A blank query is a query with its values taken out: what its literals, variables and row counts hold,
and its record. Two queries have the same shape when they leave the same blank. Main statement: no
value reaches a text, so queries of one shape are refused alike or prepared in one form, and what
happens to a statement later does not change the text that its query is rendered to
(`Moment.texts_run`).
-/

namespace PreparedSql

variable {M : Model}

namespace Operand

variable {τ : FieldType}

def blank : Operand M τ → Operand M τ
  | literal _ => literal τ.default
  | column f type_eq => column f type_eq
  | var _ => var ⟨""⟩

@[simp] theorem render_blank (t : Table M) (o : Operand M τ) : o.blank.render t = o.render t := by
  cases o <;> rfl

@[simp] theorem slotCount_blank (o : Operand M τ) : o.blank.slotCount = o.slotCount := by
  cases o <;> rfl

end Operand

namespace Condition

/-- The caller's own words stay: they hold no value that the library knows of. -/
def blank : Condition M → Condition M
  | compare op f operand => compare op f operand.blank
  | logical op left right => logical op left.blank right.blank
  | written sql slots disjunction => written sql slots disjunction

@[simp] theorem isDisjunction_blank (c : Condition M) : c.blank.isDisjunction = c.isDisjunction := by
  cases c <;> rfl

theorem enclose_blank (op : Connective) (c : Condition M) (sql : String) :
    enclose op c.blank sql = enclose op c sql := by
  rw [enclose, isDisjunction_blank, enclose]

@[simp] theorem render_blank (t : Table M) (c : Condition M) : c.blank.render t = c.render t := by
  induction c with
  | compare op f operand => rw [blank, render, render, operand.render_blank]
  | logical op left right ihLeft ihRight =>
    rw [blank, render, render, ihLeft, ihRight]
    simp only [enclose_blank]
  | written sql slots disjunction => rfl

@[simp] theorem slotCount_blank (c : Condition M) : c.blank.slotCount = c.slotCount := by
  induction c with
  | compare op f operand => exact operand.slotCount_blank
  | logical op left right ihLeft ihRight => rw [blank, slotCount, slotCount, ihLeft, ihRight]
  | written sql slots disjunction => rfl

end Condition

mutual

def Assignment.blank : Assignment M → Assignment M
  | .set f operand => .set f operand.blank
  | .group members => .group members.blank

def Assignments.blank : Assignments M → Assignments M
  | .last a => .last a.blank
  | .cons a rest => .cons a.blank rest.blank

end

mutual

@[simp] theorem Assignment.render_blank (t : Table M) :
    (a : Assignment M) → a.blank.render t = a.render t
  | .set f operand => by
    rw [Assignment.blank, Assignment.render, Assignment.render, operand.render_blank]
  | .group members => members.render_blank t

@[simp] theorem Assignments.render_blank (t : Table M) :
    (as : Assignments M) → as.blank.render t = as.render t
  | .last a => a.render_blank t
  | .cons a rest => by
    rw [Assignments.blank, Assignments.render, Assignments.render, a.render_blank t, rest.render_blank t]

end

mutual

@[simp] theorem Assignment.slotCount_blank : (a : Assignment M) → a.blank.slotCount = a.slotCount
  | .set _ operand => operand.slotCount_blank
  | .group members => members.slotCount_blank

@[simp] theorem Assignments.slotCount_blank : (as : Assignments M) → as.blank.slotCount = as.slotCount
  | .last a => a.slotCount_blank
  | .cons a rest => by
    rw [Assignments.blank, Assignments.slotCount, Assignments.slotCount, a.slotCount_blank,
      rest.slotCount_blank]

end

def RowLimit.blank : RowLimit → RowLimit
  | fixed _ => fixed 0
  | var _ => var ⟨""⟩

namespace Query

def blank : Query M → Query M
  | select t s => select t s
  | insert t s _ => insert t s none
  | update t => update t
  | delete t => delete t
  | filtered q c => filtered q.blank c.blank
  | assigned q a => assigned q.blank a.blank
  | limited q l => limited q.blank l.blank

/-- The same table, verb, columns, clauses, connectives and kinds of operands, whatever the values. -/
def SameShape (q q' : Query M) : Prop :=
  q.blank = q'.blank

@[simp] theorem table_blank (q : Query M) : q.blank.table = q.table := by
  induction q with
  | select | insert | update | delete => rfl
  | filtered q c ih | assigned q a ih | limited q l ih => exact ih

/-- The text of a query does not depend on its values. -/
@[simp] theorem render_blank (q : Query M) : q.blank.render = q.render := by
  induction q with
  | select | insert | update | delete => rfl
  | filtered q c ih => rw [blank, render, render, ih, q.table_blank, c.render_blank]
  | assigned q a ih => rw [blank, render, render, ih, q.table_blank, a.render_blank]
  | limited q l ih => rw [blank, render, render, ih]

@[simp] theorem inputCount_blank (q : Query M) : q.blank.inputCount = q.inputCount := by
  induction q with
  | select | insert | update | delete => rfl
  | filtered q c ih => rw [blank, inputCount, inputCount, ih, c.slotCount_blank]
  | assigned q a ih => rw [blank, inputCount, inputCount, ih, a.slotCount_blank]
  | limited q l ih => rw [blank, inputCount, inputCount, ih]

@[simp] theorem outputColumns_blank (q : Query M) : q.blank.outputColumns = q.outputColumns := by
  induction q with
  | select | insert | update | delete | assigned => rfl
  | filtered q c ih | limited q l ih => exact ih

namespace SameShape

variable {q q' : Query M}

theorem render (alike : q.SameShape q') : q.render = q'.render := by
  rw [← q.render_blank, alike, q'.render_blank]

theorem inputCount (alike : q.SameShape q') : q.inputCount = q'.inputCount := by
  rw [← q.inputCount_blank, alike, q'.inputCount_blank]

theorem outputColumns (alike : q.SameShape q') : q.outputColumns = q'.outputColumns := by
  rw [← q.outputColumns_blank, alike, q'.outputColumns_blank]

end SameShape

end Query

namespace Statement

/-- What a statement is before any value is bound: its text, the number of its input slots and the
declarations of its output slots. -/
structure Form where
  sql : String
  inputCount : Nat
  outputs : Outputs
  deriving DecidableEq

def form (s : Statement M) : Form :=
  ⟨s.sql, s.inputs.length, s.outputs⟩

/-- The form in which a query is prepared. -/
theorem form_ofQuery (ρ : Valuation) (q : Query M) :
    (ofQuery ρ q).map form =
      match q.render with
      | .error e => .error e
      | .ok sql =>
        if Text.placeholderCount sql = q.inputCount then
          .ok ⟨sql, q.inputCount, Column.declareAll q.outputColumns 0 (.empty q.outputColumns.length)⟩
        else .error (.slotMismatch (Text.placeholderCount sql) q.inputCount) := by
  unfold ofQuery
  cases q.render with
  | error e => rfl
  | ok sql =>
    dsimp only
    split
    · simp [Except.map, form, q.bind_unbound, Inputs.length, Query.declareOutputs, Query.outputCount]
    · rfl

/-- Preparing sees the shape of a query only. -/
theorem form_of_sameShape {q q' : Query M} (alike : q.SameShape q') (ρ ρ' : Valuation) :
    (ofQuery ρ q).map form = (ofQuery ρ' q').map form := by
  rw [form_ofQuery, form_ofQuery, alike.render, alike.inputCount, alike.outputColumns]

end Statement

namespace Moment

def Shows (m : Moment M) (sql : String) : Prop :=
  m.statement.sql = sql ∧ m.statement.query.render = .ok sql

/-- A statement keeps its text, and its query still has it. -/
theorem shows_run {ρ : Valuation} {q : Query M} {s : Statement M}
    (prepared : Statement.ofQuery ρ q = .ok s) (actions : List (Action M)) : ((start ρ q s).run actions).Shows s.sql := by
  have filled := filled_run prepared actions
  obtain ⟨rendered, _, _, _⟩ := Statement.ofQuery_inv prepared
  exact ⟨filled.sql, by rw [filled.query, rendered]⟩

/-- Of two queries that differ in values only, neither text nor slots tell which is which: not when they
are rendered, not when they are prepared, and not after any use of what was prepared. -/
theorem texts_run {q q' : Query M} (alike : q.SameShape q') :
    q.render = q'.render ∧ q.inputCount = q'.inputCount ∧ ∀ ρ ρ' : Valuation,
      (∀ e, Statement.ofQuery ρ q = .error e → Statement.ofQuery ρ' q' = .error e) ∧
        ∀ s, Statement.ofQuery ρ q = .ok s → ∃ s', Statement.ofQuery ρ' q' = .ok s' ∧ s'.form = s.form ∧
          ∀ actions actions' : List (Action M), ((start ρ q s).run actions).Shows s.sql ∧
            ((start ρ' q' s').run actions').Shows s.sql := by
  refine ⟨alike.render, alike.inputCount, fun ρ ρ' => ?_⟩
  have forms := Statement.form_of_sameShape alike ρ ρ'
  constructor
  · intro e refused
    rw [refused] at forms
    cases prepared' : Statement.ofQuery ρ' q' with
    | error e' =>
      rw [prepared'] at forms
      cases forms
      rfl
    | ok s' =>
      rw [prepared'] at forms
      cases forms
  · intro s prepared
    rw [prepared] at forms
    cases prepared' : Statement.ofQuery ρ' q' with
    | error e =>
      rw [prepared'] at forms
      cases forms
    | ok s' =>
      rw [prepared'] at forms
      have same : s.form = s'.form := Except.ok.inj forms
      have sql : s'.sql = s.sql := congrArg Statement.Form.sql same.symm
      refine ⟨s', rfl, same.symm, fun actions actions' => ⟨shows_run prepared actions, ?_⟩⟩
      rw [← sql]
      exact shows_run prepared' actions'

end Moment

def Shelf.retitled (title : String) (due : Option Calendar.BrokenDown)
    (v : Variable (.required .integerUnsigned)) (count : UInt64) : Query Shelf.book :=
  .limited
    (.filtered
      (.assigned Shelf.books.update
        (.group
          (.cons (.set Shelf.title (.literal title)) (.last (.set Shelf.due (.literal due))))))
      (.logical .or (.compare .eq Shelf.number (.var v)) (.compare .ne Shelf.title (.literal title))))
    (.fixed count)

theorem Moment.texts_run_retitled :
    let q := Shelf.retitled "'; DROP TABLE `books`; -- ?" none Shelf.first 0
    let q' := Shelf.retitled "" (some (.ofCalendar 2024 2 30 0 0 0)) ⟨"second"⟩ 18446744073709551615
    q.SameShape q' ∧ (∃ s, Statement.ofQuery Valuation.default q = .ok s) ∧
      q.render = q'.render ∧ q.inputCount = q'.inputCount ∧ ∀ ρ ρ' : Valuation,
        (∀ e, Statement.ofQuery ρ q = .error e → Statement.ofQuery ρ' q' = .error e) ∧
          ∀ s, Statement.ofQuery ρ q = .ok s → ∃ s', Statement.ofQuery ρ' q' = .ok s' ∧ s'.form = s.form ∧
            ∀ actions actions', ((start ρ q s).run actions).Shows s.sql ∧
              ((start ρ' q' s').run actions').Shows s.sql := by
  intro q q'
  have alike : q.SameShape q' := rfl
  have rendered : q.render = .ok _ := rfl
  exact ⟨alike, ⟨_, Statement.ofQuery_eq_ok rendered (by decide)⟩, texts_run alike⟩

end PreparedSql
