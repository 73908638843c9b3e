import PreparedSql.Proofs.Rows.Cells
import PreparedSql.Proofs.Rows.Fetching

/-!
# Failures of reading

Once its slots are sent, nothing that a statement itself has put together can fail. Main statement: a
row whose cells can be read fails for a text that is too long for its column, the first one, and for
nothing else (`Moment.failures_run`).
-/

namespace PreparedSql

variable {M : Model}

/-- A slot that nothing was bound to, a value of another kind than its slot's, or a date that does not
exist. -/
def Error.isInternal : Error → Bool
  | unboundSlot _ | typeMismatch .. | invalidDateTime _ => true
  | _ => false

namespace Row

def Readable (columns : List (Column M)) (row : Row) : Prop :=
  ∀ i c, columns[i]? = some c → ∃ value, row.read i c.kind = .ok value

/-- The first column whose cell holds a text of more characters than the column may hold. -/
structure FirstOverflow (columns : List (Column M)) (row : Row) (i : Nat) (c : Column M) (n : Nat)
    (text : String) : Prop where
  here : columns[i]? = some c
  overflows : c.Overflows row i n text
  before : ∀ j < i, ∀ d, columns[j]? = some d → ∀ n' text', ¬ d.Overflows row j n' text'

variable {columns : List (Column M)} {row : Row}

theorem FirstOverflow.eq {i j n n' : Nat} {c d : Column M} {text text' : String}
    (first : FirstOverflow columns row i c n text) (other : FirstOverflow columns row j d n' text') :
    c = d ∧ n = n' ∧ text = text' := by
  have same : i = j := by
    rcases Nat.lt_trichotomy i j with below | same | above
    · exact absurd first.overflows (other.before i below c first.here n text)
    · exact same
    · exact absurd other.overflows (first.before j above d other.here n' text')
  subst same
  cases first.here.symm.trans other.here
  cases first.overflows.width.symm.trans other.overflows.width
  cases first.overflows.cell.symm.trans other.overflows.cell
  exact ⟨rfl, rfl, rfl⟩

theorem not_overflows_of_takes {i n : Nat} {c : Column M} {x : c.field.type.Val} {text : String}
    (takes : c.Takes row i x) : ¬ c.Overflows row i n text := by
  intro overflows
  obtain ⟨value, read, taken⟩ := takes
  have refused := (Column.take_eq_error_iff read).2 ⟨n, text, overflows, rfl⟩
  rw [taken] at refused
  cases refused

theorem firstOverflow_of_error (readable : row.Readable columns) {e : Error}
    (failed : row.record columns = .error e) :
    ∃ i c n text, FirstOverflow columns row i c n text ∧
      e = .truncated c.name.text text.utf8ByteSize n := by
  cases gives_of_eq failed with
  | unread here unread before =>
    obtain ⟨value, read⟩ := readable _ _ here
    rw [read] at unread
    cases unread
  | @refused i c value _ read here cell refused before =>
    obtain ⟨n, text, overflows, same⟩ := (Column.take_eq_error_iff cell).1 refused
    refine ⟨i, c, n, text, ⟨here, overflows, ?_⟩, same⟩
    intro j below d found n' text'
    obtain ⟨x, takes⟩ := before j below d found
    exact not_overflows_of_takes takes

/-- A row that can be read fails at its first overlong text, and nowhere else. -/
theorem record_eq_error_iff (readable : row.Readable columns) {e : Error} :
    row.record columns = .error e ↔
      ∃ i c n text, FirstOverflow columns row i c n text ∧
        e = .truncated c.name.text text.utf8ByteSize n := by
  constructor
  · exact firstOverflow_of_error readable
  · rintro ⟨i, c, n, text, first, rfl⟩
    cases result : row.record columns with
    | error e =>
      obtain ⟨_, _, _, _, other, rfl⟩ := firstOverflow_of_error readable result
      obtain ⟨rfl, rfl, rfl⟩ := first.eq other
      rfl
    | ok r =>
      cases gives_of_eq result with
      | record taken others =>
        obtain ⟨x, takes, _⟩ := taken i c first.here
        exact absurd first.overflows (not_overflows_of_takes takes)

/-- A field whose last column has NULL is at its default. -/
theorem get_record_of_null {r : Record M} (given : row.record columns = .ok r) {i : Nat} {c : Column M}
    (here : columns[i]? = some c)
    (last : ∀ (j : Nat) (d : Column M), i < j → columns[j]? = some d → d.field ≠ c.field) {own : Kind}
    (null : row[i]? = some ⟨own, none⟩) : r.get c.field = c.field.type.default := by
  cases gives_of_eq given with
  | record taken others =>
    obtain ⟨x, ⟨value, read, took⟩, held⟩ := taken i c here
    cases read.symm.trans (read_null null c.kind)
    rw [Column.take_null] at took
    cases took
    exact held last

/-- No row, however malformed, leads to an internal error. -/
theorem not_internal_of_record {e : Error} (failed : row.record columns = .error e) :
    e.isInternal = false := by
  cases gives_of_eq failed with
  | unread here unread before =>
    obtain ⟨cause, rfl⟩ := read_eq_error unread
    rfl
  | refused read here cell refused before =>
    obtain ⟨n, text, _, rfl⟩ := (Column.take_eq_error_iff cell).1 refused
    rfl

end Row

namespace Delivery

/-- What the server or the client reports at the end is no fault of the statement. -/
def External (d : Delivery) : Prop :=
  ∀ e, d.ending = some e → e.isInternal = false

variable {columns : List (Column M)} {d : Delivery}

theorem error_of_mapM {rows : List Row} {e : Error} (failed : rows.mapM (Row.record columns) = .error e) :
    ∃ row ∈ rows, row.record columns = .error e := by
  induction rows with
  | nil => cases failed
  | cons row rest ih =>
    rw [List.mapM_cons] at failed
    cases first : row.record columns with
    | error e' =>
      rw [first] at failed
      cases failed
      exact ⟨row, List.mem_cons_self, first⟩
    | ok r =>
      cases others : rest.mapM (Row.record columns) with
      | error e' =>
        rw [first, others] at failed
        cases failed
        obtain ⟨row', member, same⟩ := ih others
        exact ⟨row', List.mem_cons_of_mem _ member, same⟩
      | ok rs =>
        rw [first, others] at failed
        cases failed

theorem External.records (external : d.External) {e : Error} (failed : d.records columns = .error e) :
    e.isInternal = false := by
  unfold Delivery.records at failed
  split at failed
  · rename_i reason
    cases failed
    obtain ⟨row, _, refused⟩ := error_of_mapM reason
    exact Row.not_internal_of_record refused
  · split at failed
    · rename_i ending
      cases failed
      exact external _ ending
    · cases failed

theorem External.first (external : d.External) {e : Error} (failed : d.first columns = .error e) :
    e.isInternal = false := by
  unfold Delivery.first at failed
  split at failed
  · rename_i row _ _
    cases result : row.record columns with
    | error e' =>
      rw [result] at failed
      cases failed
      exact Row.not_internal_of_record result
    | ok r =>
      rw [result] at failed
      cases failed
  · rename_i ending
    cases failed
    exact external _ ending
  · cases failed

theorem External.only (external : d.External) {e : Error} (failed : d.only columns = .error e) :
    e.isInternal = false := by
  unfold Delivery.only at failed
  split at failed
  · rename_i reason
    cases failed
    exact external.first reason
  · cases failed
    rfl
  · cases failed

/-- Whatever a session delivers, the error behind the rows comes from outside. -/
theorem external_delivery (sql : String) (persistent : Bool)
    (parameters : List (Datum Calendar.DateTime)) (σ : Session) :
    (σ.delivery sql persistent parameters).External := by
  intro e ending
  unfold Session.delivery at ending
  split at ending
  · cases ending
    rfl
  · split at ending
    · cases ending
      rfl
    · obtain ⟨reported, _, rfl⟩ := Option.map_eq_some_iff.1 ending
      rfl

end Delivery

structure Statement.FetchesSafely (ρ : Valuation) (s : Statement M) (σ : Session) : Prop where
  all : ∀ e, (s.fetchAll ρ σ).result = .error e → e.isInternal = false
  optional : ∀ e, (s.fetchOptional ρ σ).result = .error e → e.isInternal = false
  one : ∀ e, (s.fetchOne ρ σ).result = .error e → e.isInternal = false

theorem Statement.Fetches.safely {columns : List (Column M)} {ρ : Valuation} {s : Statement M}
    {σ : Session} {d : Delivery} (fetches : s.Fetches columns ρ σ d) (external : d.External) :
    s.FetchesSafely ρ σ where
  all := by
    intro e failed
    rw [fetches.all] at failed
    exact external.records failed
  optional := by
    intro e failed
    rw [fetches.optional] at failed
    exact external.first failed
  one := by
    intro e failed
    rw [fetches.one] at failed
    exact external.only failed

namespace Moment

/-- Once the slots of a select are sent, fetching reports no internal error, whatever the server
replies. A row with readable cells is refused on account of the first text that has more characters
than its column may hold, and what NULL leaves in a field is the default. -/
theorem failures_run {ρ : Valuation} {q : Query M} {s : Statement M} {t : Table M}
    {selection : t.Selection} (selects : q.Selects selection)
    (prepared : Statement.ofQuery ρ q = .ok s) (actions : List (Action M)) :
    let m := (start ρ q s).run actions
    let columns := selection.columns
    ∀ parameters, (m.statement.rebind m.current).inputs.parameters = .ok parameters →
      (∀ σ, m.statement.FetchesSafely m.current σ ∧ m.statement.Fetches columns m.current σ
        (σ.delivery m.statement.sql m.statement.persistent parameters)) ∧
      ∀ row : Row,
        (row.Readable columns → ∀ e, row.record columns = .error e ↔
          ∃ i c n text, row.FirstOverflow columns i c n text ∧
            e = .truncated c.name.text text.utf8ByteSize n) ∧
        ∀ r, row.record columns = .ok r → ∀ i c own, columns[i]? = some c → row[i]? = some ⟨own, none⟩ →
          (∀ (j : Nat) (d : Column M), i < j → columns[j]? = some d → d.field ≠ c.field) →
          r.get c.field = c.field.type.default := by
  intro m columns parameters applied
  have ready : m.statement.Ready := ready_run (Statement.ready_of_prepared prepared) actions
  have fetches := Statement.fetches_of_ready ready applied
  rw [columns_run selects prepared] at fetches
  refine ⟨?_, ?_⟩
  · intro σ
    have external := Delivery.external_delivery m.statement.sql m.statement.persistent parameters σ
    exact ⟨(fetches σ).safely external, fetches σ⟩
  · intro row
    refine ⟨?_, ?_⟩
    · intro readable e
      exact Row.record_eq_error_iff readable
    · intro r given i c own here null last
      exact Row.get_record_of_null given here last null

end Moment

def Shelf.someLabels : Query Shelf.book :=
  .limited Shelf.labels.select (.var Shelf.count)

theorem Moment.failures_run_someLabels :
    ∃ selection : Shelf.labels.Selection, Shelf.someLabels.Selects selection ∧
      ∃ s, Statement.ofQuery Valuation.default Shelf.someLabels = .ok s ∧
        let actions := [.call .fetchOne { replies := [{ answer := { rows := [[⟨.text, some "Ωμέγα"⟩]] } }] }]
        let m := (start Valuation.default Shelf.someLabels s).run actions
        let columns := selection.columns
        ∃ parameters, (m.statement.rebind m.current).inputs.parameters = .ok parameters ∧
          (∀ σ, m.statement.FetchesSafely m.current σ ∧ m.statement.Fetches columns m.current σ
            (σ.delivery m.statement.sql m.statement.persistent parameters)) ∧
          ∀ row : Row,
            (row.Readable columns → ∀ e, row.record columns = .error e ↔
              ∃ i c n text, row.FirstOverflow columns i c n text ∧
                e = .truncated c.name.text text.utf8ByteSize n) ∧
            ∀ r, row.record columns = .ok r → ∀ i c own, columns[i]? = some c →
              row[i]? = some ⟨own, none⟩ →
              (∀ (j : Nat) (d : Column Shelf.book), i < j → columns[j]? = some d → d.field ≠ c.field) →
              r.get c.field = c.field.type.default := by
  have selects : Shelf.someLabels.Selects _ := .limited .select _
  have rendered : Shelf.someLabels.render = .ok _ := rfl
  have prepared : Statement.ofQuery Valuation.default Shelf.someLabels = .ok _ :=
    Statement.ofQuery_eq_ok rendered (by decide)
  exact ⟨_, selects, _, prepared, _, rfl, failures_run selects prepared _ _ rfl⟩

/-- Five letters fit, whatever their bytes. -/
example : Row.record Shelf.labels.columns [⟨.text, some "Ωμέγα!"⟩, ⟨.dateTime, none⟩] =
    .error (.truncated "short_title" 11 5) := by
  cbv

end PreparedSql
