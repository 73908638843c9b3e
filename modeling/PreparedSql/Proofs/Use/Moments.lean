import PreparedSql.Proofs.Parameters.Alignment
import PreparedSql.Proofs.Use.Traffic
import PreparedSql.Statement.Execution

/-!
# A statement in use

Between its executions a statement meets changes of the variables, rebinding and new records, in any
order. A moment holds the statement with what decides its slots: the variables, their values when
they were last read, and the query with the record that was bound last. Main statement: at every
moment each slot holds what its claim says (`Moment.filled_run`).
-/

namespace PreparedSql

variable {M : Model}

inductive Call where
  | fetchAll
  | fetchOptional
  | fetchOne
  | execute
  deriving DecidableEq

def Outcome.forget {α : Type} (o : Outcome M α) : Outcome M Unit :=
  { o with result := o.result.map fun _ => () }

def Call.perform (c : Call) (ρ : Valuation) (s : Statement M) (σ : Session) : Outcome M Unit :=
  match c with
  | fetchAll => (s.fetchAll ρ σ).forget
  | fetchOptional => (s.fetchOptional ρ σ).forget
  | fetchOne => (s.fetchOne ρ σ).forget
  | execute => (s.execute ρ σ).forget

inductive Query.Receives (q : Query M) (b : Outputs) : Outputs → Prop where
  | nothing : Receives q b b
  | row (row : Row) : Receives q b (q.readRow b row).1
  | rows (rows : List Row) : Receives q b (q.readRows b rows).1

namespace Statement

theorem statement_submit (ρ : Valuation) (s : Statement M) (σ : Session) :
    (s.submit ρ σ).statement = s.rebind ρ := by
  unfold submit
  dsimp only
  split <;> rfl

theorem submit_eq (ρ : Valuation) (s : Statement M) (σ : Session) :
    ∃ result, s.submit ρ σ = ⟨result, s.rebind ρ, (s.submit ρ σ).session⟩ :=
  ⟨(s.submit ρ σ).result, by rw [← statement_submit ρ s σ]⟩

theorem submit_of_refused {ρ : Valuation} {s : Statement M} {e : Error}
    (refused : (s.rebind ρ).inputs.parameters = .error e) (σ : Session) :
    s.submit ρ σ = ⟨.error e, s.rebind ρ, σ.log (.executing s.sql (s.rebind ρ).values)⟩ := by
  unfold submit
  dsimp only
  rw [refused]
  rfl

theorem submit_of_applied {ρ : Valuation} {s : Statement M} {parameters : List (Datum Calendar.DateTime)}
    (applied : (s.rebind ρ).inputs.parameters = .ok parameters) (σ : Session) :
    let sent := (σ.log (.executing s.sql (s.rebind ρ).values)).run s.sql s.persistent parameters
    s.submit ρ σ = ⟨sent.1, s.rebind ρ, sent.2⟩ := by
  unfold submit
  dsimp only
  rw [applied]
  rfl

theorem perform_of_submit_error {ρ : Valuation} {s s' : Statement M} {σ σ' : Session} {e : Error}
    (failed : s.submit ρ σ = ⟨.error e, s', σ'⟩) (c : Call) : c.perform ρ s σ = ⟨.error e, s', σ'⟩ := by
  cases c with
  | fetchAll =>
    rw [Call.perform, fetchAll, failed]
    rfl
  | fetchOptional =>
    rw [Call.perform, fetchOptional, failed]
    rfl
  | fetchOne =>
    rw [Call.perform, fetchOne, fetchOptional, failed]
    rfl
  | execute =>
    rw [Call.perform, execute, failed]
    rfl

/-- What cannot be sent changes nothing but the slots of variables and the log. -/
theorem perform_of_refused {ρ : Valuation} {s : Statement M} {e : Error}
    (refused : (s.rebind ρ).inputs.parameters = .error e) (c : Call) (σ : Session) :
    c.perform ρ s σ = ⟨.error e, s.rebind ρ, σ.log (.executing s.sql (s.rebind ρ).values)⟩ :=
  perform_of_submit_error (submit_of_refused refused σ) c

/-- A statement is sent at most once, with what its slots hold, and once if it is answered. -/
theorem executed_submit (ρ : Valuation) (s : Statement M) (σ : Session) :
    ∃ sent, (s.submit ρ σ).session.executed = σ.executed ++ sent ∧ sent.length ≤ 1 ∧
      (∀ parameters ∈ sent, (s.rebind ρ).inputs.parameters = .ok parameters) ∧
      ∀ answer, (s.submit ρ σ).result = .ok answer → ∃ parameters, sent = [parameters] := by
  cases applied : (s.rebind ρ).inputs.parameters with
  | error e =>
    rw [submit_of_refused applied]
    exact ⟨[], (List.append_nil _).symm, by simp, by simp, by simp⟩
  | ok parameters =>
    rw [submit_of_applied applied]
    have executed := (σ.log (.executing s.sql (s.rebind ρ).values)).executed_run s.sql s.persistent parameters
    dsimp only
    generalize Session.run _ _ _ _ = ran at executed ⊢
    obtain ⟨result, after⟩ := ran
    cases result with
    | error e => exact ⟨[], executed, by simp, by simp, by simp⟩
    | ok answer => exact ⟨[parameters], executed, by simp, by simp, by simp⟩

/-- A call succeeds only if its submission was answered. -/
theorem result_submit_of_perform {c : Call} {ρ : Valuation} {s : Statement M} {σ : Session}
    (succeeded : (c.perform ρ s σ).result = .ok ()) : ∃ answer, (s.submit ρ σ).result = .ok answer := by
  obtain ⟨result, submitted⟩ := submit_eq ρ s σ
  cases result with
  | error e =>
    rw [perform_of_submit_error submitted] at succeeded
    cases succeeded
  | ok answer => exact ⟨answer, by rw [submitted]⟩

/-- What an execution can leave apart from its result: the rebound statement, whose output slots received
some rows of the answer or none, and the connection after that answer. -/
def Ends (ρ : Valuation) (s : Statement M) (σ : Session) (s' : Statement M) (σ' : Session) : Prop :=
  ∃ outputs, s.query.Receives s.outputs outputs ∧ s' = { s.rebind ρ with outputs } ∧
    (s.submit ρ σ).session.Drains σ'

theorem ends_fetchAll (ρ : Valuation) (s : Statement M) (σ : Session) :
    Ends ρ s σ (s.fetchAll ρ σ).statement (s.fetchAll ρ σ).session := by
  obtain ⟨result, submitted⟩ := submit_eq ρ s σ
  unfold fetchAll
  rw [submitted]
  cases result with
  | error e => exact ⟨_, .nothing, rfl, .untouched⟩
  | ok answer =>
    have received : s.query.Receives s.outputs (s.query.readRows s.outputs answer.rows).1 := .rows _
    dsimp only [rebind]
    split <;> rename_i read <;> rw [read] at received
    · exact ⟨_, received, rfl, .untouched⟩
    · have drained : (s.submit ρ σ).session.Drains (s.submit ρ σ).session.finish.2 := .finished
      have reported (e : Event) : (s.submit ρ σ).session.Drains ((s.submit ρ σ).session.finish.2.log e) :=
        .logged e
      split <;> rename_i ending
      · rw [ending] at drained
        exact ⟨_, received, rfl, drained⟩
      · rw [ending] at reported
        exact ⟨_, received, rfl, reported _⟩

theorem ends_fetchOptional (ρ : Valuation) (s : Statement M) (σ : Session) :
    Ends ρ s σ (s.fetchOptional ρ σ).statement (s.fetchOptional ρ σ).session := by
  obtain ⟨result, submitted⟩ := submit_eq ρ s σ
  unfold fetchOptional
  rw [submitted]
  cases result with
  | error e => exact ⟨_, .nothing, rfl, .untouched⟩
  | ok answer =>
    have drained := (s.submit ρ σ).session.drains_firstRow answer
    dsimp only
    split <;> rename_i first <;> rw [first] at drained
    · exact ⟨_, .nothing, rfl, drained⟩
    · exact ⟨_, .nothing, rfl, drained⟩
    · exact ⟨_, .row _, rfl, drained⟩

theorem ends_fetchOne (ρ : Valuation) (s : Statement M) (σ : Session) :
    Ends ρ s σ (s.fetchOne ρ σ).statement (s.fetchOne ρ σ).session := by
  have ended := ends_fetchOptional ρ s σ
  unfold fetchOne
  split <;> rename_i fetched <;> rw [fetched] at ended <;> exact ended

theorem ends_execute (ρ : Valuation) (s : Statement M) (σ : Session) :
    Ends ρ s σ (s.execute ρ σ).statement (s.execute ρ σ).session := by
  obtain ⟨result, submitted⟩ := submit_eq ρ s σ
  unfold execute
  rw [submitted]
  cases result with
  | error e => exact ⟨_, .nothing, rfl, .untouched⟩
  | ok answer =>
    have drained : (s.submit ρ σ).session.Drains (s.submit ρ σ).session.finish.2 := .finished
    dsimp only
    split <;> rename_i ending <;> rw [ending] at drained <;> exact ⟨_, .nothing, rfl, drained⟩

/-- Every call rebinds the statement, submits it once, and may read the answer to its end. -/
theorem ends_perform (c : Call) (ρ : Valuation) (s : Statement M) (σ : Session) :
    Ends ρ s σ (c.perform ρ s σ).statement (c.perform ρ s σ).session := by
  cases c with
  | fetchAll => exact ends_fetchAll ρ s σ
  | fetchOptional => exact ends_fetchOptional ρ s σ
  | fetchOne => exact ends_fetchOne ρ s σ
  | execute => exact ends_execute ρ s σ

def Leaves (ρ : Valuation) (s : Statement M) (σ : Session) (s' : Statement M) (σ' : Session) : Prop :=
  (∃ outputs, s' = { s.rebind ρ with outputs }) ∧ σ'.traffic = (s.submit ρ σ).session.traffic

theorem leaves_perform (c : Call) (ρ : Valuation) (s : Statement M) (σ : Session) :
    Leaves ρ s σ (c.perform ρ s σ).statement (c.perform ρ s σ).session := by
  obtain ⟨outputs, _, same, drained⟩ := ends_perform c ρ s σ
  exact ⟨⟨outputs, same⟩, drained.traffic⟩

end Statement

namespace Query

theorem values_values (q : Query M) (r r' : Record M) : (q.values r).values r' = q.values r' := by
  cases q <;> rfl

@[simp] theorem render_values (q : Query M) (r : Record M) : (q.values r).render = q.render := by
  cases q <;> rfl

@[simp] theorem inputCount_values (q : Query M) (r : Record M) :
    (q.values r).inputCount = q.inputCount := by
  cases q <;> rfl

@[simp] theorem wordings_values (q : Query M) (r : Record M) : (q.values r).wordings = q.wordings := by
  cases q <;> rfl

@[simp] theorem rebind_values (q : Query M) (r : Record M) (ρ : Valuation) :
    (q.values r).rebind ρ = q.rebind ρ := by
  cases q <;> rfl

end Query

theorem Column.bindAll_claims (ρ : Valuation) (r : Record M) (record : Option (Record M))
    (columns : List (Column M)) :
    bindAll r columns 0 ⟨(claims record columns).map (Claim.slot ρ)⟩ =
      ⟨(claims (some r) columns).map (Claim.slot ρ)⟩ := by
  rw [bindAll_eq_overlay ρ, Inputs.overlay_eq_zipWith (by simp [claims])]
  simp only [claims, List.map_map, List.zipWith_map, List.zipWith_self]
  rfl

namespace Statement

/-- Binding a record fills the slots as the query with that record claims them. -/
theorem inputs_bindRecord {ρ : Valuation} {s : Statement M} {asked : Query M}
    (record : asked = s.query ∨ ∃ r, asked = s.query.values r)
    (filled : s.inputs = ⟨asked.claims.map (Claim.slot ρ)⟩) (r : Record M) :
    (s.bindRecord r).inputs = ⟨(asked.values r).claims.map (Claim.slot ρ)⟩ := by
  unfold bindRecord
  cases query : s.query with
  | insert t selection first =>
    have insert : ∃ last, asked = .insert t selection last := by
      rw [query] at record
      rcases record with same | ⟨r', same⟩
      · exact ⟨first, same⟩
      · exact ⟨some r', same⟩
    obtain ⟨last, rfl⟩ := insert
    simp only [filled]
    exact Column.bindAll_claims ρ r last selection.columns
  | select | update | delete | filtered | assigned | limited =>
    have same : asked = s.query := by
      rcases record with same | ⟨r', same⟩
      · exact same
      · rw [same, query]
        rfl
    rw [same, query] at filled ⊢
    exact filled

theorem query_bindRecord (s : Statement M) (r : Record M) : (s.bindRecord r).query = s.query := by
  unfold bindRecord
  split <;> rfl

theorem sql_bindRecord (s : Statement M) (r : Record M) : (s.bindRecord r).sql = s.sql := by
  unfold bindRecord
  split <;> rfl

theorem inputs_rebind {ρ : Valuation} {s : Statement M} {asked : Query M}
    (record : asked = s.query ∨ ∃ r, asked = s.query.values r)
    (filled : s.inputs = ⟨asked.claims.map (Claim.slot ρ)⟩) (ρ' : Valuation) :
    (s.rebind ρ').inputs = ⟨asked.claims.map (Claim.slot ρ')⟩ := by
  have same : s.query.rebind ρ' = asked.rebind ρ' := by
    rcases record with same | ⟨r, same⟩
    · rw [same]
    · rw [same, Query.rebind_values]
  rw [rebind, same, filled]
  exact asked.rebind_bind ρ ρ'

end Statement

/-- One step in the use of a statement. A call meets any session, so any replies. -/
inductive Action (M : Model) where
  | set {τ : FieldType} (v : Variable τ) (x : τ.Val)
  | update {τ : FieldType} (v : Variable τ) (f : τ.Val → τ.Val)
  | rebind
  | bindRecord (r : Record M)
  | persist (persistent : Bool)
  | call (c : Call) (σ : Session)

/-- `current` holds the variables, `read` what they held when the statement last read them, and
`asked` is the query with the record that was bound last. -/
structure Moment (M : Model) where
  current : Valuation
  read : Valuation
  asked : Query M
  statement : Statement M

namespace Moment

def start (ρ : Valuation) (q : Query M) (s : Statement M) : Moment M :=
  ⟨ρ, ρ, q, s⟩

def step (m : Moment M) : Action M → Moment M
  | .set v x => { m with current := m.current.set v x }
  | .update v f => { m with current := m.current.set v (f (m.current.get _ v)) }
  | .rebind => { m with read := m.current, statement := m.statement.rebind m.current }
  | .bindRecord r => { m with asked := m.asked.values r, statement := m.statement.bindRecord r }
  | .persist persistent => { m with statement := m.statement.setPersistent persistent }
  | .call c σ => { m with read := m.current, statement := (c.perform m.current m.statement σ).statement }

def run (m : Moment M) (actions : List (Action M)) : Moment M :=
  actions.foldl step m

/-- What every step preserves holds after any run. -/
theorem preserved_run {P : Moment M → Prop} (preserved : ∀ m a, P m → P (m.step a)) {m : Moment M} (holds : P m)
    (actions : List (Action M)) : P (m.run actions) := by
  induction actions generalizing m with
  | nil => exact holds
  | cons a rest ih => exact ih (preserved m a holds)

/-- The statement keeps its query and its text, and each slot holds what its claim says. -/
structure Filled (q : Query M) (sql : String) (m : Moment M) : Prop where
  query : m.statement.query = q
  sql : m.statement.sql = sql
  record : m.asked = q ∨ ∃ r, m.asked = q.values r
  inputs : m.statement.inputs = ⟨m.asked.claims.map (Claim.slot m.read)⟩

namespace Filled

variable {q : Query M} {sql : String} {m : Moment M}

theorem recorded (h : m.Filled q sql) :
    m.asked = m.statement.query ∨ ∃ r, m.asked = m.statement.query.values r := by
  rw [h.query]
  exact h.record

theorem step (h : m.Filled q sql) (a : Action M) : (m.step a).Filled q sql := by
  cases a with
  | set v x => exact ⟨h.query, h.sql, h.record, h.inputs⟩
  | update v f => exact ⟨h.query, h.sql, h.record, h.inputs⟩
  | rebind => exact ⟨h.query, h.sql, h.record, Statement.inputs_rebind h.recorded h.inputs m.current⟩
  | bindRecord r =>
    have record : m.asked.values r = q.values r := by
      rcases h.record with same | ⟨r', same⟩
      · rw [same]
      · rw [same, Query.values_values]
    exact ⟨(m.statement.query_bindRecord r).trans h.query, (m.statement.sql_bindRecord r).trans h.sql,
      .inr ⟨r, record⟩, Statement.inputs_bindRecord h.recorded h.inputs r⟩
  | persist persistent => exact ⟨h.query, h.sql, h.record, h.inputs⟩
  | call c σ =>
    obtain ⟨⟨outputs, same⟩, _⟩ := Statement.leaves_perform c m.current m.statement σ
    have inputs := Statement.inputs_rebind h.recorded h.inputs m.current
    refine ⟨?_, ?_, h.record, ?_⟩
    · exact (congrArg Statement.query same).trans h.query
    · exact (congrArg Statement.sql same).trans h.sql
    · exact (congrArg Statement.inputs same).trans inputs

theorem run (h : m.Filled q sql) (actions : List (Action M)) : (m.run actions).Filled q sql :=
  preserved_run (fun _ a filled => filled.step a) h actions

theorem inputs_perform (h : m.Filled q sql) (c : Call) (σ : Session) :
    (c.perform m.current m.statement σ).statement.inputs = ⟨m.asked.claims.map (Claim.slot m.current)⟩ :=
  (h.step (.call c σ)).inputs

theorem rendered (h : m.Filled q sql) (rendered : q.render = .ok sql) : m.asked.render = .ok sql := by
  rcases h.record with same | ⟨r, same⟩
  · rw [same, rendered]
  · rw [same, Query.render_values, rendered]

theorem inputCount (h : m.Filled q sql) : m.asked.inputCount = q.inputCount := by
  rcases h.record with same | ⟨r, same⟩
  · rw [same]
  · rw [same, Query.inputCount_values]

theorem wordings (h : m.Filled q sql) : m.asked.wordings = q.wordings := by
  rcases h.record with same | ⟨r, same⟩
  · rw [same]
  · rw [same, Query.wordings_values]

theorem length (h : m.Filled q sql) : m.statement.inputs.length = q.inputCount := by
  rw [h.inputs, Inputs.length, List.length_map, Query.length_claims, h.inputCount]

end Filled

/-- What was prepared stays filled with what its claims say. -/
theorem filled_run {ρ : Valuation} {q : Query M} {s : Statement M}
    (prepared : Statement.ofQuery ρ q = .ok s)
    (actions : List (Action M)) : ((start ρ q s).run actions).Filled q s.sql := by
  obtain ⟨_, _, query, inputs⟩ := Statement.ofQuery_inv prepared
  have first : (start ρ q s).Filled q s.sql := ⟨query, rfl, .inl rfl, inputs⟩
  exact first.run actions

end Moment

end PreparedSql
