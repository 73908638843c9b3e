import PreparedSql.Proofs.Use.Moments

/-!
# Executing again

A statement that was prepared long ago sends what a statement prepared at that moment would send,
once for each call that succeeds. Main statement: this holds for every execution after every use of
the statement, and no step writes a slot that is not its own.
-/

namespace PreparedSql

open Text

variable {M : Model}

def Parameter.isVariable : Parameter M → Bool
  | var .. | count (.var _) => true
  | literal .. | field .. | count (.fixed _) => false

def Parameter.isField : Parameter M → Bool
  | field .. => true
  | literal .. | var .. | count _ => false

/-- The steps that write the slot of a parameter: whatever reads the variables, and a record for its
fields. -/
def Action.writes (a : Action M) (p : Parameter M) : Bool :=
  match a with
  | rebind | call .. => p.isVariable
  | bindRecord _ => p.isField
  | set .. | update .. | persist _ => false

theorem Parameter.slot_eq_of_not_variable {p : Parameter M} (constant : p.isVariable = false)
    (ρ ρ' : Valuation) :
    p.slot ρ = p.slot ρ' := by
  cases p with
  | literal τ x => rfl
  | var τ v => cases constant
  | field c record => cases record <;> rfl
  | count l =>
    cases l with
    | fixed count => rfl
    | var v => cases constant

theorem Column.getElem?_claims {record : Option (Record M)} {columns : List (Column M)} {i : Nat}
    {p : Parameter M} (claimed : (claims record columns)[i]? = some (some p)) :
    ∃ c, columns[i]? = some c ∧ p = .field c record := by
  rw [claims, List.getElem?_map, Option.map_eq_some_iff] at claimed
  obtain ⟨c, found, same⟩ := claimed
  cases same
  exact ⟨c, found, rfl⟩

/-- A record changes what the fields are, not where they are. -/
theorem Query.claims_values {q : Query M} {i : Nat} {p : Parameter M}
    (claimed : q.claims[i]? = some (some p)) (r : Record M) :
    ∃ p', (q.values r).claims[i]? = some (some p') ∧ ∀ a : Action M, a.writes p' = a.writes p := by
  cases q with
  | insert t s record =>
    obtain ⟨c, found, rfl⟩ := Column.getElem?_claims claimed
    refine ⟨.field c (some r), by simp [values, claims, Column.claims, found], fun a => ?_⟩
    cases a <;> rfl
  | select | update | delete | filtered | assigned | limited => exact ⟨p, claimed, fun a => rfl⟩

/-- A record writes no slot but those of fields. -/
theorem Query.values_eq_of_not_writes {q : Query M} {i : Nat} {p : Parameter M} {r : Record M}
    (claimed : q.claims[i]? = some (some p)) (quiet : (Action.bindRecord r).writes p = false) :
    q.values r = q := by
  cases q with
  | insert t s record =>
    obtain ⟨c, found, rfl⟩ := Column.getElem?_claims claimed
    cases quiet
  | select | update | delete | filtered | assigned | limited => rfl

namespace Statement

theorem session_submit {ρ : Valuation} {s s' : Statement M} (sql : s.sql = s'.sql)
    (inputs : (s.rebind ρ).inputs = (s'.rebind ρ).inputs) (persistent : s.persistent = s'.persistent)
    (σ : Session) : (s.submit ρ σ).session = (s'.submit ρ σ).session := by
  have same : (s.rebind ρ).sql = (s'.rebind ρ).sql := sql
  have kept : (s.rebind ρ).persistent = (s'.rebind ρ).persistent := persistent
  unfold submit values
  dsimp only
  rw [inputs, same, kept]
  cases (s'.rebind ρ).inputs.parameters <;> rfl

end Statement

namespace Moment

variable {q : Query M} {sql : String} {m : Moment M}

namespace Filled

theorem slot?_step (h : m.Filled q sql) {i : Nat} {p : Parameter M}
    (claimed : m.asked.claims[i]? = some (some p))
    {a : Action M} (quiet : a.writes p = false) :
    (m.step a).statement.inputs.slot? i = m.statement.inputs.slot? i := by
  have same : (m.step a).asked = m.asked := by
    cases a with
    | bindRecord r => exact Query.values_eq_of_not_writes claimed quiet
    | set | update | rebind | persist | call => rfl
  have unread : p.slot (m.step a).read = p.slot m.read := by
    cases a with
    | set | update | bindRecord | persist => rfl
    | rebind | call => exact p.slot_eq_of_not_variable quiet _ _
  rw [(h.step a).inputs, h.inputs, same]
  simp [Inputs.slot?, claimed, Claim.slot, unread]

/-- A slot that no step of a run writes stays as it was. -/
theorem slot?_run (h : m.Filled q sql) {i : Nat} {p : Parameter M}
    (claimed : m.asked.claims[i]? = some (some p))
    {actions : List (Action M)} (quiet : ∀ a ∈ actions, a.writes p = false) :
    (m.run actions).statement.inputs.slot? i = m.statement.inputs.slot? i := by
  induction actions generalizing m p with
  | nil => rfl
  | cons a rest ih =>
    have first := h.slot?_step claimed (quiet a List.mem_cons_self)
    have later : ∃ p', (m.step a).asked.claims[i]? = some (some p') ∧
      ∀ b : Action M, b.writes p' = b.writes p := by
      cases a with
      | bindRecord r => exact Query.claims_values claimed r
      | set | update | rebind | persist | call => exact ⟨p, claimed, fun b => rfl⟩
    obtain ⟨p', moved, alike⟩ := later
    have others := ih (h.step a) moved fun b member =>
      (alike b).trans (quiet b (List.mem_cons_of_mem a member))
    exact others.trans first

theorem claimed (h : m.Filled q sql) {i : Nat} {p : Parameter M}
    (claimed : q.claims[i]? = some (some p)) :
    ∃ p', m.asked.claims[i]? = some (some p') ∧ ∀ a : Action M, a.writes p' = a.writes p := by
  rcases h.record with same | ⟨r, same⟩
  · exact ⟨p, by rw [same]; exact claimed, fun a => rfl⟩
  · rw [same]
    exact Query.claims_values claimed r

theorem prepares (h : m.Filled q sql) (rendered : q.render = .ok sql)
    (same : placeholderCount sql = q.inputCount) :
    ∃ fresh, Statement.ofQuery m.current m.asked = .ok fresh :=
  ⟨_, Statement.ofQuery_eq_ok (h.rendered rendered) (same.trans h.inputCount.symm)⟩

/-- What is sent is what a statement prepared at this moment would send. -/
theorem traffic_perform (h : m.Filled q sql) (rendered : q.render = .ok sql) {fresh : Statement M}
    (prepared : Statement.ofQuery m.current m.asked = .ok fresh) (c : Call) (σ : Session) :
    (c.perform m.current m.statement σ).session.traffic =
      (c.perform m.current (fresh.setPersistent m.statement.persistent) σ).session.traffic := by
  obtain ⟨text, _, query, inputs⟩ := Statement.ofQuery_inv prepared
  let again := fresh.setPersistent m.statement.persistent
  obtain ⟨_, old⟩ := Statement.leaves_perform c m.current m.statement σ
  obtain ⟨_, new⟩ := Statement.leaves_perform c m.current again σ
  have sql : m.statement.sql = again.sql := by
    have both : Except.ok sql = .ok fresh.sql := (h.rendered rendered).symm.trans text
    cases both
    exact h.sql
  have slots : (m.statement.rebind m.current).inputs = (again.rebind m.current).inputs := by
    have asked : m.asked = again.query := query.symm
    have filled : again.inputs = ⟨m.asked.claims.map (Claim.slot m.current)⟩ := inputs
    rw [Statement.inputs_rebind h.recorded h.inputs, Statement.inputs_rebind (.inl asked) filled]
  rw [old, new, Statement.session_submit sql slots rfl]

/-- A call sends the slots of the moment at most once, and once if it succeeds. -/
theorem executed_perform (h : m.Filled q sql) {fresh : Statement M}
    (prepared : Statement.ofQuery m.current m.asked = .ok fresh) (c : Call) (σ : Session) :
    let after := c.perform m.current m.statement σ
    ∃ sent, after.session.executed = σ.executed ++ sent ∧ sent.length ≤ 1 ∧
      (∀ parameters ∈ sent, fresh.inputs.parameters = .ok parameters) ∧
      (after.result = .ok () → ∃ parameters, sent = [parameters]) := by
  intro after
  obtain ⟨_, _, _, inputs⟩ := Statement.ofQuery_inv prepared
  obtain ⟨_, silent⟩ := Statement.leaves_perform c m.current m.statement σ
  obtain ⟨sent, executed, once, bound, answered⟩ := Statement.executed_submit m.current m.statement σ
  rw [Statement.inputs_rebind h.recorded h.inputs, ← inputs] at bound
  refine ⟨sent, by rw [Session.executed, silent, ← Session.executed, executed], once, bound, ?_⟩
  intro succeeded
  obtain ⟨answer, result⟩ := Statement.result_submit_of_perform succeeded
  exact answered answer result

end Filled

/-- At a moment in the use of `s`, which was prepared from `q`: what `s` sends is what a statement
prepared now would send, and what a step does not write stays. -/
structure Coherent (q : Query M) (s : Statement M) (m : Moment M) : Prop where
  sends : ∀ (c : Call) (σ : Session), ∃ fresh, Statement.ofQuery m.current m.asked = .ok fresh ∧
    let after := c.perform m.current m.statement σ
    after.statement.inputs = fresh.inputs ∧
      after.session.traffic =
        (c.perform m.current (fresh.setPersistent m.statement.persistent) σ).session.traffic ∧
      ∃ sent, after.session.executed = σ.executed ++ sent ∧ sent.length ≤ 1 ∧
        (∀ parameters ∈ sent, fresh.inputs.parameters = .ok parameters) ∧
        (after.result = .ok () → ∃ parameters, sent = [parameters])
  keeps : ∀ (more : List (Action M)) (i : Nat) (p : Parameter M), q.claims[i]? = some (some p) →
    (∀ a ∈ more, a.writes p = false) → (m.run more).statement.inputs.slot? i = m.statement.inputs.slot? i
  sql : m.statement.sql = s.sql
  length : m.statement.inputs.length = s.inputs.length
  rebind : ∀ ρ, (m.statement.rebind ρ).rebind ρ = m.statement.rebind ρ

theorem coherent_run {ρ : Valuation} {q : Query M} {s : Statement M}
    (prepared : Statement.ofQuery ρ q = .ok s)
    (actions : List (Action M)) : ((start ρ q s).run actions).Coherent q s := by
  have filled := filled_run prepared actions
  obtain ⟨rendered, same, _, inputs⟩ := Statement.ofQuery_inv prepared
  generalize (start ρ q s).run actions = m at filled ⊢
  refine ⟨?_, ?_, filled.sql, ?_, ?_⟩
  · intro c σ
    obtain ⟨fresh, prepared⟩ := filled.prepares rendered same
    obtain ⟨_, _, _, inputs⟩ := Statement.ofQuery_inv prepared
    exact ⟨fresh, prepared, (filled.inputs_perform c σ).trans inputs.symm,
      filled.traffic_perform rendered prepared c σ, filled.executed_perform prepared c σ⟩
  · intro more i p claimed quiet
    obtain ⟨p', moved, alike⟩ := filled.claimed claimed
    exact filled.slot?_run moved fun a member => (alike a).trans (quiet a member)
  · rw [filled.length, inputs, Inputs.length, List.length_map, Query.length_claims]
  · intro ρ
    have slots := m.statement.query.rebind_rebind ρ m.statement.inputs
    exact congrArg (fun inputs => { m.statement with inputs }) slots

theorem coherent_run_renewal :
    ∃ s, Statement.ofQuery Valuation.default Shelf.renewal = .ok s ∧
      ((start Valuation.default Shelf.renewal s).run [.set Shelf.count (5 : UInt64), .call .execute {},
        .update Shelf.first fun n : UInt32 => n + 1, .rebind]).Coherent Shelf.renewal s := by
  have rendered : Shelf.renewal.render = .ok _ := rfl
  have prepared : Statement.ofQuery Valuation.default Shelf.renewal = .ok _ :=
    Statement.ofQuery_eq_ok rendered (by decide)
  exact ⟨_, prepared, coherent_run prepared _⟩

end Moment

end PreparedSql
