import PreparedSql.Proofs.Slots.Sending
import PreparedSql.Proofs.Use.Moments

/-!
# Safety of the caller's conditions

A condition in the caller's words may hold placeholder signs and claim slots, and binds none of
them. Main statement: what is ever sent is aligned with its text, and a statement with words that
miscount is refused at every moment, however the miscounts add up.
-/

namespace PreparedSql

open Text

variable {M : Model}

theorem Claim.length_parameters {claims : List (Claim M)} (full : none ∉ claims) :
    (Claim.parameters claims).length = claims.length := by
  induction claims with
  | nil => rfl
  | cons c rest ih =>
    cases c with
    | none => exact absurd List.mem_cons_self full
    | some p =>
      have others := ih fun member => full (List.mem_cons_of_mem _ member)
      rw [parameters_some, List.length_cons, List.length_cons, others]

/-- If the whole text has as many placeholder signs as there are slots, and all slots are bound, the
words have none of either. -/
theorem Query.plain_of_bound {ρ : Valuation} {q : Query M} {sql : String} (rendered : q.render = .ok sql)
    (same : placeholderCount sql = q.inputCount) (bound : .unbound ∉ q.claims.map (Claim.slot ρ)) :
    ∀ w ∈ q.wordings, w.IsPlain := by
  have full : none ∉ q.claims := by
    intro member
    exact bound (List.mem_map.2 ⟨none, member, rfl⟩)
  have slots := q.inputCount_eq
  have signs := placeholderCount_eq rendered
  have parameters := Claim.length_parameters full
  rw [length_claims] at parameters
  -- Signs and slots both count the parameters once, so what the words add to either is the same,
  -- and it is nothing: a slot that the words claim stays unbound.
  have noSlots : Wording.total Wording.slots q.wordings = 0 := by omega
  have noSigns : Wording.total Wording.signs q.wordings = 0 := by omega
  intro w member
  exact ⟨Wording.total_eq_zero_iff.1 noSlots w member, Wording.total_eq_zero_iff.1 noSigns w member⟩

theorem Statement.parameters_of_executed {ρ : Valuation} {s : Statement M} {c : Call} {σ : Session}
    (executed : (c.perform ρ s σ).session.executed ≠ σ.executed) :
    ∃ parameters, (s.rebind ρ).inputs.parameters = .ok parameters := by
  cases sent : (s.rebind ρ).inputs.parameters with
  | ok parameters => exact ⟨parameters, rfl⟩
  | error e =>
    exact absurd (by rw [perform_of_refused sent]; rfl) executed

namespace Moment

variable {q : Query M} {sql : String} {m : Moment M}

/-- At a moment in the use of a statement for `q`: what can be sent is aligned and so is what a call
sends, and words that miscount are refused, whether the slots are asked for or the statement is
called. -/
structure Safe (q : Query M) (m : Moment M) : Prop where
  aligned : ∀ parameters, m.statement.inputs.parameters = .ok parameters →
    (∀ w ∈ q.wordings, w.IsPlain) ∧ m.asked.Aligned m.read m.statement.sql m.statement.inputs
  sent : ∀ (c : Call) (σ : Session), let after := c.perform m.current m.statement σ
    after.session.executed ≠ σ.executed →
      (∀ w ∈ q.wordings, w.IsPlain) ∧ m.asked.Aligned m.current after.statement.sql after.statement.inputs
  refused : (∃ w ∈ q.wordings, ¬ w.IsPlain) →
    ∃ e, m.statement.inputs.parameters = .error e ∧ Inputs.Reports 0 m.statement.inputs.slots e
  silent : (∃ w ∈ q.wordings, ¬ w.IsPlain) → ∀ (c : Call) (σ : Session),
    let after := c.perform m.current m.statement σ
    ∃ e, after.result = .error e ∧ Inputs.Reports 0 after.statement.inputs.slots e ∧
      after.session.traffic = σ.traffic

namespace Filled

/-- If every slot is bound, the caller's words are plain and the text is aligned with the slots. -/
theorem aligned_of_bound (h : m.Filled q sql) (rendered : q.render = .ok sql)
    (same : placeholderCount sql = q.inputCount) {ρ : Valuation}
    (bound : .unbound ∉ m.asked.claims.map (Claim.slot ρ)) :
    (∀ w ∈ q.wordings, w.IsPlain) ∧ m.asked.Aligned ρ sql ⟨m.asked.claims.map (Claim.slot ρ)⟩ := by
  have text := h.rendered rendered
  have plain := Query.plain_of_bound text (same.trans h.inputCount.symm) bound
  have aligned := Query.aligned_of_plain ρ text plain
  rw [h.wordings] at plain
  exact ⟨plain, aligned⟩

/-- Words that miscount leave some slot unbound, whatever the other counts are. -/
theorem unbound_of_not_plain (h : m.Filled q sql) (rendered : q.render = .ok sql)
    (same : placeholderCount sql = q.inputCount) (miscounted : ∃ w ∈ q.wordings, ¬ w.IsPlain)
    (ρ : Valuation) :
    .unbound ∈ m.asked.claims.map (Claim.slot ρ) := by
  apply Classical.byContradiction
  intro bound
  obtain ⟨w, member, wrong⟩ := miscounted
  exact wrong ((h.aligned_of_bound rendered same bound).1 w member)

theorem safe (h : m.Filled q sql) (rendered : q.render = .ok sql)
    (same : placeholderCount sql = q.inputCount) :
    m.Safe q := by
  refine ⟨?_, ?_, ?_, ?_⟩
  · intro parameters sent
    have bound := Inputs.bound_of_parameters sent
    rw [h.inputs] at bound
    rw [h.inputs, h.sql]
    exact h.aligned_of_bound rendered same bound
  · intro c σ after executed
    have inputs : after.statement.inputs = _ := h.inputs_perform c σ
    have text : after.statement.sql = sql := (h.step (.call c σ)).sql
    obtain ⟨parameters, sent⟩ := Statement.parameters_of_executed executed
    have bound := Inputs.bound_of_parameters sent
    rw [Statement.inputs_rebind h.recorded h.inputs] at bound
    rw [inputs, text]
    exact h.aligned_of_bound rendered same bound
  · intro miscounted
    have unbound := h.unbound_of_not_plain rendered same miscounted m.read
    rw [h.inputs]
    exact Inputs.parameters_of_unbound unbound
  · intro miscounted c σ after
    have inputs : after.statement.inputs = _ := h.inputs_perform c σ
    have unbound : .unbound ∈ after.statement.inputs.slots := by
      rw [inputs]
      exact h.unbound_of_not_plain rendered same miscounted m.current
    obtain ⟨e, refused, reports⟩ := Inputs.parameters_of_unbound unbound
    rw [inputs, ← Statement.inputs_rebind h.recorded h.inputs] at refused
    have same : after = _ := Statement.perform_of_refused refused c σ
    exact ⟨e, by rw [same], reports, by rw [same]; rfl⟩

end Filled

/-- Whatever the caller's words hold and claim, a statement for a query stays safe in use. -/
theorem safe_run {ρ : Valuation} {q : Query M} {s : Statement M}
    (prepared : Statement.ofQuery ρ q = .ok s)
    (actions : List (Action M)) : ((start ρ q s).run actions).Safe q := by
  obtain ⟨rendered, same, _, _⟩ := Statement.ofQuery_inv prepared
  exact (filled_run prepared actions).safe rendered same

end Moment

/-- Looks for a date that does not exist, in the caller's words too: one claims a slot without a
placeholder sign, the other holds a sign without a slot. -/
def Shelf.miscounted : Query Shelf.book :=
  .filtered Shelf.books.select
    (.logical .and
      (.logical .and (.compare .eq Shelf.due (.literal (some ({} : Calendar.BrokenDown))))
        (.written "TRUE" 1 false))
      (.written "?" 0 false))

namespace Moment

theorem safe_run_miscounted :
    ∃ s, Statement.ofQuery Valuation.default Shelf.miscounted = .ok s ∧
      ((start Valuation.default Shelf.miscounted s).run [.rebind, .call .fetchAll {}]).Safe
        Shelf.miscounted := by
  have rendered : Shelf.miscounted.render = .ok _ := rfl
  have prepared : Statement.ofQuery Valuation.default Shelf.miscounted = .ok _ :=
    Statement.ofQuery_eq_ok rendered (by decide)
  exact ⟨_, prepared, safe_run prepared _⟩

/-- Words that miscount need not be reported as an unbound slot: a date that does not exist may
stand before it. -/
theorem not_always_unboundSlot :
    ¬ ∀ (M : Model) (ρ : Valuation) (q : Query M) (s : Statement M), Statement.ofQuery ρ q = .ok s →
      (∃ w ∈ q.wordings, ¬ w.IsPlain) → ∃ i, s.inputs.parameters = .error (.unboundSlot i) := by
  intro always
  have rendered : Shelf.miscounted.render = .ok _ := rfl
  have prepared : Statement.ofQuery Valuation.default Shelf.miscounted = .ok _ :=
    Statement.ofQuery_eq_ok rendered (by decide)
  obtain ⟨i, reported⟩ := always _ _ _ _ prepared ⟨⟨"?", 0, false⟩, by decide, by decide⟩
  cases reported

end Moment

end PreparedSql
