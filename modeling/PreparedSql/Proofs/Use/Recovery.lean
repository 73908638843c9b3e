import PreparedSql.Proofs.Slots.Typed
import PreparedSql.Proofs.Use.Coherence
import PreparedSql.Proofs.Use.Served

/-!
# Recovery

An execution of which a slot cannot be sent fails before anything is sent. Main statement: it leaves
the statement as rebinding does, and once every slot can be sent again, whatever happened in between,
an execution sends what a statement prepared at that moment sends (`Moment.unspoiled_run`).
-/

namespace PreparedSql

open Calendar Text

variable {M : Model}

/-- The slot holds NULL or a value, and a date only if the client can encode it. -/
def InputSlot.Sendable (s : InputSlot) : Prop :=
  ∃ kind value, s = .bound kind value ∧
    ∀ w, value = .of .dateTime w → ∃ d, WireTime.ofDateTime d = w ∧ d.IsSendable

theorem Value.exists_datum (kind : Kind) {value : Value}
    (real : ∀ w, value = .of .dateTime w → ∃ d, WireTime.ofDateTime d = w ∧ d.IsSendable) :
    ∃ p, value.toDatum kind = .ok p ∧ p.Sendable := by
  cases value with
  | null => exact ⟨_, rfl, Datum.sendable_null kind⟩
  | of own data =>
    cases own with
    | dateTime =>
      obtain ⟨d, same, sendable⟩ := real data rfl
      have converted := WireTime.toDateTime_eq_ok_iff.2 same
      refine ⟨⟨.dateTime, some d⟩, by simp [toDatum, Kind.tryTime, converted], ?_⟩
      intro d' date
      cases date
      exact sendable
    | _ =>
      refine ⟨_, rfl, ?_⟩
      intro d date
      cases date

/-- Sendable slots are sent, and the client can encode each of them. -/
theorem Inputs.parametersFrom_of_sendable (index : Nat) {slots : List InputSlot}
    (sendable : ∀ s ∈ slots, s.Sendable) :
    ∃ parameters, parametersFrom index slots = .ok parameters ∧ ∀ p ∈ parameters, p.Sendable := by
  induction slots generalizing index with
  | nil => exact ⟨[], rfl, by simp⟩
  | cons s rest ih =>
    rw [List.forall_mem_cons] at sendable
    obtain ⟨kind, value, rfl, real⟩ := sendable.1
    obtain ⟨p, sent, first⟩ := Value.exists_datum kind real
    obtain ⟨more, others, later⟩ := ih (index + 1) sendable.2
    exact ⟨p :: more, parametersFrom_bound_eq_ok_iff.2 ⟨p, more, sent, others, rfl⟩,
      List.forall_mem_cons.2 ⟨first, later⟩⟩

theorem Inputs.parametersFrom_error {index : Nat} {slots : List InputSlot} {e : Error}
    (refused : parametersFrom index slots = .error e) :
    (∃ i, e = .unboundSlot i) ∨ ∃ date, e = .invalidDateTime date := by
  by_cases member : .unbound ∈ slots
  · cases (parametersFrom_eq_error_iff_of_unbound member).1 refused with
    | unboundSlot first real => exact .inl ⟨_, rfl⟩
    | invalidDateTime first unreal before => exact .inr ⟨_, rfl⟩
  · obtain ⟨_, w, _, rfl⟩ := (parametersFrom_eq_error_iff member).1 refused
    exact .inr ⟨_, rfl⟩

namespace Session

variable {σ : Session}

theorem Reached.submit (reached : σ.Reached) (ρ : Valuation) (s : Statement M) :
    (s.submit ρ σ).session.Reached := by
  cases applied : (s.rebind ρ).inputs.parameters with
  | error e =>
    rw [Statement.submit_of_refused applied]
    exact reached.log _
  | ok parameters =>
    rw [Statement.submit_of_applied applied]
    exact (reached.log _).run _ _ _

theorem Reached.drains {after : Session} (reached : σ.Reached) (drains : σ.Drains after) : after.Reached := by
  cases drains with
  | untouched => exact reached
  | finished => exact reached.finish
  | logged e => exact reached.finish.log e

theorem Reached.perform (reached : σ.Reached) (c : Call) (ρ : Valuation) (s : Statement M) :
    (c.perform ρ s σ).session.Reached := by
  obtain ⟨_, _, _, drains⟩ := Statement.ends_perform c ρ s σ
  exact (reached.submit ρ s).drains drains

variable {sql : String} {persistent : Bool} {parameters : List (Datum DateTime)}

theorem Sends.of_log {e : Event} {result : Except Error Unit} {traffic : List Traffic}
    (sends : (σ.log e).Sends sql persistent parameters result traffic) :
    σ.Sends sql persistent parameters result traffic := by
  have reply : (σ.log e).nextReply.1 = σ.nextReply.1 := nextReply_congr rfl
  cases sends with
  | waiting unread => exact .waiting unread
  | refused unread unprepared refusal => exact .refused unread unprepared (by rwa [reply] at refusal)
  | once unread ready executed => exact .once unread (by rwa [reply] at ready) executed

/-- What was executed stays executed, whatever becomes of the answer. -/
theorem Sends.answered {traffic : List Traffic}
    (sends : σ.Sends sql persistent parameters (.ok ()) traffic) (result : Except Error Unit) :
    σ.Sends sql persistent parameters result traffic := by
  cases sends with
  | once unread ready executed => exact .once unread ready executed

/-- While an error waits on the connection, a call reports it and sends nothing. -/
theorem Sends.of_unread {result : Except Error Unit} {traffic : List Traffic}
    (sends : σ.Sends sql persistent parameters result traffic) {e : ServerError}
    (unread : σ.unread = some e) : result = .error e.reported ∧ traffic = σ.traffic := by
  cases sends with
  | waiting same =>
    cases unread.symm.trans same
    exact ⟨rfl, rfl⟩
  | refused free => cases unread.symm.trans free
  | once free => cases unread.symm.trans free

/-- A call whose slots can be sent does what one execution of the statement comes to. -/
theorem sends_perform (reached : σ.Reached) {ρ : Valuation} {s : Statement M}
    (applied : (s.rebind ρ).inputs.parameters = .ok parameters)
    (sendable : firstUnsendable parameters = none) (c : Call) :
    σ.Sends s.sql s.persistent parameters (c.perform ρ s σ).result (c.perform ρ s σ).session.traffic := by
  have submitted : σ.Sends s.sql s.persistent parameters ((s.submit ρ σ).result.map fun _ => ())
      (s.submit ρ σ).session.traffic := by
    rw [Statement.submit_of_applied applied]
    exact (sends_run (reached.log _) _ _ sendable).of_log
  obtain ⟨_, silent⟩ := Statement.leaves_perform c ρ s σ
  obtain ⟨result, s', σ', outcome⟩ : ∃ result s' σ', s.submit ρ σ = ⟨result, s', σ'⟩ := ⟨_, _, _, rfl⟩
  rw [outcome] at submitted silent
  cases result with
  | error e =>
    rw [Statement.perform_of_submit_error outcome c]
    exact submitted
  | ok answer =>
    rw [silent]
    exact submitted.answered _

end Session

namespace Moment

def Sendable (m : Moment M) : Prop :=
  ∀ c ∈ m.asked.claims, (Claim.slot m.current c).Sendable

/-- A statement prepared now has the text `sql`, and a call does what one execution of it comes to. -/
def Resumes (sql : String) (m : Moment M) : Prop :=
  ∃ fresh parameters, Statement.ofQuery m.current m.asked = .ok fresh ∧ fresh.sql = sql ∧
    fresh.inputs.parameters = .ok parameters ∧ ∀ (c : Call) (σ : Session), σ.Reached →
      let after := c.perform m.current m.statement σ
      σ.Sends fresh.sql m.statement.persistent parameters after.result after.session.traffic

/-- At a moment in the use of `s`: a call of which a slot cannot be sent reports so, sends nothing and
uses no reply, and leaves the statement rebound; and every later moment at which all slots can be sent
is as if nothing had failed. -/
structure Unspoiled (s : Statement M) (m : Moment M) : Prop where
  reason : ∀ e, (m.statement.rebind m.current).inputs.parameters = .error e →
    (∃ i, e = .unboundSlot i) ∨ ∃ date, e = .invalidDateTime date
  refused : ∀ e, (m.statement.rebind m.current).inputs.parameters = .error e →
    ∀ (c : Call) (σ : Session), c.perform m.current m.statement σ =
      ⟨.error e, m.statement.rebind m.current,
        σ.log (.executing s.sql (m.statement.rebind m.current).values)⟩
  recovers : ∀ more : List (Action M), (m.run more).Sendable → (m.run more).Resumes s.sql

/-- Once every slot can be sent, a call is what it would be for a new statement. -/
theorem Filled.resumes {q : Query M} {sql : String} {m : Moment M} (h : m.Filled q sql)
    (rendered : q.render = .ok sql) (same : placeholderCount sql = q.inputCount) (sendable : m.Sendable) :
    m.Resumes sql := by
  obtain ⟨fresh, prepared⟩ := h.prepares rendered same
  obtain ⟨text, _, _, inputs⟩ := Statement.ofQuery_inv prepared
  obtain ⟨parameters, sent, encodable⟩ := Inputs.parametersFrom_of_sendable 0
    (List.forall_mem_map.2 sendable)
  have unsendable := firstUnsendable_of_sendable encodable
  have applied : (m.statement.rebind m.current).inputs.parameters = .ok parameters := by
    rw [Statement.inputs_rebind h.recorded h.inputs]
    exact sent
  have here : fresh.sql = sql := by
    cases (h.rendered rendered).symm.trans text
    rfl
  refine ⟨fresh, parameters, prepared, here, by rw [inputs]; exact sent, ?_⟩
  intro c σ reached after
  rw [here, ← h.sql]
  exact Session.sends_perform reached applied unsendable c

/-- A statement is not spoiled by failures: what cannot be sent leaves no trace, and what can be sent
again is sent as by a new statement. -/
theorem unspoiled_run {ρ : Valuation} {q : Query M} {s : Statement M}
    (prepared : Statement.ofQuery ρ q = .ok s) (actions : List (Action M)) :
    ((start ρ q s).run actions).Unspoiled s := by
  have filled := filled_run prepared actions
  obtain ⟨rendered, same, _, _⟩ := Statement.ofQuery_inv prepared
  generalize (start ρ q s).run actions = m at filled ⊢
  refine ⟨fun e => Inputs.parametersFrom_error, ?_, ?_⟩
  · intro e refused c σ
    rw [Statement.perform_of_refused refused, filled.sql]
  · intro more sendable
    exact (filled.run more).resumes rendered same sendable

end Moment

def Shelf.since : Variable (.optional .dateTime) := ⟨"since"⟩

def Shelf.overdue : Query Shelf.book :=
  .filtered Shelf.books.select (.compare .ge Shelf.due (.var Shelf.since))

def Shelf.interrupted : Reply where
  answer := { rows := [[⟨.integerUnsigned, none⟩, ⟨.text, none⟩, ⟨.dateTime, none⟩]] }
  ending := some ⟨1317, some "70100", "Query execution was interrupted"⟩

namespace Moment

theorem unspoiled_run_overdue :
    ∃ s, Statement.ofQuery Valuation.default Shelf.overdue = .ok s ∧
      ((start Valuation.default Shelf.overdue s).run [.call .execute {},
        .set Shelf.since (some ({} : BrokenDown)), .call .fetchAll {}]).Unspoiled s := by
  have rendered : Shelf.overdue.render = .ok _ := rfl
  have prepared : Statement.ofQuery Valuation.default Shelf.overdue = .ok _ :=
    Statement.ofQuery_eq_ok rendered (by decide)
  exact ⟨_, prepared, unspoiled_run prepared _⟩

/-- An execution that could be sent again need not be: the session may still have to report how an
answer ended that was not read to its end. -/
theorem not_always_sent_again :
    ¬ ∀ (M : Model) (ρ : Valuation) (q : Query M) (s : Statement M), Statement.ofQuery ρ q = .ok s →
      ∀ (before : List (Action M)) (c : Call) (σ : Session) (e : Error),
        let m := (start ρ q s).run before
        (m.statement.rebind m.current).inputs.parameters = .error e →
          ∀ (more : List (Action M)) (c' : Call) (σ' : Session), σ'.Reached →
            let later := (m.step (.call c σ)).run more
            later.Sendable → ∃ fresh parameters,
              Statement.ofQuery later.current later.asked = .ok fresh ∧
                fresh.inputs.parameters = .ok parameters ∧
                  (c'.perform later.current later.statement σ').session.served.executed =
                    σ'.served.executed ++ [(some fresh.sql, parameters)] := by
  intro always
  obtain ⟨s, prepared, unread⟩ : ∃ s, Statement.ofQuery Valuation.default Shelf.overdue = .ok s ∧
      (Call.fetchOptional.perform Valuation.default s { replies := [Shelf.interrupted] }).session.unread =
        Shelf.interrupted.ending := by
    have rendered : Shelf.overdue.render = .ok _ := rfl
    exact ⟨_, Statement.ofQuery_eq_ok rendered (by decide), rfl⟩
  obtain ⟨rendered, same, _, _⟩ := Statement.ofQuery_inv prepared
  let asked : Action Shelf.book := .call .fetchOptional { replies := [Shelf.interrupted] }
  let m := (start Valuation.default Shelf.overdue s).run [asked, .set Shelf.since (some ({} : BrokenDown))]
  have filled : m.Filled Shelf.overdue s.sql := filled_run prepared _
  have refused : (m.statement.rebind m.current).inputs.parameters =
      .error (.invalidDateTime (.wire { year := 1900, month := 1 })) := by
    rw [Statement.inputs_rebind filled.recorded filled.inputs]
    rfl
  let σ := (Call.fetchOptional.perform Valuation.default s { replies := [Shelf.interrupted] }).session
  let later := (m.step (.call .fetchAll σ)).run [.set Shelf.since none]
  have sendable : later.Sendable := by
    intro c member
    have only : c ∈ [some (.var _ Shelf.since)] := member
    rw [List.mem_singleton.1 only]
    exact ⟨.dateTime, .null, rfl, fun w unreal => nomatch unreal⟩
  let σ' := (Call.fetchAll.perform m.current m.statement σ).session
  have reached : σ'.Reached := ((Session.Reached.opened.expect _).perform _ _ _).perform _ _ _
  have waiting : σ'.unread = Shelf.interrupted.ending := by
    rw [← unread]
    exact congrArg (fun o => o.session.unread) (Statement.perform_of_refused refused .fetchAll σ)
  obtain ⟨fresh, parameters, _, _, executed⟩ :=
    always _ _ _ _ prepared _ .fetchAll σ _ refused [.set Shelf.since none] .fetchAll σ' reached sendable
  obtain ⟨_, _, _, _, _, sends⟩ := ((filled.step _).run _).resumes rendered same sendable
  obtain ⟨_, silent⟩ := (sends .fetchAll σ' reached).of_unread waiting
  rw [Session.served_congr silent] at executed
  simp at executed

end Moment

end PreparedSql
