import PreparedSql.Proofs.Parameters.Fields
import PreparedSql.Proofs.Parameters.Wordings
import PreparedSql.Statement.Basic

/-!
# Alignment of placeholders and slots

The placeholder at a position of the text and the slot at that position belong to one operand. Main
statement: a query without conditions in the caller's words whose table maps all fields that it
mentions is prepared, and its text and slots are aligned.
-/

namespace PreparedSql

open Text

variable {M : Model}

namespace Fragment

theorem exists_split {xs : List (Fragment M)} {i : Nat} {p : Parameter M}
    (found : (parameters xs)[i]? = some p) :
    ∃ front back, xs = front ++ .parameter p :: back ∧ (parameters front).length = i := by
  induction xs generalizing i with
  | nil => cases found
  | cons x rest ih =>
    cases x with
    | text sql =>
      obtain ⟨front, back, same, count⟩ := ih found
      exact ⟨.text sql :: front, back, by rw [same]; rfl, count⟩
    | column f =>
      obtain ⟨front, back, same, count⟩ := ih found
      exact ⟨.column f :: front, back, by rw [same]; rfl, count⟩
    | parameter first =>
      cases i with
      | zero =>
        cases found
        exact ⟨[], rest, rfl, rfl⟩
      | succ i =>
        obtain ⟨front, back, same, count⟩ := ih found
        have later : (parameters (.parameter first :: front)).length = i + 1 := by
          rw [parameters_parameter, List.length_cons, count]
        exact ⟨.parameter first :: front, back, by rw [same]; rfl, later⟩

end Fragment

theorem Claim.eq_map_some {claims : List (Claim M)}
    (full : (Claim.parameters claims).length = claims.length) :
    claims = (Claim.parameters claims).map some := by
  induction claims with
  | nil => rfl
  | cons c rest ih =>
    cases c with
    | none =>
      have fewer : (parameters rest).length ≤ rest.length := List.length_filterMap_le _ _
      have same : (parameters (none :: rest)).length = (parameters rest).length := rfl
      rw [same, List.length_cons] at full
      omega
    | some p =>
      rw [parameters_some, List.length_cons, List.length_cons] at full
      rw [parameters_some, List.map_cons, ← ih (by omega)]

theorem Claim.map_of_full {β : Type} (f : Claim M → β) {claims : List (Claim M)}
    (full : (Claim.parameters claims).length = claims.length) :
    claims.map f = (Claim.parameters claims).map fun p => f (some p) := by
  calc
    claims.map f = ((Claim.parameters claims).map some).map f := by rw [← Claim.eq_map_some full]
    _ = (Claim.parameters claims).map fun p => f (some p) := List.map_map

namespace Query

/-- The parameter `p` writes the placeholder number `i` of the text: in front of it stands what the
fragments before `p` write, with `i` placeholders. -/
def Writes (q : Query M) (sql : String) (i : Nat) (p : Parameter M) : Prop :=
  ∃ front back before after, q.fragments = front ++ .parameter p :: back ∧
    Fragment.renderAll q.table front = .ok before ∧ Fragment.renderAll q.table back = .ok after ∧
    sql = before ++ "?" ++ after ∧ placeholderCount before = i

def base : Query M → Query M
  | filtered q _ | assigned q _ | limited q _ => q.base
  | q => q

/-- Text and slots belong together: as many placeholders as slots, and each placeholder is written
by the parameter that its slot holds. The columns to insert take their slots in the order in which
the text names them. -/
structure Aligned (ρ : Valuation) (q : Query M) (sql : String) (b : Inputs) : Prop where
  rendered : q.render = .ok sql
  placeholders : placeholderCount sql = q.inputCount
  slots : b.length = q.inputCount
  parameter : ∀ i < q.inputCount, ∃ p, q.Writes sql i p ∧ b.slot? i = some (p.slot ρ)
  inserted : ∀ t s record, q.base = .insert t s record →
    (∃ rest, sql =
        "INSERT INTO " ++ t.quoted ++ " (" ++ Column.quotedList s.columns ++ ") VALUES (" ++ rest) ∧
      ∀ i c, s.columns[i]? = some c →
        q.Writes sql i (.field c record) ∧ b.slot? i = some ((Parameter.field c record).slot ρ)

/-- With plain words around it, each parameter writes the placeholder of its own number. -/
theorem writes_of_parameter {q : Query M} {sql : String} {i : Nat} {p : Parameter M}
    (rendered : q.render = .ok sql)
    (plain : ∀ w ∈ q.wordings, w.signs = 0) (found : (Claim.parameters q.claims)[i]? = some p) :
    q.Writes sql i p := by
  rw [← parameters_fragments] at found
  obtain ⟨front, back, same, count⟩ := Fragment.exists_split found
  have strays : Fragment.straySigns q.fragments = 0 := by
    rw [straySigns_fragments]
    exact Wording.total_eq_zero_iff.2 plain
  rw [same, Fragment.straySigns_append] at strays
  rw [render_eq, same, Fragment.renderAll_append] at rendered
  obtain ⟨before, others, first, last, rfl⟩ := followed_eq_ok rendered
  obtain ⟨sign, after, mark, final, rfl⟩ := followed_eq_ok last
  cases mark
  refine ⟨front, back, before, after, same, first, final, by rw [String.append_assoc], ?_⟩
  rw [Fragment.placeholderCount_of_renderAll first, count]
  omega

theorem claims_base (q : Query M) : ∃ more, q.claims = q.base.claims ++ more := by
  induction q with
  | select t s => exact ⟨[], rfl⟩
  | insert t s record => exact ⟨[], by simp [base]⟩
  | update t => exact ⟨[], rfl⟩
  | delete t => exact ⟨[], rfl⟩
  | filtered q c ih | assigned q a ih | limited q l ih =>
    obtain ⟨more, same⟩ := ih
    exact ⟨more ++ _, by rw [claims, same, List.append_assoc]; rfl⟩

theorem render_base {q : Query M} {sql : String} (rendered : q.render = .ok sql) :
    ∃ start rest, q.base.render = .ok start ∧ sql = start ++ rest := by
  induction q generalizing sql with
  | select t s => exact ⟨sql, "", rendered, by simp⟩
  | insert t s record => exact ⟨sql, "", rendered, by simp⟩
  | update t => exact ⟨sql, "", rendered, by simp⟩
  | delete t => exact ⟨sql, "", rendered, by simp⟩
  | filtered q c ih | assigned q a ih | limited q l ih =>
    rw [render_eq, fragments, table, Fragment.renderAll_append, ← render_eq] at rendered
    obtain ⟨inner, clause, first, _, rfl⟩ := followed_eq_ok rendered
    obtain ⟨start, rest, found, rfl⟩ := ih first
    exact ⟨start, rest ++ clause, found, by rw [String.append_assoc]⟩

/-- Where the caller's words are plain, filling every slot with its claim aligns the slots with the
text. -/
theorem aligned_of_plain (ρ : Valuation) {q : Query M} {sql : String} (rendered : q.render = .ok sql)
    (plain : ∀ w ∈ q.wordings, w.IsPlain) : q.Aligned ρ sql ⟨q.claims.map (Claim.slot ρ)⟩ := by
  have noSlots := Wording.total_eq_zero_iff.2 fun w member => (plain w member).1
  have noSigns := Wording.total_eq_zero_iff.2 fun w member => (plain w member).2
  have full : (Claim.parameters q.claims).length = q.claims.length := by
    rw [length_claims, inputCount_eq, noSlots, Nat.add_zero]
  have every := Claim.eq_map_some full
  have written {i : Nat} {p : Parameter M} (found : q.claims[i]? = some (some p)) :
      q.Writes sql i p ∧ Inputs.slot? ⟨q.claims.map (Claim.slot ρ)⟩ i = some (p.slot ρ) := by
    have filled : Inputs.slot? ⟨q.claims.map (Claim.slot ρ)⟩ i = some (p.slot ρ) := by
      simp [Inputs.slot?, found, Claim.slot]
    refine ⟨writes_of_parameter rendered (fun w member => (plain w member).2) ?_, filled⟩
    rw [every, List.getElem?_map] at found
    obtain ⟨p', there, same⟩ := Option.map_eq_some_iff.1 found
    cases same
    exact there
  refine ⟨rendered, ?_, by simp [Inputs.length], ?_, ?_⟩
  · rw [placeholderCount_eq rendered, noSigns, Nat.add_zero, full, length_claims]
  · intro i inside
    have bound : i < (Claim.parameters q.claims).length := by rw [full, length_claims]; exact inside
    have found := List.getElem?_eq_getElem bound
    exact ⟨_, written (by rw [every, List.getElem?_map, found]; rfl)⟩
  · intro t s record insert
    constructor
    · obtain ⟨start, rest, first, same⟩ := render_base rendered
      rw [insert, render] at first
      cases first
      exact ⟨Column.placeholders s.columns ++ ")" ++ rest, by rw [same]; simp [String.append_assoc]⟩
    · intro i c found
      obtain ⟨more, same⟩ := claims_base q
      apply written
      have inside : i < s.columns.length := (List.getElem?_eq_some_iff.1 found).1
      rw [same, insert, claims, List.getElem?_append_left (by simpa [Column.claims] using inside),
        Column.claims, List.getElem?_map, found]
      rfl

end Query

namespace Statement

theorem ofQuery_eq_ok {ρ : Valuation} {q : Query M} {sql : String} (rendered : q.render = .ok sql)
    (same : placeholderCount sql = q.inputCount) :
    ofQuery ρ q = .ok {
      query := q
      sql
      inputs := ⟨q.claims.map (Claim.slot ρ)⟩
      outputs := q.declareOutputs (Outputs.empty q.outputCount) } := by
  rw [ofQuery, rendered]
  simp [same, q.bind_unbound]

theorem ofQuery_inv {ρ : Valuation} {q : Query M} {s : Statement M} (prepared : ofQuery ρ q = .ok s) :
    q.render = .ok s.sql ∧ placeholderCount s.sql = q.inputCount ∧ s.query = q ∧
      s.inputs = ⟨q.claims.map (Claim.slot ρ)⟩ := by
  unfold ofQuery at prepared
  cases rendered : q.render with
  | error e =>
    rw [rendered] at prepared
    cases prepared
  | ok sql =>
    rw [rendered] at prepared
    dsimp only at prepared
    split at prepared
    · rename_i same
      cases prepared
      exact ⟨rfl, same, rfl, q.bind_unbound ρ⟩
    · cases prepared

theorem exists_prepared (ρ : Valuation) {q : Query M} (own : q.wordings = [])
    (mapped : ∀ f ∈ q.fields, q.table.Maps f) : ∃ s, ofQuery ρ q = .ok s := by
  obtain ⟨sql, rendered⟩ := Query.renders mapped
  have aligned := Query.aligned_of_plain ρ rendered (by simp [own])
  exact ⟨_, ofQuery_eq_ok rendered aligned.placeholders⟩

/-- A query in the library's own words over mapped fields is prepared, and its text and slots belong
together. -/
theorem ofQuery_aligned (ρ : Valuation) (q : Query M) (own : q.wordings = [])
    (mapped : ∀ f ∈ q.fields, q.table.Maps f) :
    ∃ s, ofQuery ρ q = .ok s ∧ q.Aligned ρ s.sql s.inputs := by
  obtain ⟨sql, rendered⟩ := Query.renders mapped
  have aligned := Query.aligned_of_plain ρ rendered (by simp [own])
  exact ⟨_, ofQuery_eq_ok rendered aligned.placeholders, aligned⟩

end Statement

def Shelf.first : Variable (.required .integerUnsigned) := ⟨"first"⟩
def Shelf.count : CountVariable := ⟨"count"⟩

def Shelf.renewal : Query Shelf.book :=
  .limited
    (.filtered
      (.assigned Shelf.books.update
        (.group
          (.cons (.set Shelf.due (.literal none))
            (.last (.set Shelf.title (.column Shelf.title rfl))))))
      (.logical .and
        (.logical .or (.compare .eq Shelf.number (.literal (7 : UInt32)))
          (.compare .gt Shelf.number (.var Shelf.first)))
        (.compare .ne Shelf.title (.literal "lost"))))
    (.var Shelf.count)

example : Shelf.renewal.render =
    .ok "UPDATE `books` SET `due_at`=?, `title`=`title` WHERE (`number`=? OR `number`>?) AND `title`<>? LIMIT ?" := by
  rfl

theorem Statement.ofQuery_aligned_renewal :
    Shelf.renewal.wordings = [] ∧ (∀ f ∈ Shelf.renewal.fields, Shelf.renewal.table.Maps f) ∧
      ∃ s, ofQuery Valuation.default Shelf.renewal = .ok s ∧
        Shelf.renewal.Aligned Valuation.default s.sql s.inputs :=
  ⟨by decide, by decide, ofQuery_aligned Valuation.default Shelf.renewal (by decide) (by decide)⟩

end PreparedSql
