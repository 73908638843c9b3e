import PreparedSql.Proofs.Parameters.Alignment
import PreparedSql.Proofs.Slots.Typed

/-!
# The types of slots

A comparison and an assignment give their operand the type of the field on their left, a column to
insert has that of its field, and a row count is a number. Main statements: these are the types of a
query's parameters, in order (`Query.types_parameters`), and the parameters without a value are the
columns of an insert that has no record, in front of all others (`Query.await_claims`).
-/

namespace PreparedSql

variable {M : Model}

theorem FieldType.fits_content (τ : FieldType) (x : τ.Val) : (τ.content x).Fits τ := by
  cases τ with
  | required k => rfl
  | optional k => cases x <;> rfl

namespace Parameter

def type : Parameter M → FieldType
  | literal τ _ | var τ _ => τ
  | field c _ => c.field.type
  | count _ => .required .bigIntUnsigned

/-- A column to insert without a record to take its value from. -/
def isMissing : Parameter M → Bool
  | field _ none => true
  | field _ (some _) | literal .. | var .. | count _ => false

theorem slot_of_missing {p : Parameter M} (missing : p.isMissing = true) (ρ : Valuation) :
    p.slot ρ = .unbound := by
  cases p with
  | field c record =>
    cases record with
    | none => rfl
    | some r => cases missing
  | literal | var | count => cases missing

/-- A parameter with a value writes that value under its type. -/
theorem slot_of_not_missing {p : Parameter M} (given : p.isMissing = false) (ρ : Valuation) :
    ∃ value, p.slot ρ = .bound p.type.kind value ∧ value.Fits p.type := by
  cases p with
  | literal τ x => exact ⟨_, rfl, τ.fits_content x⟩
  | var τ v => exact ⟨_, rfl, τ.fits_content _⟩
  | field c record =>
    cases record with
    | none => cases given
    | some r => exact ⟨_, rfl, c.field.type.fits_content _⟩
  | count l => cases l <;> exact ⟨_, rfl, rfl⟩

end Parameter

def Condition.slotTypes : Condition M → List FieldType
  | compare _ f operand => List.replicate operand.slotCount f.type
  | logical _ left right => left.slotTypes ++ right.slotTypes
  | written .. => []

mutual

def Assignment.slotTypes : Assignment M → List FieldType
  | .set f operand => List.replicate operand.slotCount f.type
  | .group members => members.slotTypes

def Assignments.slotTypes : Assignments M → List FieldType
  | .last a => a.slotTypes
  | .cons a rest => a.slotTypes ++ rest.slotTypes

end

/-- The types of a query's slots, those of the caller's own words left out. -/
def Query.slotTypes : Query M → List FieldType
  | select .. | update _ | delete _ => []
  | insert _ s _ => s.columns.map fun c => c.field.type
  | filtered q c => q.slotTypes ++ c.slotTypes
  | assigned q a => q.slotTypes ++ a.slotTypes
  | limited q _ => q.slotTypes ++ [.required .bigIntUnsigned]

theorem Operand.types_parameters {τ : FieldType} (o : Operand M τ) :
    (Claim.parameters o.claims).map Parameter.type = List.replicate o.slotCount τ := by
  cases o <;> rfl

theorem Condition.types_parameters (c : Condition M) :
    (Claim.parameters c.claims).map Parameter.type = c.slotTypes := by
  induction c with
  | compare op f operand => exact operand.types_parameters
  | logical op left right ihLeft ihRight =>
    rw [claims, Claim.parameters_append, List.map_append, ihLeft, ihRight, slotTypes]
  | written sql slots disjunction => simp [claims, slotTypes]

mutual

theorem Assignment.types_parameters : (a : Assignment M) →
    (Claim.parameters a.claims).map Parameter.type = a.slotTypes
  | .set _ operand => operand.types_parameters
  | .group members => members.types_parameters

theorem Assignments.types_parameters : (as : Assignments M) →
    (Claim.parameters as.claims).map Parameter.type = as.slotTypes
  | .last a => a.types_parameters
  | .cons a rest => by
    rw [Assignments.claims, Claim.parameters_append, List.map_append, a.types_parameters,
      rest.types_parameters, Assignments.slotTypes]

end

namespace Query

theorem types_parameters (q : Query M) : (Claim.parameters q.claims).map Parameter.type = q.slotTypes := by
  induction q with
  | select t s => rfl
  | insert t s record => simp [claims, Column.claims, Claim.parameters, slotTypes, Parameter.type]
  | update t => rfl
  | delete t => rfl
  | filtered q c ih =>
    rw [claims, Claim.parameters_append, List.map_append, ih, c.types_parameters, slotTypes]
  | assigned q a ih =>
    rw [claims, Claim.parameters_append, List.map_append, ih, a.types_parameters, slotTypes]
  | limited q l ih =>
    rw [claims, Claim.parameters_append, List.map_append, ih, slotTypes]
    rfl

@[simp] theorem slotTypes_values (q : Query M) (r : Record M) : (q.values r).slotTypes = q.slotTypes := by
  cases q <;> rfl

/-- Without conditions in the caller's words, every claim names a parameter. -/
theorem full_of_own {q : Query M} (own : q.wordings = []) :
    (Claim.parameters q.claims).length = q.claims.length := by
  rw [length_claims, inputCount_eq, own, Wording.total_nil, Nat.add_zero]

theorem slots_of_own {q : Query M} (own : q.wordings = []) (ρ : Valuation) :
    q.claims.map (Claim.slot ρ) = (Claim.parameters q.claims).map (Parameter.slot ρ) :=
  Claim.map_of_full (Claim.slot ρ) (full_of_own own)

end Query

theorem Operand.given {τ : FieldType} {o : Operand M τ} {p : Parameter M}
    (member : p ∈ Claim.parameters o.claims) : p.isMissing = false := by
  cases o with
  | literal x => cases List.mem_singleton.1 member; rfl
  | column f same => cases member
  | var v => cases List.mem_singleton.1 member; rfl

theorem Condition.given {c : Condition M} {p : Parameter M} (member : p ∈ Claim.parameters c.claims) :
    p.isMissing = false := by
  induction c with
  | compare op f operand => exact Operand.given member
  | logical op left right ihLeft ihRight =>
    rw [claims, Claim.parameters_append, List.mem_append] at member
    exact member.elim ihLeft ihRight
  | written sql slots disjunction => simp [claims] at member

mutual

theorem Assignment.given {p : Parameter M} : (a : Assignment M) → p ∈ Claim.parameters a.claims →
    p.isMissing = false
  | .set .., member => Operand.given member
  | .group members, member => members.given member

theorem Assignments.given {p : Parameter M} : (as : Assignments M) → p ∈ Claim.parameters as.claims →
    p.isMissing = false
  | .last a, member => a.given member
  | .cons a rest, member => by
    rw [Assignments.claims, Claim.parameters_append, List.mem_append] at member
    exact member.elim a.given rest.given

end

/-- The parameters of the claims begin with columns that have no record, and no value is missing
after them. -/
def Claim.Await (columns : List (Column M)) (claims : List (Claim M)) : Prop :=
  ∃ rest, parameters claims = (columns.map fun c => .field c none) ++ rest ∧
    ∀ p ∈ rest, p.isMissing = false

namespace Claim.Await

variable {columns : List (Column M)} {claims more : List (Claim M)}

theorem append
    (awaiting : Await columns claims) (given : ∀ p ∈ parameters more, p.isMissing = false) :
    Await columns (claims ++ more) := by
  obtain ⟨rest, same, others⟩ := awaiting
  refine ⟨rest ++ parameters more, ?_, ?_⟩
  · rw [parameters_append, same, List.append_assoc]
  · intro p member
    exact (List.mem_append.1 member).elim (others p) (given p)

/-- The parameters that wait are the first ones. -/
theorem isMissing_iff (awaiting : Await columns claims) {i : Nat} {p : Parameter M}
    (found : (parameters claims)[i]? = some p) : p.isMissing = true ↔ i < columns.length := by
  obtain ⟨rest, same, given⟩ := awaiting
  rw [same] at found
  by_cases inside : i < columns.length
  · rw [List.getElem?_append_left (by simpa using inside), List.getElem?_map] at found
    obtain ⟨c, _, rfl⟩ := Option.map_eq_some_iff.1 found
    exact iff_of_true rfl inside
  · rw [List.getElem?_append_right (by simpa using inside)] at found
    have value := given p (List.mem_of_getElem? found)
    exact iff_of_false (by simp [value]) inside

/-- The slots of such claims are typed, but for the first ones, which wait. -/
theorem typed (awaiting : Await columns claims) (ρ : Valuation) :
    Inputs.Typed ((parameters claims).map Parameter.type) columns.length
      ⟨(parameters claims).map (Parameter.slot ρ)⟩ := by
  have split := awaiting
  obtain ⟨rest, same, _⟩ := split
  refine ⟨by simp [Inputs.length], ?_, ?_⟩
  · intro i
    rw [Inputs.slot?, List.getElem?_map]
    cases found : (parameters claims)[i]? with
    | none =>
      have beyond := List.getElem?_eq_none_iff.1 found
      rw [same, List.length_append, List.length_map] at beyond
      simp only [Option.map_none, reduceCtorEq, false_iff]
      omega
    | some p =>
      rw [Option.map_some, Option.some_inj, ← awaiting.isMissing_iff found]
      cases missing : p.isMissing with
      | true => simp [p.slot_of_missing missing ρ]
      | false =>
        obtain ⟨value, bound, _⟩ := p.slot_of_not_missing missing ρ
        simp [bound]
  · intro i kind value bound
    rw [Inputs.slot?, List.getElem?_map] at bound
    obtain ⟨p, found, slot⟩ := Option.map_eq_some_iff.1 bound
    refine ⟨p.type, by simp [found], ?_⟩
    cases missing : p.isMissing with
    | true =>
      rw [p.slot_of_missing missing ρ] at slot
      cases slot
    | false =>
      obtain ⟨own, typed, fits⟩ := p.slot_of_not_missing missing ρ
      rw [typed] at slot
      cases slot
      exact ⟨rfl, fits⟩

end Claim.Await

namespace Query

def awaited : Query M → List (Column M)
  | insert _ s none => s.columns
  | insert _ _ (some _) | select .. | update _ | delete _ => []
  | filtered q _ | assigned q _ | limited q _ => q.awaited

/-- Only the columns of an insert wait, and they come before all other parameters. -/
theorem await_claims (q : Query M) : Claim.Await q.awaited q.claims := by
  have empty : Claim.Await ([] : List (Column M)) [] := ⟨[], rfl, by simp⟩
  induction q with
  | select t s => exact empty
  | insert t s record =>
    cases record with
    | none => exact ⟨[], by simp [claims, Column.claims, Claim.parameters, awaited], by simp⟩
    | some r =>
      have given : ∀ p ∈ Claim.parameters (Column.claims (some r) s.columns), p.isMissing = false := by
        simp [Claim.parameters, Column.claims, Parameter.isMissing]
      exact empty.append given
  | update t => exact empty
  | delete t => exact empty
  | filtered q c ih => exact ih.append fun _ => c.given
  | assigned q a ih => exact ih.append fun _ => a.given
  | limited q l ih => exact ih.append (by simp [Parameter.isMissing])

end Query

end PreparedSql
