import PreparedSql.Proofs.Calendar.Wire
import PreparedSql.Proofs.Slots.Sending
import PreparedSql.Value.FieldType

/-!
# Typed slots

A slot is typed when it holds a value of the kind that it names, or NULL where the field type allows
it. Main statement: slots of which the first ones wait for a record and all others are typed fail to
be sent for one of two reasons, the record that is missing or the first date that does not exist, and
otherwise what is sent is what they hold, position by position (`Inputs.Typed.applies`).
-/

namespace PreparedSql

open Calendar

def Datum.value : Datum DateTime → Value
  | ⟨_, none⟩ => .null
  | ⟨kind, some data⟩ => .of kind (kind.mapTime WireTime.ofDateTime data)

def Datum.slot (p : Datum DateTime) : InputSlot :=
  .bound p.kind p.value

/-- A value of the type's kind, or NULL for an optional type. -/
def Value.Fits (τ : FieldType) : Value → Prop
  | null => τ.isOptional = true
  | of kind _ => kind = τ.kind

namespace InputSlot

def Consistent (s : InputSlot) : Prop :=
  ∀ kind own data, s = .bound kind (.of own data) → own = kind

theorem consistent_of_fits {τ : FieldType} {value : Value} (fits : value.Fits τ) :
    (bound τ.kind value).Consistent := by
  intro kind own data same
  cases same
  exact fits

end InputSlot

theorem Kind.tryTime_eq_ok_iff {k : Kind} {x : k.Data WireTime} {y : k.Data DateTime} :
    k.tryTime WireTime.toDateTime x = .ok y ↔ k.mapTime WireTime.ofDateTime y = x := by
  cases k with
  | dateTime => exact WireTime.toDateTime_eq_ok_iff
  | _ =>
    simp only [tryTime, mapTime, Except.ok.injEq]
    exact eq_comm

/-- A parameter that is put back into its slot is sent again as it was. -/
theorem Datum.toDatum_value (p : Datum DateTime) : p.value.toDatum p.kind = .ok p := by
  obtain ⟨kind, data⟩ := p
  cases data with
  | none => rfl
  | some y =>
    have converted := Kind.tryTime_eq_ok_iff.2 (rfl : kind.mapTime WireTime.ofDateTime y = _)
    simp [value, Value.toDatum, converted]

theorem Datum.consistent_slot (p : Datum DateTime) : p.slot.Consistent := by
  obtain ⟨kind, data⟩ := p
  intro slotKind own x same
  cases data <;> cases same
  rfl

/-- A consistent slot is sent as the parameter whose slot it is. -/
theorem InputSlot.Consistent.toDatum_eq_ok_iff {kind : Kind} {value : Value}
    (consistent : (bound kind value).Consistent) {p : Datum DateTime} :
    value.toDatum kind = .ok p ↔ .bound kind value = p.slot := by
  constructor
  · intro sent
    cases value with
    | null =>
      cases sent
      rfl
    | of own data =>
      cases consistent kind own data rfl
      rw [Value.toDatum] at sent
      split at sent
      · rename_i converted
        cases sent
        rw [Datum.slot, Datum.value, Kind.tryTime_eq_ok_iff.1 converted]
      · cases sent
  · intro same
    cases same
    exact p.toDatum_value

namespace Inputs

/-- Consistent slots are sent when they are the slots of parameters. -/
theorem parametersFrom_eq_ok_iff {index : Nat} {slots : List InputSlot}
    (consistent : ∀ s ∈ slots, s.Consistent) {parameters : List (Datum DateTime)} :
    parametersFrom index slots = .ok parameters ↔ slots = parameters.map Datum.slot := by
  induction slots generalizing index parameters with
  | nil => cases parameters <;> simp [parametersFrom]
  | cons s rest ih =>
    rw [List.forall_mem_cons] at consistent
    cases s with
    | unbound => cases parameters <;> simp [parametersFrom, Datum.slot]
    | bound kind value =>
      simp only [parametersFrom_bound_eq_ok_iff, consistent.1.toDatum_eq_ok_iff, ih consistent.2]
      rw [eq_comm, List.map_eq_cons_iff]
      constructor
      · rintro ⟨p, more, same, others, rfl⟩
        exact ⟨p, more, rfl, same.symm, others.symm⟩
      · rintro ⟨p, more, rfl, same, others⟩
        exact ⟨p, more, same.symm, others.symm, rfl⟩

/-- The slots of parameters are sent as these. -/
theorem parameters_slots (parameters : List (Datum DateTime)) :
    (⟨parameters.map Datum.slot⟩ : Inputs).parameters = .ok parameters := by
  refine (parametersFrom_eq_ok_iff ?_).2 rfl
  intro s member
  obtain ⟨p, _, rfl⟩ := List.mem_map.1 member
  exact p.consistent_slot

/-- The slots of a statement whose operands have the given types: the first `waiting` slots are
those of a record that is missing, all others hold a value that fits its type. -/
structure Typed (types : List FieldType) (waiting : Nat) (b : Inputs) : Prop where
  length : b.length = types.length
  unbound : ∀ i, b.slot? i = some .unbound ↔ i < waiting
  bound : ∀ i kind value, b.slot? i = some (.bound kind value) →
    ∃ τ, types[i]? = some τ ∧ kind = τ.kind ∧ value.Fits τ

/-- What becomes of slots that are sent, of which the first `waiting` ones wait for a record. -/
structure Applies (waiting : Nat) (b : Inputs) : Prop where
  unboundSlot : ∀ i, b.parameters = .error (.unboundSlot i) ↔ i = 0 ∧ 0 < waiting
  invalidDateTime : ∀ date, b.parameters = .error (.invalidDateTime date) ↔
    waiting = 0 ∧ ∃ i w, FirstUnreal b.slots i w ∧ date = .wire w
  sent : waiting = 0 → (∀ i w, ¬ FirstUnreal b.slots i w) →
    ∃ parameters, b.parameters = .ok parameters ∧ parameters.length = b.length ∧
      b.slots = parameters.map Datum.slot

theorem Typed.consistent {types : List FieldType} {waiting : Nat} {b : Inputs}
    (typed : b.Typed types waiting) : ∀ s ∈ b.slots, s.Consistent := by
  intro s member
  obtain ⟨i, found⟩ := List.mem_iff_getElem?.1 member
  cases s with
  | unbound =>
    intro kind own data same
    cases same
  | bound kind value =>
    obtain ⟨τ, _, rfl, fits⟩ := typed.bound i kind value found
    exact InputSlot.consistent_of_fits fits

theorem Typed.missing {types : List FieldType} {waiting : Nat} {b : Inputs} (typed : b.Typed types waiting)
    (waits : 0 < waiting) : b.parameters = .error (.unboundSlot 0) := by
  have first := (typed.unbound 0).2 waits
  rw [slot?] at first
  rw [parameters]
  cases slots : b.slots with
  | nil =>
    rw [slots] at first
    cases first
  | cons s rest =>
    rw [slots] at first
    cases first
    rfl

/-- Typed slots are refused for the missing record or the first unreal date, and else sent as they
are. -/
theorem Typed.applies {types : List FieldType} {waiting : Nat} {b : Inputs}
    (typed : b.Typed types waiting) : b.Applies waiting := by
  rcases Nat.eq_zero_or_pos waiting with complete | waits
  · have bound : .unbound ∉ b.slots := by
      intro member
      obtain ⟨i, found⟩ := List.mem_iff_getElem?.1 member
      have below := (typed.unbound i).1 found
      omega
    have refused {e : Error} : b.parameters = .error e ↔ _ := parametersFrom_eq_error_iff bound
    refine ⟨?_, ?_, ?_⟩
    · intro i
      simp [refused, complete]
    · intro date
      simp [refused, complete]
    · intro _ real
      cases sent : b.parameters with
      | error e =>
        obtain ⟨i, w, first, _⟩ := refused.1 sent
        exact absurd first (real i w)
      | ok parameters =>
        have same := (parametersFrom_eq_ok_iff typed.consistent).1 sent
        exact ⟨parameters, rfl, by rw [Inputs.length, same, List.length_map], same⟩
  · have missing := typed.missing waits
    have incomplete : waiting ≠ 0 := by omega
    refine ⟨?_, ?_, ?_⟩
    · intro i
      simp [missing, waits, eq_comm]
    · intro date
      simp [missing, incomplete]
    · intro complete
      exact absurd complete incomplete

end Inputs

end PreparedSql
