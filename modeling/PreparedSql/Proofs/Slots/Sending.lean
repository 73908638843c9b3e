import PreparedSql.Proofs.Calendar.Wire
import PreparedSql.Slot.Input

/-!
# What slots send

Slots are sent together or not at all, and the first slot that cannot be sent decides what is
reported. Main statements: slots that are sent are bound (`Inputs.bound_of_parameters`), bound slots
are refused for the first date that does not exist (`Inputs.parametersFrom_eq_error_iff`), and slots
of which one is unbound for the first such date before the first unbound slot, or else for that slot
(`Inputs.parametersFrom_eq_error_iff_of_unbound`).
-/

namespace PreparedSql

open Calendar

/-- The slot holds calendar fields that no date has. -/
def InputSlot.Unreal (s : InputSlot) (w : WireTime) : Prop :=
  ∃ kind, s = .bound kind (.of .dateTime w) ∧ ∀ d, WireTime.ofDateTime d ≠ w

/-- Only a time can fail to be converted. -/
theorem Kind.tryTime_eq_error_iff {T ε : Type} {f : WireTime → Except ε T} {k : Kind} {x : k.Data WireTime}
    {e : ε} : k.tryTime f x = .error e ↔ ∃ w, Value.of k x = .of .dateTime w ∧ f w = .error e := by
  cases k <;> simp [tryTime]

/-- A value is refused for the date in it that does not exist. -/
theorem Value.toDatum_eq_error_iff {kind : Kind} {value : Value} {e : Error} :
    value.toDatum kind = .error e ↔
      ∃ w, e = .invalidDateTime (.wire w) ∧ (InputSlot.bound kind value).Unreal w := by
  cases value with
  | null => simp [toDatum, InputSlot.Unreal]
  | of own data =>
    constructor
    · intro refused
      rw [toDatum] at refused
      split at refused
      · cases refused
      · rename_i converted
        cases refused
        obtain ⟨w, same, strict⟩ := Kind.tryTime_eq_error_iff.1 converted
        obtain ⟨rfl, unreal⟩ := WireTime.toDateTime_eq_error_iff.1 strict
        exact ⟨w, rfl, kind, by rw [same], unreal⟩
    · rintro ⟨w, rfl, _, same, unreal⟩
      cases same
      have converted := WireTime.toDateTime_eq_error_iff.2 ⟨rfl, unreal⟩
      simp [toDatum, Kind.tryTime, converted]

namespace Inputs

theorem bound_of_parametersFrom {index : Nat} {slots : List InputSlot}
    {parameters : List (Datum DateTime)}
    (sent : parametersFrom index slots = .ok parameters) : .unbound ∉ slots := by
  induction slots generalizing index parameters with
  | nil => exact List.not_mem_nil
  | cons s rest ih =>
    cases s with
    | unbound => cases sent
    | bound kind value =>
      intro member
      have later : .unbound ∈ rest := by simpa using member
      rw [parametersFrom] at sent
      split at sent
      · cases sent
      · split at sent
        · cases sent
        · rename_i others
          exact ih others later

/-- Slots that are sent are all bound. -/
theorem bound_of_parameters {b : Inputs} {parameters : List (Datum DateTime)}
    (sent : b.parameters = .ok parameters) : .unbound ∉ b.slots :=
  bound_of_parametersFrom sent

structure FirstUnreal (slots : List InputSlot) (i : Nat) (w : WireTime) : Prop where
  here : ∃ s, slots[i]? = some s ∧ s.Unreal w
  before : ∀ j < i, ∀ s, slots[j]? = some s → ∀ w', ¬ s.Unreal w'

theorem firstUnreal_zero_iff {s : InputSlot} {rest : List InputSlot} {w : WireTime} :
    FirstUnreal (s :: rest) 0 w ↔ s.Unreal w := by
  constructor
  · rintro ⟨⟨found, here, unreal⟩, _⟩
    cases here
    exact unreal
  · intro unreal
    exact ⟨⟨s, rfl, unreal⟩, by simp⟩

theorem firstUnreal_succ_iff {s : InputSlot} {rest : List InputSlot} {i : Nat} {w : WireTime} :
    FirstUnreal (s :: rest) (i + 1) w ↔ (∀ w', ¬ s.Unreal w') ∧ FirstUnreal rest i w := by
  constructor
  · rintro ⟨here, before⟩
    refine ⟨before 0 (by omega) s rfl, here, ?_⟩
    intro j below
    exact before (j + 1) (by omega)
  · rintro ⟨first, here, before⟩
    refine ⟨here, ?_⟩
    intro j below t found
    cases j with
    | zero =>
      cases found
      exact first
    | succ j => exact before j (by omega) t found

theorem parametersFrom_bound_eq_ok_iff {index : Nat} {kind : Kind} {value : Value} {rest : List InputSlot}
    {parameters : List (Datum DateTime)} :
    parametersFrom index (.bound kind value :: rest) = .ok parameters ↔
      ∃ p more, value.toDatum kind = .ok p ∧ parametersFrom (index + 1) rest = .ok more ∧
        p :: more = parameters := by
  rw [parametersFrom]
  cases value.toDatum kind with
  | error e => simp
  | ok p => cases parametersFrom (index + 1) rest <;> simp

theorem parametersFrom_bound_eq_error_iff {index : Nat} {kind : Kind} {value : Value}
    {rest : List InputSlot} {e : Error} :
    parametersFrom index (.bound kind value :: rest) = .error e ↔
      (∃ w, e = .invalidDateTime (.wire w) ∧ (InputSlot.bound kind value).Unreal w) ∨
        (∀ w, ¬ (InputSlot.bound kind value).Unreal w) ∧ parametersFrom (index + 1) rest = .error e := by
  rw [parametersFrom, ← Value.toDatum_eq_error_iff]
  cases datum : value.toDatum kind with
  | error e' =>
    obtain ⟨w, _, unreal⟩ := Value.toDatum_eq_error_iff.1 datum
    simpa using fun real => absurd unreal (real w)
  | ok p =>
    have real : ∀ w, ¬ (InputSlot.bound kind value).Unreal w := by
      intro w unreal
      have refused := Value.toDatum_eq_error_iff.2 ⟨w, rfl, unreal⟩
      rw [datum] at refused
      cases refused
    cases parametersFrom (index + 1) rest <;> simp [real]

/-- Bound slots are refused for the first date that does not exist. -/
theorem parametersFrom_eq_error_iff {index : Nat} {slots : List InputSlot} (bound : .unbound ∉ slots)
    {e : Error} :
    parametersFrom index slots = .error e ↔
      ∃ i w, FirstUnreal slots i w ∧ e = .invalidDateTime (.wire w) := by
  induction slots generalizing index with
  | nil =>
    simp only [parametersFrom, reduceCtorEq, false_iff]
    rintro ⟨i, w, ⟨⟨s, here, _⟩, _⟩, _⟩
    cases here
  | cons s rest ih =>
    cases s with
    | unbound => exact absurd List.mem_cons_self bound
    | bound kind value =>
      have later : parametersFrom (index + 1) rest = .error e ↔ _ :=
        ih fun member => bound (List.mem_cons_of_mem _ member)
      rw [parametersFrom_bound_eq_error_iff, later]
      constructor
      · rintro (⟨w, rfl, unreal⟩ | ⟨real, i, w, first, rfl⟩)
        · exact ⟨0, w, firstUnreal_zero_iff.2 unreal, rfl⟩
        · exact ⟨i + 1, w, firstUnreal_succ_iff.2 ⟨real, first⟩, rfl⟩
      · rintro ⟨i, w, first, rfl⟩
        cases i with
        | zero => exact .inl ⟨w, rfl, firstUnreal_zero_iff.1 first⟩
        | succ i =>
          obtain ⟨real, first⟩ := firstUnreal_succ_iff.1 first
          exact .inr ⟨real, i, w, first, rfl⟩

structure FirstUnbound (slots : List InputSlot) (i : Nat) : Prop where
  here : slots[i]? = some .unbound
  before : ∀ j < i, slots[j]? ≠ some .unbound

theorem firstUnbound_unbound_cons_iff {rest : List InputSlot} {i : Nat} :
    FirstUnbound (.unbound :: rest) i ↔ i = 0 := by
  constructor
  · intro first
    cases i with
    | zero => rfl
    | succ i => exact absurd rfl (first.before 0 (by omega))
  · rintro rfl
    exact ⟨rfl, by simp⟩

theorem firstUnbound_bound_cons_iff {kind : Kind} {value : Value} {rest : List InputSlot} {i : Nat} :
    FirstUnbound (.bound kind value :: rest) i ↔ ∃ k, i = k + 1 ∧ FirstUnbound rest k := by
  constructor
  · intro first
    cases i with
    | zero => cases first.here
    | succ k =>
      refine ⟨k, rfl, first.here, ?_⟩
      intro j below
      exact first.before (j + 1) (by omega)
  · rintro ⟨k, rfl, here, before⟩
    refine ⟨here, ?_⟩
    intro j below
    cases j with
    | zero => simp
    | succ j => exact before j (by omega)

theorem exists_firstUnbound {slots : List InputSlot} (member : .unbound ∈ slots) :
    ∃ i, FirstUnbound slots i := by
  induction slots with
  | nil => cases member
  | cons s rest ih =>
    cases s with
    | unbound => exact ⟨0, firstUnbound_unbound_cons_iff.2 rfl⟩
    | bound kind value =>
      obtain ⟨k, first⟩ := ih (by simpa using member)
      exact ⟨k + 1, firstUnbound_bound_cons_iff.2 ⟨k, rfl, first⟩⟩

/-- What slots that begin at `index` report when one of them is unbound: the first unbound one if
every date before it exists, and the first date that does not otherwise. -/
inductive Reports (index : Nat) (slots : List InputSlot) : Error → Prop where
  | unboundSlot {i : Nat} (first : FirstUnbound slots i)
      (real : ∀ j < i, ∀ s, slots[j]? = some s → ∀ w, ¬ s.Unreal w) :
      Reports index slots (.unboundSlot (index + i))
  | invalidDateTime {i j : Nat} {w : WireTime} (first : FirstUnbound slots i)
      (unreal : FirstUnreal slots j w) (before : j < i) :
      Reports index slots (.invalidDateTime (.wire w))

theorem reports_unbound_cons_iff {index : Nat} {rest : List InputSlot} {e : Error} :
    Reports index (.unbound :: rest) e ↔ e = .unboundSlot index := by
  constructor
  · rintro (⟨first, real⟩ | ⟨first, unreal, before⟩)
    · cases firstUnbound_unbound_cons_iff.1 first
      rfl
    · cases firstUnbound_unbound_cons_iff.1 first
      cases before
  · rintro rfl
    exact .unboundSlot (firstUnbound_unbound_cons_iff.2 rfl) (by simp)

theorem reports_bound_cons_iff {index : Nat} {kind : Kind} {value : Value} {rest : List InputSlot}
    (member : .unbound ∈ rest) {e : Error} :
    Reports index (.bound kind value :: rest) e ↔
      (∃ w, e = .invalidDateTime (.wire w) ∧ (InputSlot.bound kind value).Unreal w) ∨
        (∀ w, ¬ (InputSlot.bound kind value).Unreal w) ∧ Reports (index + 1) rest e := by
  constructor
  · rintro (⟨first, real⟩ | ⟨first, unreal, before⟩)
    · obtain ⟨k, rfl, later⟩ := firstUnbound_bound_cons_iff.1 first
      rw [Nat.add_comm k, ← Nat.add_assoc]
      refine .inr ⟨real 0 (by omega) _ rfl, .unboundSlot later ?_⟩
      intro j below
      exact real (j + 1) (by omega)
    · rename_i i j w
      obtain ⟨k, rfl, later⟩ := firstUnbound_bound_cons_iff.1 first
      cases j with
      | zero => exact .inl ⟨w, rfl, firstUnreal_zero_iff.1 unreal⟩
      | succ j =>
        obtain ⟨real, unreal⟩ := firstUnreal_succ_iff.1 unreal
        exact .inr ⟨real, .invalidDateTime later unreal (by omega)⟩
  · rintro (⟨w, rfl, unreal⟩ | ⟨real, ⟨first, others⟩ | ⟨first, unreal, before⟩⟩)
    · obtain ⟨k, first⟩ := exists_firstUnbound member
      exact .invalidDateTime (firstUnbound_bound_cons_iff.2 ⟨k, rfl, first⟩)
        (firstUnreal_zero_iff.2 unreal) (by omega)
    · rw [Nat.add_assoc, Nat.add_comm 1]
      refine .unboundSlot (firstUnbound_bound_cons_iff.2 ⟨_, rfl, first⟩) ?_
      intro j below s found
      cases j with
      | zero =>
        cases found
        exact real
      | succ j => exact others j (by omega) s found
    · exact .invalidDateTime (firstUnbound_bound_cons_iff.2 ⟨_, rfl, first⟩)
        (firstUnreal_succ_iff.2 ⟨real, unreal⟩) (by omega)

/-- Slots of which one is unbound are refused, and for exactly one reason. -/
theorem parametersFrom_eq_error_iff_of_unbound {index : Nat} {slots : List InputSlot}
    (member : .unbound ∈ slots) {e : Error} :
    parametersFrom index slots = .error e ↔ Reports index slots e := by
  induction slots generalizing index with
  | nil => cases member
  | cons s rest ih =>
    cases s with
    | unbound =>
      rw [reports_unbound_cons_iff, parametersFrom, Except.error.injEq, eq_comm]
    | bound kind value =>
      have later : .unbound ∈ rest := by simpa using member
      rw [parametersFrom_bound_eq_error_iff, reports_bound_cons_iff later, ih later]

/-- Slots of which one is unbound are never sent, and the refusal says why. -/
theorem parameters_of_unbound {b : Inputs} (member : .unbound ∈ b.slots) :
    ∃ e, b.parameters = .error e ∧ Reports 0 b.slots e := by
  cases sent : b.parameters with
  | ok parameters => exact absurd member (bound_of_parameters sent)
  | error e => exact ⟨e, rfl, (parametersFrom_eq_error_iff_of_unbound member).1 sent⟩

end Inputs

def Datum.Sendable (p : Datum DateTime) : Prop :=
  ∀ d, p.date? = some d → d.IsSendable

theorem Datum.sendable_null (kind : Kind) : Sendable ⟨kind, none⟩ := by
  intro d date
  cases kind <;> cases date

theorem firstUnsendable_of_sendable {parameters : List (Datum DateTime)}
    (sendable : ∀ p ∈ parameters, p.Sendable) : firstUnsendable parameters = none := by
  have every (position : Nat) : unsendableFrom position parameters = none := by
    induction parameters generalizing position with
    | nil => rfl
    | cons p rest ih =>
      rw [List.forall_mem_cons] at sendable
      rw [unsendableFrom]
      cases date : p.date? with
      | none => exact ih sendable.2 _
      | some d =>
        dsimp only
        rw [if_pos (sendable.1 d date)]
        exact ih sendable.2 _
  exact every 1

end PreparedSql
