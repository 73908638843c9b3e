import PreparedSql.Proofs.Rows.Failures
import PreparedSql.Proofs.Rows.RoundTrip

/-!
# Slots that are refused

`FieldType.receive` says what a field takes from a slot and `FieldType.afterRefusal` what it holds when it
takes nothing. Here the same is done on the field itself, step by step, as `FieldType.receiveInPlace`: what
was written before a step fails stays written. Main statement (`Query.finalizeRow_stops`): a row stops at the
first column that has no slot or refuses it, with the columns before moved and those after it untouched. A
required field keeps its value then, an optional one is left without.
-/

namespace PreparedSql

open Calendar

variable {M : Model}

/-- Steps on a variable, which can fail and then leave in it what was written before. -/
abbrev Updating (σ : Type) := ExceptT Error (StateM σ)

def receiveNumber (column : String) (kind : Kind) (slot : OutputSlot) :
    Updating (kind.Data BrokenDown) Unit :=
  match slot.value with
  | .null => set (kind.zero ({} : BrokenDown))
  | .of own data =>
    if same : own = kind then set (kind.mapTime (fun _ : WireTime => ({} : BrokenDown)) (same ▸ data))
    else throw (.typeMismatch column kind own)

/-- A text is cleared before the new one is put in, and the new one checked before that. -/
def receiveText (column : String) (slot : OutputSlot) : Updating String Unit := do
  if slot.overflowed then throw (.truncated column slot.value.length (slot.capacity.getD 0))
  match slot.value with
  | .null => set ""
  | .of .text text =>
    set ""
    modify (· ++ text)
  | .of own _ => throw (.typeMismatch column .text own)

def receiveTime (column : String) (slot : OutputSlot) : Updating BrokenDown Unit :=
  match slot.value with
  | .null => set ({} : BrokenDown)
  | .of .dateTime w => do
    let t ← liftM ((BrokenDown.ofWire w).mapError Error.invalidDateTime)
    set t
  | .of own _ => throw (.typeMismatch column .dateTime own)

namespace Kind

def receiveInPlace (column : String) (slot : OutputSlot) :
    (kind : Kind) → Updating (kind.Data BrokenDown) Unit
  | text => receiveText column slot
  | dateTime => receiveTime column slot
  | kind => receiveNumber column kind slot

/-- A value that its field has given up receives the slot, and goes back if it takes it. -/
def receiveHeld (column : String) (slot : OutputSlot) (kind : Kind) (held : Option (kind.Data BrokenDown)) :
    Updating (Option (kind.Data BrokenDown)) Unit :=
  match (kind.receiveInPlace column slot).run.run (held.getD (kind.zero {})) with
  | (.ok (), x) => set (some x)
  | (.error e, _) => throw e

end Kind

/-- An optional field gives up its value before that receives the slot. -/
def FieldType.receiveInPlace (column : String) (slot : OutputSlot) : (τ : FieldType) → Updating τ.Val Unit
  | required k => k.receiveInPlace column slot
  | optional k =>
    if slot.value.isNull then set (none : Option (k.Data BrokenDown))
    else do
      let held ← getModify fun _ => (none : Option (k.Data BrokenDown))
      k.receiveHeld column slot held

def updated {σ : Type} (left : σ) : Except Error σ → Except Error Unit × σ
  | .ok new => (.ok (), new)
  | .error e => (.error e, left)

section

variable (column : String) (slot : OutputSlot)

theorem receiveNumber_run {kind : Kind} (noText : kind ≠ .text) (noTime : kind ≠ .dateTime)
    (x : kind.Data BrokenDown) :
    (receiveNumber column kind slot).run.run x = updated x (kind.receive column slot) := by
  have fits : ¬ (kind = .text ∧ slot.overflowed = true) := fun both => noText both.1
  unfold receiveNumber Kind.receive
  rw [if_neg fits]
  cases slot.value with
  | null => rfl
  | of own data =>
    by_cases same : own = kind
    · subst same
      simp only [dif_pos]
      cases own with
      | text => exact absurd rfl noText
      | dateTime => exact absurd rfl noTime
      | _ => rfl
    · simp only [dif_neg same]
      rfl

theorem receiveText_run (x : String) :
    (receiveText column slot).run.run x = updated x (Kind.text.receive column slot) := by
  unfold receiveText Kind.receive
  cases slot.overflowed with
  | true => rfl
  | false =>
    cases slot.value with
    | null => rfl
    | of own data =>
      cases own with
      | text =>
        have cleared : "" ++ data = data := String.empty_append
        exact congrArg (Prod.mk (Except.ok ())) cleared
      | _ => rfl

theorem receiveTime_run (x : BrokenDown) :
    (receiveTime column slot).run.run x = updated x (Kind.dateTime.receive column slot) := by
  have fits : ¬ (Kind.dateTime = .text ∧ slot.overflowed = true) := by simp
  unfold receiveTime Kind.receive
  rw [if_neg fits]
  cases slot.value with
  | null => rfl
  | of own data =>
    cases own with
    | dateTime =>
      have converted : Kind.dateTime.tryTime BrokenDown.ofWire data = BrokenDown.ofWire data := rfl
      simp only [dif_pos, converted]
      cases BrokenDown.ofWire data <;> rfl
    | _ => rfl

namespace Kind

/-- Written step by step, a value of the kind becomes what it receives, and stays as it was if it
refuses. -/
theorem receiveInPlace_run (kind : Kind) (x : kind.Data BrokenDown) :
    (kind.receiveInPlace column slot).run.run x = updated x (kind.receive column slot) := by
  cases kind with
  | text => exact receiveText_run column slot x
  | dateTime => exact receiveTime_run column slot x
  | _ => exact receiveNumber_run column slot (by decide) (by decide) x

theorem receiveHeld_run (kind : Kind) (held left : Option (kind.Data BrokenDown)) :
    (kind.receiveHeld column slot held).run.run left =
      updated left ((kind.receive column slot).map some) := by
  unfold receiveHeld
  rw [receiveInPlace_run]
  cases kind.receive column slot <;> rfl

end Kind

namespace FieldType

/-- What the steps come to. -/
theorem receiveInPlace_run (τ : FieldType) (x : τ.Val) :
    (τ.receiveInPlace column slot).run.run x = updated (τ.afterRefusal x) (τ.receive column slot) := by
  cases τ with
  | required k => exact k.receiveInPlace_run column slot x
  | optional k =>
    by_cases absent : slot.value.isNull = true
    · simp only [receiveInPlace, receive, if_pos absent]
      rfl
    · simp only [receiveInPlace, receive, if_neg absent]
      -- The field has been emptied by the time its value refuses the slot.
      have taken := k.receiveHeld_run column slot x none
      cases outcome : k.receive column slot <;> rw [outcome] at taken <;> exact taken

/-- A required field keeps its value, an optional one is left at its default. -/
theorem afterRefusal_eq (τ : FieldType) (x : τ.Val) :
    τ.afterRefusal x = if τ.isOptional then τ.default else x := by
  cases τ <;> rfl

end FieldType

end

section

variable {column : String} {slot : OutputSlot} {e : Error}

/-- Why a value of the kind is not taken from a slot: a text that is too long, whatever the slot holds now, a
value of another kind, or a time that is none. -/
inductive Kind.Refuses (column : String) (slot : OutputSlot) (kind : Kind) : Error → Prop where
  | truncated (text : kind = .text) (overflowed : slot.overflowed = true) :
      Refuses column slot kind (.truncated column slot.value.length (slot.capacity.getD 0))
  | mismatch {own : Kind} {data : own.Data WireTime} (fits : ¬ (kind = .text ∧ slot.overflowed = true))
      (value : slot.value = .of own data) (other : own ≠ kind) :
      Refuses column slot kind (.typeMismatch column kind own)
  | invalid {w : WireTime} {rejected : Rejected} (time : kind = .dateTime)
      (value : slot.value = .of .dateTime w) (unreal : BrokenDown.ofWire w = .error rejected) :
      Refuses column slot kind (.invalidDateTime rejected)

/-- An optional field refuses nothing of a slot with NULL. -/
def FieldType.Refuses (column : String) (slot : OutputSlot) (τ : FieldType) (e : Error) : Prop :=
  (τ.isOptional = true → slot.value.isNull = false) ∧ τ.kind.Refuses column slot e

/-- A slot is refused for exactly these reasons. -/
theorem Kind.receive_eq_error_iff {kind : Kind} :
    kind.receive column slot = .error e ↔ kind.Refuses column slot e := by
  constructor
  · intro refused
    unfold receive at refused
    split at refused
    · rename_i longer
      cases refused
      exact .truncated longer.1 longer.2
    · rename_i fits
      split at refused
      · cases refused
      · rename_i own data value
        split at refused
        · rename_i same
          subst same
          split at refused
          · cases refused
          · rename_i failed
            cases refused
            obtain ⟨w, time, unreal⟩ := Kind.tryTime_eq_error_iff.1 failed
            cases time
            exact .invalid rfl value unreal
        · rename_i other
          cases refused
          exact .mismatch fits value other
  · intro refuses
    unfold receive
    cases refuses with
    | truncated text overflowed => exact if_pos ⟨text, overflowed⟩
    | mismatch fits value other =>
      rw [if_neg fits, value]
      exact dif_neg other
    | invalid time value unreal =>
      subst time
      have fits : ¬ (Kind.dateTime = .text ∧ slot.overflowed = true) := by simp
      have failed := Kind.tryTime_eq_error_iff.2 ⟨_, rfl, unreal⟩
      rw [if_neg fits, value]
      simp only [dif_pos, failed]

/-- A field refuses a slot for these reasons and for no other. -/
theorem FieldType.receive_eq_error_iff {τ : FieldType} :
    τ.receive column slot = .error e ↔ τ.Refuses column slot e := by
  cases τ with
  | required k =>
    rw [receive, Kind.receive_eq_error_iff]
    constructor
    · intro refuses
      refine ⟨?_, refuses⟩
      intro optional
      cases optional
    · exact And.right
  | optional k =>
    by_cases absent : slot.value.isNull = true
    · simp [receive, Refuses, absent, isOptional]
    · have taken : (optional k).receive column slot = .error e ↔ k.receive column slot = .error e := by
        rw [receive, if_neg absent]
        cases k.receive column slot <;> simp
      rw [taken, Kind.receive_eq_error_iff]
      simp [Refuses, absent, kind]

/-- Steps that fail leave a required field as it was and an optional one without a value. -/
theorem FieldType.receiveInPlace_fails {τ : FieldType} {x left : τ.Val} :
    (τ.receiveInPlace column slot).run.run x = (.error e, left) ↔
      τ.Refuses column slot e ∧ left = if τ.isOptional then τ.default else x := by
  rw [receiveInPlace_run, afterRefusal_eq, ← receive_eq_error_iff]
  cases τ.receive column slot with
  | ok y =>
    constructor
    · intro failed
      cases failed
    · rintro ⟨refused, -⟩
      cases refused
  | error e' =>
    constructor
    · intro failed
      cases failed
      exact ⟨rfl, rfl⟩
    · rintro ⟨refused, kept⟩
      cases refused
      exact Prod.ext rfl kept.symm

end

namespace Column

variable {b : Outputs}

def abandon (c : Column M) (r : Record M) : Record M :=
  if c.isOptional then r.set c.field c.field.type.default else r

theorem finalize_of_refuses {c : Column M} {slot : OutputSlot} {e : Error}
    (refuses : c.field.type.Refuses c.name.text slot e) (r : Record M) :
    c.finalize r slot = (c.abandon r, .error e) := by
  have refused := FieldType.receive_eq_error_iff.2 refuses
  simp only [finalize, refused, FieldType.afterRefusal_eq, abandon, isOptional]
  by_cases optional : c.field.type.isOptional = true
  · simp [optional]
  · simp [optional]

theorem finalizeAll_append (b : Outputs) (front back : List (Column M)) (index : Nat) (r : Record M) :
    finalizeAll b (front ++ back) index r =
      match finalizeAll b front index r with
      | (moved, .ok ()) => finalizeAll b back (index + front.length) moved
      | (left, .error e) => (left, .error e) := by
  induction front generalizing index r with
  | nil => rfl
  | cons c rest ih =>
    simp only [List.cons_append, finalizeAll]
    cases b.slot? index with
    | none => rfl
    | some slot =>
      dsimp only
      rcases c.finalize r slot with ⟨moved, e | ⟨⟩⟩
      · rfl
      · dsimp only
        rw [ih, List.length_cons, Nat.add_assoc, Nat.add_comm 1]

/-- The column at a position has no slot there or refuses it, when the columns before have moved theirs. -/
inductive StopsAt (b : Outputs) (index : Nat) (c : Column M) (before : Record M) : Record M → Error → Prop where
  | unbound (absent : b.slot? index = none) : StopsAt b index c before before (.unboundSlot index)
  | refused {slot : OutputSlot} {e : Error} (present : b.slot? index = some slot)
      (refuses : c.field.type.Refuses c.name.text slot e) : StopsAt b index c before (c.abandon before) e

/-- The columns behind one that stops are not reached. -/
theorem finalizeAll_of_stopsAt {index : Nat} {c : Column M} {before after : Record M} {e : Error}
    (stops : StopsAt b index c before after e) (rest : List (Column M)) :
    finalizeAll b (c :: rest) index before = (after, .error e) := by
  cases stops with
  | unbound absent => simp only [finalizeAll, absent]
  | refused present refuses => simp only [finalizeAll, present, finalize_of_refuses refuses]

/-- A column moves its slot, or it stops the row. -/
theorem moves_or_stopsAt (b : Outputs) (index : Nat) (c : Column M) (r : Record M) :
    (∃ slot moved, b.slot? index = some slot ∧ c.finalize r slot = (moved, .ok ())) ∨
      ∃ after e, StopsAt b index c r after e := by
  cases present : b.slot? index with
  | none => exact .inr ⟨r, _, .unbound present⟩
  | some slot =>
    cases taken : c.field.type.receive c.name.text slot with
    | ok x => exact .inl ⟨slot, r.set c.field x, rfl, by rw [finalize, taken]⟩
    | error e => exact .inr ⟨_, e, .refused present (FieldType.receive_eq_error_iff.1 taken)⟩

/-- Moving a row fails at the first column that stops it. -/
theorem finalizeAll_eq_error_iff {columns : List (Column M)} {index : Nat} {r after : Record M} {e : Error} :
    finalizeAll b columns index r = (after, .error e) ↔
      ∃ front c back before, columns = front ++ c :: back ∧
        finalizeAll b front index r = (before, .ok ()) ∧
        StopsAt b (index + front.length) c before after e := by
  constructor
  · intro failed
    -- A column that moves passes the row on at the next position, with another record.
    induction columns generalizing index r with
    | nil => cases failed
    | cons c rest ih =>
      rcases moves_or_stopsAt b index c r with ⟨slot, moved, present, taken⟩ | ⟨after', e', stops⟩
      · have step (others : List (Column M)) :
            finalizeAll b (c :: others) index r = finalizeAll b others (index + 1) moved := by
          simp only [finalizeAll, present, taken]
        rw [step] at failed
        obtain ⟨front, d, back, before, rfl, earlier, stops⟩ := ih failed
        refine ⟨c :: front, d, back, before, rfl, (step front).trans earlier, ?_⟩
        rwa [List.length_cons, Nat.add_comm front.length, ← Nat.add_assoc]
      · rw [finalizeAll_of_stopsAt stops] at failed
        cases failed
        exact ⟨[], c, rest, r, rfl, rfl, stops⟩
  · rintro ⟨front, c, back, before, rfl, earlier, stops⟩
    rw [finalizeAll_append, earlier]
    exact finalizeAll_of_stopsAt stops back

end Column

/-- A row is moved into the record up to the first column that has no slot or refuses it. The record is then
what the columns before make of it, but for an optional field of that column, which has given up its value;
steps on a field that fail leave a required one as it was and an optional one without a value. -/
theorem Query.finalizeRow_stops {t : Table M} {selection : t.Selection} {q : Query M}
    (selects : q.Selects selection) (b : Outputs) (r : Record M) :
    (∀ after e, q.finalizeRow b r = (after, .error e) ↔
      ∃ front c back before, selection.columns = front ++ c :: back ∧
        Column.finalizeAll b front 0 r = (before, .ok ()) ∧ c.StopsAt b front.length before after e) ∧
    ∀ (column : String) (slot : OutputSlot) (τ : FieldType) (x left : τ.Val) (e : Error),
      (τ.receiveInPlace column slot).run.run x = (.error e, left) ↔
        τ.Refuses column slot e ∧ left = if τ.isOptional then τ.default else x := by
  constructor
  · intro after e
    rw [finalizeRow, selects.outputColumns_eq, Column.finalizeAll_eq_error_iff]
    simp only [Nat.zero_add]
  · intro column slot τ x left e
    exact FieldType.receiveInPlace_fails

def Shelf.blurred : Outputs where
  slots := [{ value := .of .text "Νέα" }, { value := .of .text "soon" }]

theorem Query.finalizeRow_stops_someLabels :
    ∃ selection : Shelf.labels.Selection, Shelf.someLabels.Selects selection ∧
      (∀ after e, Shelf.someLabels.finalizeRow Shelf.blurred Shelf.label = (after, .error e) ↔
        ∃ front c back before, selection.columns = front ++ c :: back ∧
          Column.finalizeAll Shelf.blurred front 0 Shelf.label = (before, .ok ()) ∧
          c.StopsAt Shelf.blurred front.length before after e) ∧
      ∀ (column : String) (slot : OutputSlot) (τ : FieldType) (x left : τ.Val) (e : Error),
        (τ.receiveInPlace column slot).run.run x = (.error e, left) ↔
          τ.Refuses column slot e ∧ left = if τ.isOptional then τ.default else x := by
  have selects : Shelf.someLabels.Selects _ := .limited .select _
  exact ⟨_, selects, Query.finalizeRow_stops selects Shelf.blurred Shelf.label⟩

/-- The title is moved and the due date refused; the record left is not what the title alone makes of it. -/
theorem Query.due_given_up :
    ∃ front c back before after, Shelf.someLabels.outputColumns = front ++ c :: back ∧
      Column.finalizeAll Shelf.blurred front 0 Shelf.label = (before, .ok ()) ∧
      Shelf.someLabels.finalizeRow Shelf.blurred Shelf.label =
        (after, .error (.typeMismatch "due_on" .dateTime .text)) ∧
      before.get Shelf.due = some (.ofCalendar 2024 2 29 12 0 0) ∧ after.get Shelf.due = none := by
  exact ⟨[_], _, [], _, _, rfl, rfl, rfl, rfl, rfl⟩

end PreparedSql
