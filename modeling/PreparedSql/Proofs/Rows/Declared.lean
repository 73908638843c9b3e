import PreparedSql.Proofs.Rows.Records

/-!
# Declared output slots

A statement's output slots are declared once and keep their declarations; only what they store
changes. Main statements: a declared slot stores a cell, and gives it to its field, as the column
says (`Column.store_eq_slot`, `Column.receive_slot`); slots start declared
(`Query.declared_declareOutputs`) and stay so (`Query.declared_readRow`); and reading rows through
declared slots gives the records of these rows, whatever the slots stored before (`Query.readRow_eq`,
`Query.readRows_eq`).
-/

namespace PreparedSql

variable {M : Model}

theorem FieldType.receive_null {column : String} {τ : FieldType} {slot : OutputSlot}
    (value : slot.value = .null) (fits : slot.overflowed = false) :
    τ.receive column slot = .ok τ.default := by
  cases τ <;> simp [receive, Kind.receive, default, value, fits]

theorem FieldType.receive_present {column : String} {τ : FieldType} {slot : OutputSlot}
    (there : slot.value.isNull = false) :
    τ.receive column slot = (τ.kind.receive column slot).map τ.present := by
  cases τ with
  | required k =>
    dsimp only [receive, kind]
    cases k.receive column slot <;> rfl
  | optional k =>
    rw [receive, there]
    dsimp only [kind]
    cases k.receive column slot <;> rfl

namespace Column

/-- The slot of the column that holds the value and nothing from before. -/
def slot (c : Column M) (value : Value) : OutputSlot where
  kind := some c.kind
  capacity := c.width
  value
  overflowed := (c.overlong? value).isSome

theorem overflows_width (c : Column M) (value : Value) :
    OutputSlot.overflows c.width value = (c.overlong? value).isSome := by
  unfold OutputSlot.overflows overlong? Value.text?
  cases value with
  | null => rfl
  | of kind data =>
    cases kind with
    | text =>
      cases c.width with
      | none => rfl
      | some n => by_cases longer : n < data.length <;> simp [longer]
    | _ => rfl

/-- A slot that is declared for the column stores a value as the column's slot holds it. -/
theorem store_eq_slot {c : Column M} {s : OutputSlot} (kind : s.kind = some c.kind)
    (width : s.capacity = c.width) (value : Value) : s.store value = c.slot value := by
  rw [OutputSlot.store, slot, width, overflows_width, kind]

/-- The column's field receives from the column's slot what it takes from the cell. -/
theorem receive_slot (c : Column M) (value : Value) :
    c.field.type.receive c.name.text (c.slot value) = c.take value := by
  cases value with
  | null => exact FieldType.receive_null rfl rfl
  | of own data =>
    have received : c.field.type.receive c.name.text (c.slot (.of own data)) =
        (c.kind.receive c.name.text (c.slot (.of own data))).map c.field.type.present :=
      FieldType.receive_present rfl
    rw [received, Kind.receive, take]
    cases fits : c.overlong? (.of own data) with
    | some longest =>
      obtain ⟨text, n⟩ := longest
      obtain ⟨width, same, _⟩ := overlong?_eq_some_iff.1 fits
      have kind : c.kind = .text := c.kind_of_width (by rw [width]; rfl)
      have overflowed : (c.slot (.of own data)).overflowed = true := by rw [slot, fits]; rfl
      rw [if_pos ⟨kind, overflowed⟩, same, slot, width]
      rfl
    | none =>
      have overflowed : ¬(c.kind = .text ∧ (c.slot (.of own data)).overflowed) := by simp [slot, fits]
      rw [if_neg overflowed]
      dsimp only [slot]
      by_cases same : own = c.kind
      · rw [dif_pos same, dif_pos same]
        cases c.kind.tryTime Calendar.BrokenDown.ofWire (same ▸ data) <;> rfl
      · rw [dif_neg same, dif_neg same]
        rfl

end Column

def OutputSlot.declaration (s : OutputSlot) : Option Kind × Option Nat :=
  (s.kind, s.capacity)

def Column.declaration (c : Column M) : Option Kind × Option Nat :=
  (some c.kind, c.width)

/-- The slots are declared for the columns, whatever they store. -/
def Outputs.Declared (columns : List (Column M)) (b : Outputs) : Prop :=
  b.slots.map OutputSlot.declaration = columns.map Column.declaration

@[simp] theorem OutputSlot.declaration_store (s : OutputSlot) (value : Value) :
    (s.store value).declaration = s.declaration := rfl

def Column.blank (c : Column M) : OutputSlot :=
  { kind := some c.kind, capacity := c.width }

theorem Column.declareAll_fresh (columns : List (Column M)) (front : List OutputSlot) :
    declareAll columns front.length ⟨front ++ List.replicate columns.length ({} : OutputSlot)⟩ =
      ⟨front ++ columns.map blank⟩ := by
  induction columns generalizing front with
  | nil => rfl
  | cons c rest ih =>
    let later := List.replicate rest.length ({} : OutputSlot)
    have reached := List.modifyTailIdx_add
      (List.modifyHead fun s : OutputSlot => s.declare c.kind c.width) 0 front (({} : OutputSlot) :: later)
    have first : c.bindOutput ⟨front ++ ({} : OutputSlot) :: later⟩ front.length =
        ⟨front ++ c.blank :: later⟩ :=
      congrArg Outputs.mk reached
    have next := ih (front ++ [c.blank])
    rw [List.length_append, List.length_singleton, List.append_assoc, List.append_assoc] at next
    rw [List.length_cons, List.replicate_succ, declareAll, first]
    exact next

/-- A fresh statement declares a slot for each column of its query. -/
theorem Query.declared_declareOutputs (q : Query M) :
    (q.declareOutputs (Outputs.empty q.outputCount)).Declared q.outputColumns := by
  have fresh := Column.declareAll_fresh q.outputColumns []
  rw [List.nil_append, List.length_nil] at fresh
  unfold declareOutputs Outputs.empty outputCount
  rw [fresh, Outputs.Declared, List.nil_append, List.map_map]
  rfl

namespace Outputs

theorem declarations_storeFrom (row : Row) (index : Nat) (slots : List OutputSlot) :
    (storeFrom row index slots).1.map OutputSlot.declaration = slots.map OutputSlot.declaration := by
  induction slots generalizing index with
  | nil => rfl
  | cons slot rest ih =>
    rw [storeFrom]
    split
    · rfl
    · split
      · rfl
      · simp [ih]

theorem Declared.fetch {columns : List (Column M)} {b : Outputs} (declared : b.Declared columns)
    (row : Row) : (b.fetch row).1.Declared columns :=
  (declarations_storeFrom row 0 b.slots).trans declared

/-- Storing through declared slots reads the cells under the columns, and leaves nothing of what the
slots stored before. -/
theorem storeFrom_eq (row : Row) (index : Nat) {columns : List (Column M)} {slots : List OutputSlot}
    (declared : slots.map OutputSlot.declaration = columns.map Column.declaration) :
    match collectFrom (fun i c => row.read i c.kind) index columns with
    | .error e => (storeFrom row index slots).2 = .error e
    | .ok values => storeFrom row index slots = (List.zipWith Column.slot columns values, .ok ()) := by
  induction columns generalizing index slots with
  | nil =>
    cases slots with
    | nil => rfl
    | cons slot rest => cases declared
  | cons c columns ih =>
    cases slots with
    | nil => cases declared
    | cons slot rest =>
      rw [List.map_cons, List.map_cons, List.cons.injEq] at declared
      obtain ⟨first, others⟩ := declared
      have kind : slot.kind = some c.kind := congrArg Prod.fst first
      have width : slot.capacity = c.width := congrArg Prod.snd first
      rw [storeFrom, kind, collectFrom]
      dsimp only
      cases row.read index c.kind with
      | error e => rfl
      | ok value =>
        have later := ih (index + 1) others
        have stored := Column.store_eq_slot kind width value
        dsimp only
        cases collected : collectFrom (fun i c => row.read i c.kind) (index + 1) columns with
        | error e =>
          rw [collected] at later
          exact later
        | ok values =>
          rw [collected] at later
          dsimp only at later ⊢
          rw [later, stored]
          rfl

end Outputs

/-- Slots that hold the cells of a row are moved into a record as the fields take the cells. -/
theorem Column.finalizeAll_eq {b : Outputs} {cells : List (Column M × Value)} {index : Nat}
    (stored : ∀ i c value, cells[i]? = some (c, value) → b.slot? (index + i) = some (c.slot value))
    (start : Nat) (r : Record M) :
    match collectFrom (fun _ (c, value) => Column.fill c value) start cells with
    | .error e => (finalizeAll b (cells.map Prod.fst) index r).2 = .error e
    | .ok fillings => finalizeAll b (cells.map Prod.fst) index r = (r.fill fillings, .ok ()) := by
  induction cells generalizing index start r with
  | nil => rfl
  | cons cell rest ih =>
    obtain ⟨c, value⟩ := cell
    have slot : b.slot? index = some (c.slot value) := stored 0 c value rfl
    have others : ∀ i d w, rest[i]? = some (d, w) → b.slot? (index + 1 + i) = some (d.slot w) := by
      intro i d w found
      rw [Nat.add_assoc, Nat.add_comm 1]
      exact stored (i + 1) d w found
    rw [collectFrom, List.map_cons, finalizeAll, slot]
    dsimp only
    cases taken : c.take value with
    | error e =>
      have filled : c.fill value = .error e := by rw [fill, taken]
      have refused : (c.finalize r (c.slot value)).2 = .error e := by rw [finalize, receive_slot, taken]
      rw [filled]
      dsimp only
      split
      · rename_i finalized
        rw [finalized] at refused
        cases refused
      · rename_i finalized
        rw [finalized] at refused
        exact refused
    | ok x =>
      have filled : c.fill value = .ok ⟨c.field, x⟩ := by rw [fill, taken]
      have finalized : c.finalize r (c.slot value) = (r.set c.field x, .ok ()) := by
        rw [finalize, receive_slot, taken]
      have later := ih others (start + 1) (r.set c.field x)
      rw [filled, finalized]
      dsimp only
      cases collected : collectFrom (fun _ (c, value) => Column.fill c value) (start + 1) rest with
      | error e =>
        rw [collected] at later
        exact later
      | ok fillings =>
        rw [collected] at later
        exact later

theorem Column.finalizeAll_zipWith {columns : List (Column M)} {values : List Value}
    (same : values.length = columns.length) (r : Record M) :
    let b : Outputs := ⟨List.zipWith slot columns values⟩
    match fillAll (columns.zip values) with
    | .error e => (finalizeAll b columns 0 r).2 = .error e
    | .ok fillings => finalizeAll b columns 0 r = (r.fill fillings, .ok ()) := by
  intro b
  have stored : ∀ i c value, (columns.zip values)[i]? = some (c, value) →
      b.slot? (0 + i) = some (c.slot value) := by
    intro i c value found
    obtain ⟨here, there⟩ := List.getElem?_zip_eq_some.1 found
    rw [Outputs.slot?, Nat.zero_add, List.getElem?_zipWith, here, there]
  have moved := finalizeAll_eq stored 0 r
  rwa [List.map_fst_zip (Nat.le_of_eq same.symm)] at moved

namespace Query

variable {q : Query M} {b : Outputs}

/-- A row that is read through declared slots gives its record. -/
theorem readRow_eq (declared : b.Declared q.outputColumns) (row : Row) :
    (q.readRow b row).2 = row.record q.outputColumns := by
  have stored := Outputs.storeFrom_eq row 0 declared
  rw [← Row.values] at stored
  unfold readRow Outputs.fetch finalizeRow Row.record
  cases read : row.values q.outputColumns with
  | error e =>
    rw [read] at stored
    dsimp only at stored ⊢
    rw [stored]
  | ok values =>
    have moved := Column.finalizeAll_zipWith (Row.values_eq_ok read).1 (Record.default : Record M)
    rw [read] at stored
    dsimp only at stored ⊢
    rw [stored]
    dsimp only
    cases filled : Column.fillAll (q.outputColumns.zip values) with
    | error e =>
      rw [filled] at moved
      dsimp only at moved ⊢
      split
      · rename_i refused
        rw [refused] at moved
        cases moved
        rfl
      · rename_i finalized
        rw [finalized] at moved
        cases moved
    | ok fillings =>
      rw [filled] at moved
      dsimp only at moved ⊢
      rw [moved]

theorem declared_readRow (declared : b.Declared q.outputColumns) (row : Row) :
    (q.readRow b row).1.Declared q.outputColumns := by
  have kept := declared.fetch row
  unfold readRow
  split
  · rename_i failed
    rwa [failed] at kept
  · rename_i fetched
    rw [fetched] at kept
    split <;> exact kept

theorem declared_readRows (declared : b.Declared q.outputColumns) (rows : List Row) :
    (q.readRows b rows).1.Declared q.outputColumns := by
  induction rows generalizing b with
  | nil => exact declared
  | cons row rest ih =>
    have kept := declared_readRow declared row
    rw [readRows]
    split
    · rename_i failed
      rwa [failed] at kept
    · rename_i read
      rw [read] at kept
      have later := ih kept
      split <;> rename_i others <;> rwa [others] at later

/-- The rows of an answer become the records of these rows, up to the first that has none. -/
theorem readRows_eq (declared : b.Declared q.outputColumns) (rows : List Row) :
    (q.readRows b rows).2 = rows.mapM (Row.record q.outputColumns) := by
  induction rows generalizing b with
  | nil => rfl
  | cons row rest ih =>
    have first := readRow_eq declared row
    have kept := declared_readRow declared row
    rw [readRows, List.mapM_cons, ← first]
    cases read : q.readRow b row with
    | mk after result =>
      rw [read] at kept
      cases result with
      | error e => rfl
      | ok r =>
        have later := ih kept
        dsimp only
        rw [← later]
        cases others : q.readRows after rest with
        | mk final results => cases results <;> rfl

end Query

end PreparedSql
