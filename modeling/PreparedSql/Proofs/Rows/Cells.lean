import PreparedSql.Proofs.Calendar.Wire
import PreparedSql.Proofs.Rows.Records
import PreparedSql.Proofs.Schema.Mapping

/-!
# Cells and fields

A cell that is read under a column is NULL or a value of the column's kind, and a real date if that
is its kind. Main statement: the column's field takes such a cell unless it is a text of more
characters than the column's width (`Column.take_eq_error_iff`).
-/

namespace PreparedSql

open Calendar

variable {M : Model}

/-- A value that was decoded has a place in a record. -/
theorem Kind.tryTime_of_decode? {own kind : Kind} {x : own.Data CellTime} {data : kind.Data WireTime}
    (decoded : own.decode? x kind = some data) : ∃ y, kind.tryTime BrokenDown.ofWire data = .ok y := by
  cases kind with
  | dateTime =>
    obtain ⟨c, _, real⟩ := Option.bind_eq_some_iff.1 decoded
    unfold CellTime.read? at real
    split at real
    · cases real
    · rename_i d found
      obtain ⟨_, same⟩ := Option.ite_none_right_eq_some.1 real
      rw [← Option.some_inj.1 same, ← WireTime.toDateTime?_eq_some_iff.1 found]
      exact ⟨_, BrokenDown.ofWire_ofDateTime d⟩
  | _ => exact ⟨data, rfl⟩

namespace Row

/-- A cell that was read is NULL, or a value of the kind that a record can hold. -/
theorem read_eq_ok {row : Row} {i : Nat} {kind : Kind} {value : Value}
    (read : row.read i kind = .ok value) :
    value = .null ∨ ∃ data y, value = .of kind data ∧ kind.tryTime BrokenDown.ofWire data = .ok y := by
  unfold Row.read at read
  split at read
  · cases read
  · cases read
    exact .inl rfl
  · split at read
    · rename_i data decoded
      cases read
      obtain ⟨y, real⟩ := Kind.tryTime_of_decode? decoded
      exact .inr ⟨data, y, rfl, real⟩
    · cases read

theorem read_eq_error {row : Row} {i : Nat} {kind : Kind} {e : Error}
    (failed : row.read i kind = .error e) : ∃ cause, e = .database cause := by
  unfold Row.read at failed
  split at failed
  · cases failed
    exact ⟨_, rfl⟩
  · cases failed
  · split at failed
    · cases failed
    · cases failed
      exact ⟨_, rfl⟩

/-- Only a text cell is read as a text. -/
theorem read_text_iff {row : Row} {i : Nat} {text : String} :
    row.read i .text = .ok (.of .text text) ↔ row[i]? = some ⟨.text, some text⟩ := by
  constructor
  · intro read
    unfold Row.read at read
    split at read
    · cases read
    · cases read
    · rename_i own data here
      split at read
      · rename_i found decoded
        cases read
        cases own with
        | text =>
          cases decoded
          exact here
        | _ => cases decoded
      · cases read
  · intro here
    simp [Row.read, here, Kind.decode?, Kind.text?]

theorem read_null {row : Row} {i : Nat} {own : Kind} (here : row[i]? = some ⟨own, none⟩) (kind : Kind) :
    row.read i kind = .ok .null := by
  simp [Row.read, here]

end Row

namespace Column

variable {c : Column M}

@[simp] theorem take_null : c.take .null = .ok c.field.type.default := rfl

theorem take_of {data : c.kind.Data WireTime} {y : c.kind.Data BrokenDown}
    (real : c.kind.tryTime BrokenDown.ofWire data = .ok y)
    (fits : c.overlong? (.of c.kind data) = none) :
    c.take (.of c.kind data) = .ok (c.field.type.present y) := by
  simp [take, fits, real]

/-- A text that is too long is refused with its length in bytes and the column's width. -/
theorem take_of_overlong {value : Value} {text : String} {n : Nat}
    (longer : c.overlong? value = some (text, n)) :
    c.take value = .error (.truncated c.name.text text.utf8ByteSize n) := by
  obtain ⟨_, rfl, _⟩ := overlong?_eq_some_iff.1 longer
  simp [take, longer]

/-- The cell holds a text of more characters than the column may hold. -/
structure Overflows (row : Row) (i : Nat) (c : Column M) (n : Nat) (text : String) : Prop where
  width : c.width = some n
  cell : row[i]? = some ⟨.text, some text⟩
  longer : n < text.length

theorem Overflows.read {row : Row} {i n : Nat} {text : String} (overflows : c.Overflows row i n text) :
    row.read i c.kind = .ok (.of .text text) := by
  have kind : c.kind = .text := c.kind_of_width (by rw [overflows.width]; rfl)
  rw [kind]
  exact Row.read_text_iff.2 overflows.cell

/-- A cell that was read is refused for its length, and for nothing else. -/
theorem take_eq_error_iff {row : Row} {i : Nat} {value : Value} (read : row.read i c.kind = .ok value)
    {e : Error} :
    c.take value = .error e ↔
      ∃ n text, c.Overflows row i n text ∧ e = .truncated c.name.text text.utf8ByteSize n := by
  constructor
  · intro refused
    rcases Row.read_eq_ok read with rfl | ⟨data, y, rfl, real⟩
    · rw [take_null] at refused
      cases refused
    · cases fits : c.overlong? (.of c.kind data) with
      | none =>
        rw [take_of real fits] at refused
        cases refused
      | some longest =>
        obtain ⟨text, n⟩ := longest
        rw [take_of_overlong fits] at refused
        cases refused
        obtain ⟨width, same, longer⟩ := overlong?_eq_some_iff.1 fits
        have kind : c.kind = .text := c.kind_of_width (by rw [width]; rfl)
        rw [same, kind] at read
        exact ⟨n, text, ⟨width, Row.read_text_iff.1 read, longer⟩, rfl⟩
  · rintro ⟨n, text, overflows, rfl⟩
    cases read.symm.trans overflows.read
    exact take_of_overlong (overlong?_eq_some_iff.2 ⟨overflows.width, rfl, overflows.longer⟩)

end Column

def Shelf.labels : Table Shelf.book where
  name := ⟨"labels", by decide⟩
  columns := [(column ⟨"short_title", by decide⟩ title).withWidth 5 rfl, column ⟨"due_on", by decide⟩ due]
  columns_ne_nil := by simp
  pairwise_distinct := by decide

end PreparedSql
