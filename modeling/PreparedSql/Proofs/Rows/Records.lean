import PreparedSql.Query.Rows

/-!
# The record of a row

What a row says about a record, without the slots that it passes through: its cells are read from
left to right, then taken into fields from left to right. Main statement: this gives the record whose
fields hold the cells of their columns, the last one of a column that is selected again, or else the
error of the first cell that cannot be read, or else that of the first one that cannot be taken
(`Row.gives_record`).
-/

namespace PreparedSql

open Calendar

variable {M : Model}

section

variable {α β : Type} {f : Nat → α → Except Error β}

def collectFrom (f : Nat → α → Except Error β) (index : Nat) : List α → Except Error (List β)
  | [] => .ok []
  | a :: rest =>
    match f index a with
    | .error e => .error e
    | .ok b =>
      match collectFrom f (index + 1) rest with
      | .error e => .error e
      | .ok bs => .ok (b :: bs)

theorem collectFrom_eq_ok {index : Nat} {list : List α} {results : List β}
    (collected : collectFrom f index list = .ok results) : results.length = list.length ∧
      ∀ (i : Nat) (a : α), list[i]? = some a → ∃ b, results[i]? = some b ∧ f (index + i) a = .ok b := by
  induction list generalizing index results with
  | nil =>
    cases collected
    simp
  | cons a rest ih =>
    rw [collectFrom] at collected
    split at collected
    · cases collected
    · rename_i b first
      split at collected
      · cases collected
      · rename_i others later
        cases collected
        obtain ⟨same, each⟩ := ih later
        refine ⟨by simp [same], ?_⟩
        intro i a' found
        cases i with
        | zero =>
          cases found
          exact ⟨b, rfl, first⟩
        | succ i =>
          obtain ⟨b', there, result⟩ := each i a' found
          exact ⟨b', there, by rwa [Nat.add_assoc, Nat.add_comm 1] at result⟩

/-- The first failure is reported. -/
theorem collectFrom_eq_error {index : Nat} {list : List α} {e : Error}
    (failed : collectFrom f index list = .error e) :
    ∃ (i : Nat) (a : α), list[i]? = some a ∧ f (index + i) a = .error e ∧
      ∀ j < i, ∀ a', list[j]? = some a' → ∃ b, f (index + j) a' = .ok b := by
  induction list generalizing index with
  | nil => cases failed
  | cons a rest ih =>
    rw [collectFrom] at failed
    split at failed
    · rename_i first
      cases failed
      exact ⟨0, a, rfl, first, by simp⟩
    · rename_i b first
      split at failed
      · rename_i later
        cases failed
        obtain ⟨i, a', there, result, before⟩ := ih later
        refine ⟨i + 1, a', there, by rwa [Nat.add_assoc, Nat.add_comm 1] at result, ?_⟩
        intro j below x found
        cases j with
        | zero =>
          cases found
          exact ⟨b, first⟩
        | succ j =>
          obtain ⟨y, good⟩ := before j (by omega) x found
          exact ⟨y, by rwa [Nat.add_assoc, Nat.add_comm 1] at good⟩
      · cases failed

end

theorem exists_last_index {α : Type} {list : List α} {a : α} (member : a ∈ list) :
    ∃ i : Nat, list[i]? = some a ∧ ∀ j, i < j → list[j]? ≠ some a := by
  obtain ⟨after, before, split, last⟩ := List.eq_append_cons_of_mem (List.mem_reverse.2 member)
  have same : list = before.reverse ++ a :: after.reverse := by
    simpa using congrArg List.reverse split
  refine ⟨before.reverse.length, by simp [same], ?_⟩
  intro j beyond found
  rw [same, List.getElem?_append_right (Nat.le_of_lt beyond)] at found
  obtain ⟨k, distance⟩ : ∃ k, j - before.reverse.length = k + 1 :=
    ⟨j - before.reverse.length - 1, by omega⟩
  rw [distance, List.getElem?_cons_succ] at found
  exact last (List.mem_reverse.1 (List.mem_of_getElem? found))

def FieldType.present : (τ : FieldType) → τ.kind.Data BrokenDown → τ.Val
  | required _, x => x
  | optional _, x => some x

namespace Column

/-- A text of more characters than the column is wide, with that width. -/
def overlong? (c : Column M) : Value → Option (String × Nat)
  | .of .text text =>
    match c.width with
    | some n => if n < text.length then some (text, n) else none
    | none => none
  | _ => none

/-- What the column's field makes of a cell: its default of NULL, and of any other value that value,
unless it is too long, of another kind or no date that a record can hold. -/
def take (c : Column M) : Value → Except Error c.field.type.Val
  | .null => .ok c.field.type.default
  | .of own data =>
    match c.overlong? (.of own data) with
    | some (text, n) => .error (.truncated c.name.text text.utf8ByteSize n)
    | none =>
      if same : own = c.kind then
        match c.kind.tryTime BrokenDown.ofWire (same ▸ data) with
        | .ok x => .ok (c.field.type.present x)
        | .error e => .error (.invalidDateTime e)
      else .error (.typeMismatch c.name.text c.kind own)

theorem overlong?_eq_some_iff {c : Column M} {value : Value} {text : String} {n : Nat} :
    c.overlong? value = some (text, n) ↔
      c.width = some n ∧ value = .of .text text ∧ n < text.length := by
  constructor
  · intro longer
    unfold overlong? at longer
    split at longer
    · split at longer
      · rename_i width
        obtain ⟨below, same⟩ := Option.ite_none_right_eq_some.1 longer
        cases same
        exact ⟨width, rfl, below⟩
      · cases longer
    · cases longer
  · rintro ⟨width, rfl, below⟩
    simp [overlong?, width, below]

end Column

structure Filling (M : Model) where
  field : Field M
  value : field.type.Val

def Column.fill (c : Column M) (value : Value) : Except Error (Filling M) :=
  match c.take value with
  | .ok x => .ok ⟨c.field, x⟩
  | .error e => .error e

def Record.fill (r : Record M) (fillings : List (Filling M)) : Record M :=
  fillings.foldl (fun r a => r.set a.field a.value) r

def Row.values (row : Row) (columns : List (Column M)) : Except Error (List Value) :=
  collectFrom (fun i c => row.read i c.kind) 0 columns

def Column.fillAll (cells : List (Column M × Value)) : Except Error (List (Filling M)) :=
  collectFrom (fun _ (c, value) => c.fill value) 0 cells

def Row.record (columns : List (Column M)) (row : Row) : Except Error (Record M) :=
  match row.values columns with
  | .error e => .error e
  | .ok values =>
    match Column.fillAll (columns.zip values) with
    | .error e => .error e
    | .ok fillings => .ok (Record.default.fill fillings)

namespace Record

theorem get_fill_of_ne {r : Record M} {fillings : List (Filling M)} {f : Field M}
    (apart : ∀ a ∈ fillings, a.field ≠ f) : (r.fill fillings).get f = r.get f := by
  induction fillings generalizing r with
  | nil => rfl
  | cons a rest ih =>
    rw [List.forall_mem_cons] at apart
    refine (ih apart.2).trans ?_
    exact get_set_of_ne r apart.1 a.value

/-- The last filling of a field stays. -/
theorem get_fill {r : Record M} {fillings : List (Filling M)} {i : Nat} {a : Filling M}
    (here : fillings[i]? = some a)
    (last : ∀ j a', i < j → fillings[j]? = some a' → a'.field ≠ a.field) :
    (r.fill fillings).get a.field = a.value := by
  induction fillings generalizing r i with
  | nil => cases here
  | cons first rest ih =>
    cases i with
    | zero =>
      cases here
      have apart : ∀ a' ∈ rest, a'.field ≠ a.field := by
        intro a' member
        obtain ⟨j, found⟩ := List.mem_iff_getElem?.1 member
        exact last (j + 1) a' (by omega) found
      refine (get_fill_of_ne apart).trans ?_
      exact get_set_self r a.field a.value
    | succ i =>
      refine ih here ?_
      intro j a' after found
      exact last (j + 1) a' (by omega) found

end Record

def Column.Takes (row : Row) (i : Nat) (c : Column M) (x : c.field.type.Val) : Prop :=
  ∃ value, row.read i c.kind = .ok value ∧ c.take value = .ok x

theorem Column.Takes.unique {row : Row} {i : Nat} {c : Column M} {x y : c.field.type.Val}
    (first : c.Takes row i x) (second : c.Takes row i y) : x = y := by
  obtain ⟨value, read, taken⟩ := first
  obtain ⟨value', again, taken'⟩ := second
  cases read.symm.trans again
  cases taken.symm.trans taken'
  rfl

/-- What a row under the columns may give, said of positions. -/
inductive Row.Gives (columns : List (Column M)) (row : Row) : Except Error (Record M) → Prop where
  /-- A cell cannot be read, those before it can. -/
  | unread {i : Nat} {c : Column M} {e : Error} (here : columns[i]? = some c)
      (failed : row.read i c.kind = .error e)
      (before : ∀ j < i, ∀ d, columns[j]? = some d → ∃ value, row.read j d.kind = .ok value) :
      Gives columns row (.error e)
  /-- Every cell is read and one is refused, those before it are taken. -/
  | refused {i : Nat} {c : Column M} {value : Value} {e : Error}
      (read : ∀ j d, columns[j]? = some d → ∃ value, row.read j d.kind = .ok value)
      (here : columns[i]? = some c) (cell : row.read i c.kind = .ok value)
      (failed : c.take value = .error e)
      (before : ∀ j < i, ∀ d, columns[j]? = some d → ∃ x, d.Takes row j x) :
      Gives columns row (.error e)
  /-- Every cell is taken. A field holds what its last column took. -/
  | record {r : Record M}
      (taken : ∀ (i : Nat) (c : Column M), columns[i]? = some c → ∃ x, c.Takes row i x ∧
        ((∀ (j : Nat) (d : Column M), i < j → columns[j]? = some d → d.field ≠ c.field) →
          r.get c.field = x))
      (others : ∀ f : Field M, (∀ c ∈ columns, c.field ≠ f) → r.get f = f.initial) :
      Gives columns row (.ok r)

namespace Column

theorem fillAll_eq_ok {cells : List (Column M × Value)} {fillings : List (Filling M)}
    (filled : fillAll cells = .ok fillings) : fillings.length = cells.length ∧
      ∀ (i : Nat) (c : Column M) (value : Value), cells[i]? = some (c, value) →
        ∃ x, fillings[i]? = some ⟨c.field, x⟩ ∧ c.take value = .ok x := by
  obtain ⟨same, each⟩ := collectFrom_eq_ok filled
  refine ⟨same, ?_⟩
  intro i c value here
  obtain ⟨a, there, good⟩ := each i (c, value) here
  dsimp only [fill] at good
  split at good
  · rename_i x taken
    cases good
    exact ⟨x, there, taken⟩
  · cases good

/-- The first column that refuses its cell is reported. -/
theorem fillAll_eq_error {cells : List (Column M × Value)} {e : Error} (failed : fillAll cells = .error e) :
    ∃ (i : Nat) (c : Column M) (value : Value), cells[i]? = some (c, value) ∧ c.take value = .error e ∧
      ∀ j < i, ∀ d w, cells[j]? = some (d, w) → ∃ x, d.take w = .ok x := by
  obtain ⟨i, ⟨c, value⟩, here, refused, before⟩ := collectFrom_eq_error failed
  refine ⟨i, c, value, here, ?_, ?_⟩
  · dsimp only [fill] at refused
    split at refused
    · cases refused
    · rename_i reason
      cases refused
      exact reason
  · intro j below d w found
    obtain ⟨a, good⟩ := before j below (d, w) found
    dsimp only [fill] at good
    split at good
    · rename_i x taken
      exact ⟨x, taken⟩
    · cases good

/-- A filling belongs to the column at its position. -/
theorem origin_of_fillAll {cells : List (Column M × Value)} {fillings : List (Filling M)}
    (filled : fillAll cells = .ok fillings) {j : Nat} {a : Filling M} (found : fillings[j]? = some a) :
    ∃ c value, cells[j]? = some (c, value) ∧ a.field = c.field := by
  obtain ⟨same, each⟩ := fillAll_eq_ok filled
  have inside : j < cells.length := same ▸ (List.getElem?_eq_some_iff.1 found).1
  have here := List.getElem?_eq_getElem inside
  obtain ⟨x, there, _⟩ := each j _ _ here
  cases found.symm.trans there
  exact ⟨_, _, here, rfl⟩

end Column

namespace Row

theorem values_eq_ok {row : Row} {columns : List (Column M)} {values : List Value}
    (read : row.values columns = .ok values) : values.length = columns.length ∧
      ∀ (i : Nat) (c : Column M), columns[i]? = some c →
        ∃ value, (columns.zip values)[i]? = some (c, value) ∧ row.read i c.kind = .ok value := by
  obtain ⟨same, each⟩ := collectFrom_eq_ok read
  refine ⟨same, ?_⟩
  intro i c here
  obtain ⟨value, there, cell⟩ := each i c here
  exact ⟨value, List.getElem?_zip_eq_some.2 ⟨here, there⟩, by rwa [Nat.zero_add] at cell⟩

theorem Gives.of_values {columns : List (Column M)} {row : Row} {values : List Value}
    (read : row.values columns = .ok values) {e : Error}
    (failed : Column.fillAll (columns.zip values) = .error e) : Gives columns row (.error e) := by
  obtain ⟨_, cells⟩ := values_eq_ok read
  obtain ⟨i, c, value, there, refused, before⟩ := Column.fillAll_eq_error failed
  obtain ⟨here, _⟩ := List.getElem?_zip_eq_some.1 there
  obtain ⟨value', again, cell⟩ := cells i c here
  cases there.symm.trans again
  refine .refused ?_ here cell refused ?_
  · intro j d found
    obtain ⟨w, _, other⟩ := cells j d found
    exact ⟨w, other⟩
  · intro j below d found
    obtain ⟨w, place, other⟩ := cells j d found
    obtain ⟨x, taken⟩ := before j below d w place
    exact ⟨x, w, other, taken⟩

/-- What the columns took fills the record, the last one of a field deciding. -/
theorem Gives.of_fillings {columns : List (Column M)} {row : Row} {values : List Value}
    (read : row.values columns = .ok values) {fillings : List (Filling M)}
    (filled : Column.fillAll (columns.zip values) = .ok fillings) :
    Gives columns row (.ok (Record.default.fill fillings)) := by
  obtain ⟨_, cells⟩ := values_eq_ok read
  obtain ⟨_, each⟩ := Column.fillAll_eq_ok filled
  have origin {j : Nat} {a : Filling M} (found : fillings[j]? = some a) :
      ∃ d, columns[j]? = some d ∧ a.field = d.field := by
    obtain ⟨d, w, place, owner⟩ := Column.origin_of_fillAll filled found
    exact ⟨d, (List.getElem?_zip_eq_some.1 place).1, owner⟩
  refine .record ?_ ?_
  · intro i c here
    obtain ⟨value, place, cell⟩ := cells i c here
    obtain ⟨x, there, taken⟩ := each i c value place
    refine ⟨x, ⟨value, cell, taken⟩, ?_⟩
    intro last
    refine Record.get_fill there ?_
    intro j a after found
    obtain ⟨d, column, owner⟩ := origin found
    rw [owner]
    exact last j d after column
  · intro f apart
    refine Record.get_fill_of_ne ?_
    intro a member
    obtain ⟨j, found⟩ := List.mem_iff_getElem?.1 member
    obtain ⟨d, column, owner⟩ := origin found
    rw [owner]
    exact apart d (List.mem_of_getElem? column)

/-- The row gives its record, or the error that keeps it from having one. -/
theorem gives_record (columns : List (Column M)) (row : Row) :
    Gives columns row (row.record columns) := by
  unfold record
  cases read : row.values columns with
  | error e =>
    obtain ⟨i, c, here, failed, before⟩ := collectFrom_eq_error read
    simp only [Nat.zero_add] at failed before
    exact .unread here failed before
  | ok values =>
    dsimp only
    cases filled : Column.fillAll (columns.zip values) with
    | error e => exact .of_values read filled
    | ok fillings => exact .of_fillings read filled

theorem gives_of_eq {columns : List (Column M)} {row : Row} {outcome : Except Error (Record M)}
    (result : row.record columns = outcome) : Gives columns row outcome := by
  rw [← result]
  exact gives_record columns row

/-- Where no two columns share a field and every field takes its cell, each field of the record holds
what its column took at one of its positions. -/
theorem record_of_takes {columns : List (Column M)} {row : Row}
    (apart : ∀ c ∈ columns, ∀ d ∈ columns, d.field = c.field → d = c)
    (takes : ∀ (i : Nat) (c : Column M), columns[i]? = some c → ∃ x, c.Takes row i x) :
    ∃ r, row.record columns = .ok r ∧
      (∀ c ∈ columns, ∃ i, columns[i]? = some c ∧ c.Takes row i (r.get c.field)) ∧
      ∀ f : Field M, (∀ c ∈ columns, c.field ≠ f) → r.get f = f.initial := by
  cases result : row.record columns with
  | error e =>
    cases gives_of_eq result with
    | unread here failed before =>
      obtain ⟨x, value, read, _⟩ := takes _ _ here
      rw [read] at failed
      cases failed
    | refused read here cell failed before =>
      obtain ⟨x, value, again, taken⟩ := takes _ _ here
      cases cell.symm.trans again
      rw [taken] at failed
      cases failed
  | ok r =>
    cases gives_of_eq result with
    | record taken others =>
      refine ⟨r, rfl, ?_, others⟩
      intro c member
      obtain ⟨i, here, last⟩ := exists_last_index member
      obtain ⟨x, took, held⟩ := taken i c here
      have same : r.get c.field = x := by
        apply held
        intro j d after found owner
        have equal := apart c member d (List.mem_of_getElem? found) owner
        exact last j after (equal ▸ found)
      exact ⟨i, here, same ▸ took⟩

end Row

end PreparedSql
