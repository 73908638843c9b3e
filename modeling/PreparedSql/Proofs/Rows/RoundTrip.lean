import PreparedSql.Proofs.Rows.Cells
import PreparedSql.Proofs.Rows.Fetching
import PreparedSql.Proofs.Parameters.Types

/-!
# From an insert to a select

A record that is inserted travels as parameters and comes back as cells. Main statement: the fields
that were inserted and are selected come back as they went, all others at their defaults
(`Table.round_trip`).
-/

namespace PreparedSql

open Calendar

variable {M : Model}

/-- A text that the column has room for, or the time of a date that the client can send; any other
value. -/
def Kind.Storable (width : Option Nat) : (k : Kind) → k.Data BrokenDown → Prop
  | text, x => ∀ n ∈ width, x.length ≤ n
  | dateTime, t => ∃ d, t.SameTime (.ofDateTime d) ∧ d.IsSendable
  | _, _ => True

/-- A value and what came back for it, the same but for the fields that follow from a date. -/
def Kind.Returned : (k : Kind) → k.Data BrokenDown → k.Data BrokenDown → Prop
  | dateTime, t, u =>
    u.SameTime t ∧ ∃ d, t.SameTime (.ofDateTime d) ∧ u.weekday = Int32.ofNat d.weekday ∧
      u.yearDay = Int32.ofNat d.yearDay ∧ u.daylight = -1
  | _, x, y => y = x

namespace FieldType

def Storable (width : Option Nat) : (τ : FieldType) → τ.Val → Prop
  | required k, x => k.Storable width x
  | optional k, x => ∀ present ∈ x, k.Storable width present

def Returned : (τ : FieldType) → τ.Val → τ.Val → Prop
  | required k, x, y => k.Returned x y
  | optional k, x, y => Option.Rel k.Returned x y

/-- A value is absent, which the default stands for, or it is there. -/
theorem absent_or_present {width : Option Nat} {τ : FieldType} {x : τ.Val} (storable : τ.Storable width x) :
    (τ.content x = .null ∧ τ.Returned x τ.default) ∨
      ∃ z, τ.kind.Storable width z ∧ τ.content x = .of τ.kind (τ.kind.content z) ∧
        ∀ u, τ.kind.Returned z u → τ.Returned x (τ.present u) := by
  cases τ with
  | required k => exact .inr ⟨x, storable, rfl, fun _ returned => returned⟩
  | optional k =>
    cases x with
    | none => exact .inl ⟨rfl, .none⟩
    | some z => exact .inr ⟨z, storable z rfl, rfl, fun _ returned => .some returned⟩

end FieldType

namespace Kind

variable {width : Option Nat} {k : Kind} {z : k.Data BrokenDown}

theorem content_of_sameTime {t : BrokenDown} {d : DateTime} (same : t.SameTime (.ofDateTime d)) :
    dateTime.content t = WireTime.ofDateTime d :=
  (mapTime_toWire dateTime t).symm.trans (BrokenDown.toWire_of_sameTime same)

theorem length_le_of_storable {n : Nat} {text : String} (storable : k.Storable width z)
    (given : width = some n) (same : Value.of k (k.content z) = .of .text text) :
    text.length ≤ n := by
  cases k with
  | text =>
    cases same
    exact storable n given
  | _ => cases same

/-- The value goes out as a parameter that the client can encode. -/
theorem exists_parameter (storable : k.Storable width z) : ∃ y : k.Data DateTime,
    k.mapTime WireTime.ofDateTime y = k.content z ∧ Datum.Sendable ⟨k, some y⟩ := by
  cases k with
  | dateTime =>
    obtain ⟨d, same, sendable⟩ := storable
    refine ⟨d, (content_of_sameTime same).symm, ?_⟩
    intro d' date
    cases date
    exact sendable
  | _ => exact ⟨z, rfl, by intro d date; cases date⟩

/-- The value comes in again. -/
theorem exists_returned (storable : k.Storable width z) :
    ∃ u, k.tryTime BrokenDown.ofWire (k.content z) = .ok u ∧ k.Returned z u := by
  cases k with
  | dateTime =>
    obtain ⟨d, same, _⟩ := storable
    refine ⟨.ofDateTime d, ?_, ?_⟩
    · exact (congrArg BrokenDown.ofWire (content_of_sameTime same)).trans (BrokenDown.ofWire_ofDateTime d)
    · exact ⟨same.symm, d, same, rfl, rfl, rfl⟩
  | _ => exact ⟨z, rfl, rfl⟩

end Kind

def Datum.cell (p : Datum DateTime) : Datum CellTime :=
  ⟨p.kind, p.data.map (p.kind.mapTime fun d => { time := .ofDateTime d })⟩

/-- A cell that holds what was sent is read as it was bound. -/
theorem Row.read_cell {row : Row} {i : Nat} {p : Datum DateTime} (here : row[i]? = some p.cell) :
    row.read i p.kind = .ok p.value := by
  obtain ⟨kind, data⟩ := p
  cases data with
  | none => exact read_null here kind
  | some y =>
    have decoded : kind.decode? (kind.mapTime (fun d => { time := .ofDateTime d }) y) kind =
        some (kind.mapTime WireTime.ofDateTime y) := by
      by_cases calendar : kind = .dateTime
      · subst calendar
        have real := WireTime.toDateTime?_eq_some_iff.2 (rfl : WireTime.ofDateTime y = _)
        have fits : 0 < if y.second = 59 then 2000000 else 1000000 := by split <;> decide
        simp [Kind.decode?, Kind.time?, Kind.mapTime, CellTime.read?, real, fits]
      · rw [Kind.decode?_self calendar]
        cases kind <;> rfl
    simp only [Datum.cell, Option.map_some] at here
    simp [Row.read, here, decoded, Datum.value]

namespace Column

variable {c : Column M} {x : c.field.type.Val}

theorem fits_of_storable {z : c.kind.Data BrokenDown} (storable : c.kind.Storable c.width z) :
    c.overlong? (.of c.kind (c.kind.content z)) = none := by
  rw [Option.eq_none_iff_forall_ne_some]
  rintro ⟨text, n⟩ longer
  obtain ⟨width, same, below⟩ := overlong?_eq_some_iff.1 longer
  exact absurd below (Nat.not_lt.2 (Kind.length_le_of_storable storable width same))

/-- The column takes back what it wrote. -/
theorem take_content (storable : c.field.type.Storable c.width x) :
    ∃ y, c.take (c.field.type.content x) = .ok y ∧ c.field.type.Returned x y := by
  rcases FieldType.absent_or_present storable with ⟨null, returned⟩ | ⟨z, storable, value, returned⟩
  · exact ⟨_, by rw [null, take_null], returned⟩
  · obtain ⟨u, real, back⟩ := Kind.exists_returned storable
    exact ⟨_, by rw [value]; exact take_of real (fits_of_storable storable), returned u back⟩

def written (r : Record M) (c : Column M) : InputSlot :=
  .bound c.kind (c.field.type.content (r.get c.field))

theorem exists_sent {r : Record M} (storable : c.field.type.Storable c.width (r.get c.field)) :
    ∃ p : Datum DateTime, c.written r = p.slot ∧ p.Sendable := by
  rcases FieldType.absent_or_present storable with ⟨null, _⟩ | ⟨z, storable, value, _⟩
  · exact ⟨⟨c.kind, none⟩, by rw [written, null]; rfl, Datum.sendable_null c.kind⟩
  · obtain ⟨y, same, sendable⟩ := Kind.exists_parameter storable
    exact ⟨⟨c.kind, some y⟩, by rw [written, value, ← same]; rfl, sendable⟩

end Column

/-- A record whose columns can all store it is sent. -/
theorem Column.exists_parameters {columns : List (Column M)} {r : Record M}
    (storable : ∀ c ∈ columns, c.field.type.Storable c.width (r.get c.field)) :
    ∃ sent : List (Datum DateTime), columns.map (written r) = sent.map Datum.slot ∧
      ∀ p ∈ sent, p.Sendable := by
  induction columns with
  | nil => exact ⟨[], rfl, by simp⟩
  | cons c rest ih =>
    rw [List.forall_mem_cons] at storable
    obtain ⟨p, same, first⟩ := exists_sent storable.1
    obtain ⟨sent, others, later⟩ := ih storable.2
    refine ⟨p :: sent, ?_, List.forall_mem_cons.2 ⟨first, later⟩⟩
    rw [List.map_cons, List.map_cons, same, others]

/-- For each selected attribute the row carries what was sent for it when it was inserted. -/
def Row.Carries (inserted : List String) (sent : List (Datum DateTime)) (selected : List String)
    (row : Row) : Prop :=
  ∀ (j : Nat) (name : String), selected[j]? = some name →
    ∃ (i : Nat) (p : Datum DateTime), inserted[i]? = some name ∧ sent[i]? = some p ∧ row[j]? = some p.cell

namespace Table

variable {t : Table M} {r : Record M}

/-- The insert of the attributes is prepared and applies the parameters, whether its query was given
the record or its statement. -/
def Inserts (t : Table M) (names : List String) (r : Record M) (sent : List (Datum DateTime)) : Prop :=
  ∃ q, t.insertOnly names = .ok q ∧ ∀ ρ, ∃ recorded bare,
    Statement.ofQuery ρ (q.values r) = .ok recorded ∧ Statement.ofQuery ρ q = .ok bare ∧
      ∀ s ∈ [recorded, bare.bindRecord r], ∀ ρ', (s.rebind ρ').inputs.parameters = .ok sent

/-- The select of the attributes is prepared, and it fetches the record when the row is delivered. -/
def FetchesOne (t : Table M) (names : List String) (row : Row) (r : Record M) : Prop :=
  ∃ q, t.selectOnly names = .ok q ∧ ∀ ρ, ∃ s, Statement.ofQuery ρ q = .ok s ∧
    ∀ ρ' σ, (σ.delivery s.sql s.persistent []).rows.head? = some row → (s.fetchOne ρ' σ).result = .ok r

theorem inserts_of_written {names : List String} {selection : t.Selection}
    (found : t.only names = .ok selection) {sent : List (Datum DateTime)}
    (same : selection.columns.map (Column.written r) = sent.map Datum.slot) : t.Inserts names r sent := by
  refine ⟨.insert t selection none, by rw [insertOnly, found], ?_⟩
  intro ρ
  have own (record : Option (Record M)) : (Query.insert t selection record).wordings = [] := rfl
  obtain ⟨recorded, given⟩ := Statement.exists_prepared ρ (own (some r)) (by simp [Query.fields])
  obtain ⟨bare, prepared⟩ := Statement.exists_prepared ρ (own none) (by simp [Query.fields])
  obtain ⟨_, _, query, inputs⟩ := Statement.ofQuery_inv given
  obtain ⟨_, _, query', inputs'⟩ := Statement.ofQuery_inv prepared
  have filled := Statement.inputs_bindRecord (.inl query'.symm) inputs' r
  have slots : (Query.insert t selection (some r)).claims.map (Claim.slot ρ) = sent.map Datum.slot := by
    rw [← same, Query.claims, Column.claims, List.map_map]
    rfl
  refine ⟨recorded, bare, given, prepared, ?_⟩
  intro s member ρ'
  -- An insert has no variables, so what its slots hold is not read again.
  simp only [List.mem_cons, List.not_mem_nil, or_false] at member
  rcases member with rfl | rfl
  · rw [Statement.rebind, query, Query.rebind, inputs, slots, Inputs.parameters_slots]
  · rw [Statement.rebind, Statement.query_bindRecord, query', Query.rebind, filled, Query.values, slots,
      Inputs.parameters_slots]

theorem fetchesOne_of_record {names : List String} {selection : t.Selection}
    (found : t.only names = .ok selection) {row : Row} (given : row.record selection.columns = .ok r) :
    t.FetchesOne names row r := by
  refine ⟨.select t selection, by rw [selectOnly, found], ?_⟩
  intro ρ
  have own : (Query.select t selection).wordings = [] := rfl
  obtain ⟨s, prepared⟩ := Statement.exists_prepared ρ own (by simp [Query.fields])
  obtain ⟨_, _, query, inputs⟩ := Statement.ofQuery_inv prepared
  refine ⟨s, prepared, ?_⟩
  intro ρ' σ delivered
  have applied : (s.rebind ρ').inputs.parameters = .ok [] := by
    rw [Statement.rebind, query, inputs]
    rfl
  have fetches := Statement.fetches_of_ready (Statement.ready_of_prepared prepared) applied σ
  rw [fetches.one, query, Delivery.only_of_head delivered]
  exact given

/-- A selected column takes back what the same column wrote when the record was inserted. -/
theorem takes_of_carries {into selection : t.Selection} {sent : List (Datum DateTime)} {row : Row}
    (storable : ∀ c ∈ into.columns, c.field.type.Storable c.width (r.get c.field))
    (same : into.columns.map (Column.written r) = sent.map Datum.slot)
    (carries : Row.Carries (into.columns.map fun c => c.field.name) sent
      (selection.columns.map fun c => c.field.name) row)
    {j : Nat} {c : Column M} (here : selection.columns[j]? = some c) :
    ∃ x, c.Takes row j x ∧ c.field.type.Returned (r.get c.field) x := by
  obtain ⟨i, p, there, position, cell⟩ := carries j c.field.name (by rw [List.getElem?_map, here]; rfl)
  rw [List.getElem?_map] at there
  obtain ⟨d, origin, owner⟩ := Option.map_eq_some_iff.1 there
  have inserted := List.mem_of_getElem? origin
  cases eq_of_field_eq (into.mem d inserted) (selection.mem c (List.mem_of_getElem? here))
    (Field.name_injective owner)
  have slots := congrArg (fun slots => slots[i]?) same
  rw [List.getElem?_map, origin, List.getElem?_map, position] at slots
  obtain ⟨kind, value⟩ := InputSlot.bound.inj (Option.some_inj.1 slots)
  have read := Row.read_cell cell
  rw [← kind, ← value] at read
  obtain ⟨y, taken, returned⟩ := Column.take_content (storable _ inserted)
  exact ⟨y, ⟨_, read, taken⟩, returned⟩

/-- A record comes back from the table as far as its fields are inserted and selected: the insert of
some attributes is sent, and a select of attributes among these fetches their values from any row
that carries what was sent, and nothing else. -/
theorem round_trip (t : Table M) {inserted selected : List String} (listed : inserted ≠ [])
    (asked : selected ≠ []) (mapped : ∀ name ∈ inserted, ∃ c ∈ t.columns, c.field.name = name)
    (drawn : selected ⊆ inserted) (r : Record M)
    (storable : ∀ c ∈ t.columns, c.field.name ∈ inserted →
      c.field.type.Storable c.width (r.get c.field)) :
    ∃ sent, t.Inserts inserted r sent ∧ firstUnsendable sent = none ∧
      ∀ row, Row.Carries inserted sent selected row →
        ∃ r', t.FetchesOne selected row r' ∧
          (∀ f : Field M, f.name ∈ selected → f.type.Returned (r.get f) (r'.get f)) ∧
          ∀ f : Field M, f.name ∉ selected → r'.get f = f.initial := by
  obtain ⟨into, listing, rfl⟩ := only_of_mapped listed mapped
  obtain ⟨selection, found, rfl⟩ := only_of_mapped asked fun name member => mapped name (drawn member)
  have stored : ∀ c ∈ into.columns, c.field.type.Storable c.width (r.get c.field) := by
    intro c member
    exact storable c (into.mem c member) (List.mem_map.2 ⟨c, member, rfl⟩)
  obtain ⟨sent, same, sendable⟩ := Column.exists_parameters stored
  refine ⟨sent, inserts_of_written listing same, firstUnsendable_of_sendable sendable, ?_⟩
  intro row carries
  have apart : ∀ c ∈ selection.columns, ∀ d ∈ selection.columns, d.field = c.field → d = c := by
    intro c hc d hd
    exact eq_of_field_eq (selection.mem d hd) (selection.mem c hc)
  obtain ⟨r', given, held, others⟩ := Row.record_of_takes apart fun j c here =>
    (takes_of_carries stored same carries here).imp fun _ both => both.1
  refine ⟨r', fetchesOne_of_record found given, ?_, ?_⟩
  · intro f member
    obtain ⟨c, chosen, owner⟩ := List.mem_map.1 member
    cases Field.name_injective owner
    obtain ⟨j, here, takes⟩ := held c chosen
    obtain ⟨x, took, returned⟩ := takes_of_carries stored same carries here
    rwa [takes.unique took]
  · intro f absent
    apply others
    rintro c chosen rfl
    exact absent (List.mem_map.2 ⟨c, chosen, rfl⟩)

end Table

def Shelf.label : Record Shelf.book :=
  (Record.default.set title "Ωμέγα").set due (some (.ofCalendar 2024 2 29 12 0 0))

theorem Table.round_trip_label :
    let inserted := ["due", "title"]
    let selected := ["title"]
    ∃ sent, Shelf.labels.Inserts inserted Shelf.label sent ∧ firstUnsendable sent = none ∧
      ∀ row, Row.Carries inserted sent selected row →
        ∃ r', Shelf.labels.FetchesOne selected row r' ∧
          (∀ f : Field Shelf.book, f.name ∈ selected → f.type.Returned (Shelf.label.get f) (r'.get f)) ∧
          ∀ f : Field Shelf.book, f.name ∉ selected → r'.get f = f.initial := by
  have mapped : ∀ name ∈ ["due", "title"], ∃ c ∈ Shelf.labels.columns, c.field.name = name := by decide
  have storable : ∀ c ∈ Shelf.labels.columns, c.field.name ∈ ["due", "title"] →
      c.field.type.Storable c.width (Shelf.label.get c.field) := by
    intro c member _
    simp only [Shelf.labels, List.mem_cons, List.not_mem_nil, or_false] at member
    rcases member with rfl | rfl
    · intro n given
      cases given
      decide
    · intro t given
      cases given
      exact ⟨⟨2024, 2, 29, 12, 0, 0, by decide⟩, by decide, by decide⟩
  exact Table.round_trip Shelf.labels (by simp) (by simp) mapped (by simp) Shelf.label storable

end PreparedSql
