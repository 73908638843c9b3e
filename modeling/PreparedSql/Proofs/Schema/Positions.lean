import PreparedSql.Proofs.Schema.Mapping

/-!
# Positions of attributes

An attribute is looked up as the position of the column that maps it. Main statement: in every table the
lookup is the inverse of position (`Table.locates`).
-/

namespace PreparedSql

variable {M : Model}

namespace Table

def HasAttribute (t : Table M) (name : String) : Prop :=
  ∃ c ∈ t.columns, c.field.name = name

instance (t : Table M) : DecidablePred t.HasAttribute :=
  fun name => inferInstanceAs (Decidable (∃ c ∈ t.columns, c.field.name = name))

def MapsAt (t : Table M) (i : Nat) (name : String) : Prop :=
  ∃ c, t.columns[i]? = some c ∧ c.field.name = name

variable {t : Table M} {name : String} {i j : Nat} {c d : Column M}

theorem mapsAt_of_place (place : t.columns[i]? = some c) : t.MapsAt i c.field.name :=
  ⟨c, place, rfl⟩

theorem hasAttribute_iff : t.HasAttribute name ↔ ∃ i, t.MapsAt i name := by
  constructor
  · rintro ⟨c, member, rfl⟩
    obtain ⟨i, place⟩ := List.getElem?_of_mem member
    exact ⟨i, mapsAt_of_place place⟩
  · rintro ⟨i, c, place, named⟩
    exact ⟨c, List.mem_of_getElem? place, named⟩

theorem nodup_columns (t : Table M) : t.columns.Nodup :=
  t.pairwise_distinct.imp fun apart same => apart.1 (congrArg Column.name same)

/-- A column is known by the attribute that it maps. -/
theorem eq_of_field_name_eq (hc : c ∈ t.columns) (hd : d ∈ t.columns)
    (same : c.field.name = d.field.name) : c = d :=
  eq_of_field_eq hc hd (Field.name_injective same)

/-- An attribute has one position. -/
theorem MapsAt.unique (first : t.MapsAt i name) (second : t.MapsAt j name) : i = j := by
  obtain ⟨c, place, named⟩ := first
  obtain ⟨d, place', named'⟩ := second
  have same : c = d := eq_of_field_name_eq (List.mem_of_getElem? place) (List.mem_of_getElem? place')
    (named.trans named'.symm)
  have inside : i < t.columns.length := (List.getElem?_eq_some_iff.1 place).1
  exact (List.getElem?_inj inside t.nodup_columns).1 (by rw [place, place', same])

theorem mapsAt_of_findIdx? (found : t.columns.findIdx? (fun c => c.field.name == name) = some i) :
    t.MapsAt i name := by
  obtain ⟨inside, named, _⟩ := List.findIdx?_eq_some_iff_getElem.1 found
  exact ⟨t.columns[i], List.getElem?_eq_getElem inside, beq_iff_eq.1 named⟩

theorem findIdx?_eq_none_iff :
    t.columns.findIdx? (fun c => c.field.name == name) = none ↔ ¬ t.HasAttribute name := by
  simp [List.findIdx?_eq_none_iff, HasAttribute]

theorem columnIndex_eq_ok_iff : t.columnIndex name = .ok i ↔ t.MapsAt i name := by
  unfold columnIndex
  split
  · rename_i j found
    have there := mapsAt_of_findIdx? found
    rw [Except.ok.injEq]
    constructor
    · rintro rfl
      exact there
    · exact there.unique
  · rename_i missing
    simp only [reduceCtorEq, false_iff]
    exact fun there => findIdx?_eq_none_iff.1 missing (hasAttribute_iff.2 ⟨i, there⟩)

theorem columnIndex_eq_error_iff {e : Error} :
    t.columnIndex name = .error e ↔ ¬ t.HasAttribute name ∧ e = .attributeNotFound name t.name.text := by
  rw [← findIdx?_eq_none_iff, columnIndex]
  split <;> rename_i found <;> simp [found, eq_comm]

theorem column_eq_ok_iff :
    t.column name = .ok c ↔ ∃ i, t.columnIndex name = .ok i ∧ t.columns[i]? = some c := by
  unfold column column? columnIndex
  rw [List.find?_eq_bind_findIdx?_getElem?]
  cases found : t.columns.findIdx? fun c => c.field.name == name with
  | none => simp
  | some i =>
    obtain ⟨d, place, _⟩ := mapsAt_of_findIdx? found
    simp [place]

/-- The lookup of attributes is the inverse of position: an attribute is found at the one position of a
column that maps it, and refused if there is no such column. -/
structure Locates (t : Table M) : Prop where
  found : ∀ name i, t.columnIndex name = .ok i ↔ t.MapsAt i name
  once : ∀ name i j, t.MapsAt i name → t.MapsAt j name → i = j
  missing : ∀ name e,
    t.columnIndex name = .error e ↔ ¬ t.HasAttribute name ∧ e = .attributeNotFound name t.name.text
  column : ∀ name c, t.column name = .ok c ↔ ∃ i, t.columnIndex name = .ok i ∧ t.columns[i]? = some c

theorem locates (t : Table M) : t.Locates where
  found _ _ := columnIndex_eq_ok_iff
  once _ _ _ := MapsAt.unique
  missing _ _ := columnIndex_eq_error_iff
  column _ _ := column_eq_ok_iff

end Table

end PreparedSql
