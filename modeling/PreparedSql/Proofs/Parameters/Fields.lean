import PreparedSql.Proofs.Parameters.Fragments

/-!
# Mentioned fields

The fields that conditions and assignments mention, in the order of the text. Main statements: a
query has a text if its table maps them all, and otherwise it is refused for the first one that is
not mapped (`Query.judges_fields`, `Query.renders`).
-/

namespace PreparedSql

variable {M : Model}

def Operand.fields {τ : FieldType} : Operand M τ → List (Field M)
  | literal _ | var _ => []
  | column f _ => [f]

def Condition.fields : Condition M → List (Field M)
  | compare _ f operand => f :: operand.fields
  | logical _ left right => left.fields ++ right.fields
  | written .. => []

mutual

def Assignment.fields : Assignment M → List (Field M)
  | .set f operand => f :: operand.fields
  | .group members => members.fields

def Assignments.fields : Assignments M → List (Field M)
  | .last a => a.fields
  | .cons a rest => a.fields ++ rest.fields

end

/-- The fields that a query's clauses mention; the columns of its selection belong to the table
anyway. -/
def Query.fields : Query M → List (Field M)
  | select .. | insert .. | update _ | delete _ => []
  | filtered q c => q.fields ++ c.fields
  | assigned q a => q.fields ++ a.fields
  | limited q _ => q.fields

namespace Table

def firstUnmapped (t : Table M) (fs : List (Field M)) : Option (Field M) :=
  fs.find? fun f => ¬ t.Maps f

/-- A text that mentions the fields is there if the table maps them all, and refused for the first
that it does not map. -/
def Judges (t : Table M) (fs : List (Field M)) (text : Except Error String) : Prop :=
  match t.firstUnmapped fs with
  | none => ∃ sql, text = .ok sql
  | some f => text = .error (.attributeNotFound f.name t.name.text)

variable {t : Table M} {fs gs : List (Field M)}

theorem firstUnmapped_append :
    t.firstUnmapped (fs ++ gs) = (t.firstUnmapped fs).or (t.firstUnmapped gs) :=
  List.find?_append

theorem firstUnmapped_eq_none (mapped : ∀ f ∈ fs, t.Maps f) : t.firstUnmapped fs = none := by
  apply List.find?_eq_none.2
  intro f member
  simp [mapped f member]

theorem judges_of_ok {text : Except Error String} {sql : String} (there : text = .ok sql) :
    t.Judges [] text :=
  ⟨sql, there⟩

/-- A verdict on two texts in a row is that on the first, and then that on the second. -/
theorem Judges.followed {a b : Except Error String} (first : t.Judges fs a) (second : t.Judges gs b) :
    t.Judges (fs ++ gs) (followed a b) := by
  unfold Judges at first second ⊢
  rw [firstUnmapped_append]
  cases left : t.firstUnmapped fs with
  | some f =>
    rw [left] at first
    simp [first]
  | none =>
    rw [left] at first
    obtain ⟨x, rfl⟩ := first
    cases right : t.firstUnmapped gs with
    | some g =>
      rw [right] at second
      simp [second]
    | none =>
      rw [right] at second
      obtain ⟨y, rfl⟩ := second
      exact ⟨x ++ y, rfl⟩

theorem Judges.maps {sql : String} (verdict : t.Judges fs (.ok sql)) : ∀ f ∈ fs, t.Maps f := by
  unfold Judges at verdict
  cases found : t.firstUnmapped fs with
  | none =>
    intro f member
    simpa using List.find?_eq_none.1 found f member
  | some f =>
    rw [found] at verdict
    cases verdict

end Table

namespace Fragment

def field? : Fragment M → Option (Field M)
  | column f => some f
  | text _ | parameter _ => none

def fields (xs : List (Fragment M)) : List (Field M) :=
  xs.filterMap field?

@[simp] theorem fields_nil : fields ([] : List (Fragment M)) = [] := rfl

@[simp] theorem fields_append (xs ys : List (Fragment M)) : fields (xs ++ ys) = fields xs ++ fields ys := by
  simp [fields]

@[simp] theorem fields_text (sql : String) (rest : List (Fragment M)) :
    fields (.text sql :: rest) = fields rest := rfl

@[simp] theorem fields_column (f : Field M) (rest : List (Fragment M)) :
    fields (.column f :: rest) = f :: fields rest := rfl

@[simp] theorem fields_parameter (p : Parameter M) (rest : List (Fragment M)) :
    fields (.parameter p :: rest) = fields rest := rfl

theorem judges_render (t : Table M) (x : Fragment M) : t.Judges x.field?.toList (x.render t) := by
  cases x with
  | text sql => exact Table.judges_of_ok rfl
  | parameter p => exact Table.judges_of_ok rfl
  | column f =>
    unfold Table.Judges Table.firstUnmapped
    by_cases mapped : t.Maps f
    · obtain ⟨c, _, _, name⟩ := Field.render_of_maps mapped
      simp [field?, mapped, render, name]
    · simp [field?, mapped, render, Field.render_of_not_maps mapped]

theorem judges_renderAll (t : Table M) (xs : List (Fragment M)) : t.Judges (fields xs) (renderAll t xs) := by
  induction xs with
  | nil => exact Table.judges_of_ok rfl
  | cons x rest ih =>
    have split : fields (x :: rest) = x.field?.toList ++ fields rest := by cases x <;> rfl
    rw [split, renderAll_cons]
    exact (judges_render t x).followed ih

@[simp] theorem fields_listed (xs : List (Fragment M)) : fields (listed xs) = fields xs :=
  filterMap_listed rfl xs

end Fragment

theorem Operand.fields_fragments {τ : FieldType} (o : Operand M τ) :
    Fragment.fields o.fragments = o.fields := by
  cases o <;> rfl

namespace Condition

theorem fields_encloseFragments (op : Connective) (operand : Condition M) (xs : List (Fragment M)) :
    Fragment.fields (encloseFragments op operand xs) = Fragment.fields xs := by
  unfold encloseFragments
  split <;> simp

theorem fields_fragments (c : Condition M) : Fragment.fields c.fragments = c.fields := by
  induction c with
  | compare op f operand => simp [fragments, fields, operand.fields_fragments]
  | logical op left right ihLeft ihRight =>
    simp [fragments, fields, fields_encloseFragments, ihLeft, ihRight]
  | written sql slots disjunction => rfl

theorem maps_of_render {t : Table M} {c : Condition M} {sql : String} (rendered : c.render t = .ok sql) :
    ∀ f ∈ c.fields, t.Maps f := by
  have verdict := Fragment.judges_renderAll t c.fragments
  rw [← c.render_eq, rendered, c.fields_fragments] at verdict
  exact verdict.maps

end Condition

mutual

theorem Assignment.fields_fragments : (a : Assignment M) → Fragment.fields a.fragments = a.fields
  | .set f operand => by simp [Assignment.fragments, Assignment.fields, operand.fields_fragments]
  | .group members => members.fields_fragments

theorem Assignments.fields_fragments : (as : Assignments M) → Fragment.fields as.fragments = as.fields
  | .last a => a.fields_fragments
  | .cons a rest => by
    simp [Assignments.fragments, Assignments.fields, a.fields_fragments, rest.fields_fragments]

end

namespace Query

theorem fields_names (columns : List (Column M)) :
    Fragment.fields (columns.map fun c => .column c.field) = columns.map Column.field := by
  induction columns with
  | nil => rfl
  | cons c rest ih => rw [List.map_cons, Fragment.fields_column, ih, List.map_cons]

theorem fields_inserted (record : Option (Record M)) (columns : List (Column M)) :
    Fragment.fields (columns.map fun c => .parameter (.field c record)) = [] := by
  induction columns with
  | nil => rfl
  | cons c rest ih => rw [List.map_cons, Fragment.fields_parameter, ih]

/-- The columns of a selection are never to blame. -/
theorem firstUnmapped_names {t : Table M} (s : t.Selection) :
    t.firstUnmapped (s.columns.map Column.field) = none := by
  apply Table.firstUnmapped_eq_none
  intro f member
  obtain ⟨c, selected, rfl⟩ := List.mem_map.1 member
  exact ⟨c, s.mem c selected, rfl⟩

/-- The selected columns are mapped, so the first field that is not is one that a clause mentions.
-/
theorem firstUnmapped_fragments (q : Query M) :
    q.table.firstUnmapped (Fragment.fields q.fragments) = q.table.firstUnmapped q.fields := by
  induction q with
  | select t s =>
    simp only [fragments, fields, table, List.cons_append, Fragment.fields_text, Fragment.fields_append,
      Fragment.fields_listed, fields_names, Fragment.fields_nil, List.append_nil]
    exact firstUnmapped_names s
  | insert t s record =>
    simp only [fragments, fields, table, List.cons_append, Fragment.fields_text, Fragment.fields_append,
      Fragment.fields_listed, fields_names, fields_inserted, Fragment.fields_nil, List.append_nil]
    exact firstUnmapped_names s
  | update t => rfl
  | delete t => rfl
  | filtered q c ih => simp [fragments, fields, table, c.fields_fragments, Table.firstUnmapped_append, ih]
  | assigned q a ih => simp [fragments, fields, table, a.fields_fragments, Table.firstUnmapped_append, ih]
  | limited q l ih => simp [fragments, fields, table, ih]

/-- A query is rendered if its table maps the fields it mentions, and else refused for the first
that it does not. -/
theorem judges_fields (q : Query M) : q.table.Judges q.fields q.render := by
  have verdict := Fragment.judges_renderAll q.table q.fragments
  rw [← render_eq] at verdict
  unfold Table.Judges at verdict ⊢
  rwa [firstUnmapped_fragments] at verdict

theorem renders {q : Query M} (mapped : ∀ f ∈ q.fields, q.table.Maps f) : ∃ sql, q.render = .ok sql := by
  have verdict := q.judges_fields
  unfold Table.Judges at verdict
  rwa [Table.firstUnmapped_eq_none mapped] at verdict

end Query

end PreparedSql
