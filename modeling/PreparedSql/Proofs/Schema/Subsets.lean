import PreparedSql.Proofs.Schema.Positions
import PreparedSql.Query.Building

/-!
# Subsets of attributes

A select or an insert names attributes of its table, or those that it leaves out. Main statement: the listed
attributes and the others share out the columns of the table, the listed ones in the order of the list and
the others in the order of the table; a list is refused for its first attribute that has no column
(`Table.subsets_divide`).
-/

namespace PreparedSql

variable {M : Model}

namespace Table

variable {t : Table M} {names : List String} {name : String} {e : Error}

/-- Of the listed attributes, the first that has no column. -/
def FirstMissing (t : Table M) (names : List String) (name : String) : Prop :=
  ∃ before after, names = before ++ name :: after ∧ (∀ a ∈ before, t.HasAttribute a) ∧
    ¬ t.HasAttribute name

/-- The list is refused for its first attribute that has no column. -/
def Refuses (t : Table M) (names : List String) (e : Error) : Prop :=
  ∃ name, t.FirstMissing names name ∧ e = .attributeNotFound name t.name.text

theorem firstMissing_iff : t.FirstMissing names name ↔ names.find? (¬ t.HasAttribute ·) = some name := by
  simp only [FirstMissing, List.find?_eq_some_iff_append, decide_eq_true_eq, Bool.not_eq_true',
    decide_eq_false_iff_not, Classical.not_not]
  constructor
  · rintro ⟨before, after, same, mapped, absent⟩
    exact ⟨absent, before, after, same, mapped⟩
  · rintro ⟨absent, before, after, same, mapped⟩
    exact ⟨before, after, same, mapped, absent⟩

theorem exists_firstMissing_iff :
    (∃ name, t.FirstMissing names name) ↔ ∃ a ∈ names, ¬ t.HasAttribute a := by
  simp only [firstMissing_iff, ← Option.isSome_iff_exists, List.find?_isSome, decide_eq_true_eq]

theorem exists_refuses_iff : (∃ e, t.Refuses names e) ↔ ∃ a ∈ names, ¬ t.HasAttribute a := by
  rw [← exists_firstMissing_iff]
  constructor
  · rintro ⟨_, name, missing, _⟩
    exact ⟨name, missing⟩
  · rintro ⟨name, missing⟩
    exact ⟨_, name, missing, rfl⟩

theorem column?_eq_none (absent : ¬ t.HasAttribute name) : t.column? name = none :=
  List.find?_eq_none.2 fun c member named => absent ⟨c, member, beq_iff_eq.1 named⟩

def Selection.cons {c : Column M} (member : c ∈ t.columns) (s : t.Selection) : t.Selection :=
  ⟨c :: s.columns, List.forall_mem_cons.2 ⟨member, s.mem⟩⟩

theorem lookup_cons {c : Column M} (member : c ∈ t.columns) (rest : List String) :
    t.lookup (c.field.name :: rest) = (t.lookup rest).map (Selection.cons member) := by
  have first := column?_field_name member
  rw [lookup]
  split
  · rename_i missing
    cases missing.symm.trans first
  · rename_i d found
    cases found.symm.trans first
    cases t.lookup rest <;> rfl

theorem lookup_of_firstMissing (missing : t.FirstMissing names name) :
    t.lookup names = .error (.attributeNotFound name t.name.text) := by
  obtain ⟨before, after, rfl, mapped, absent⟩ := missing
  induction before with
  | nil =>
    rw [List.nil_append, lookup]
    split
    · rfl
    · rename_i c found
      cases found.symm.trans (column?_eq_none absent)
  | cons a rest ih =>
    obtain ⟨⟨c, member, rfl⟩, others⟩ := List.forall_mem_cons.1 mapped
    rw [List.cons_append, lookup_cons member, ih others]
    rfl

/-- A list is refused for its first attribute without a column, and only then. -/
theorem lookup_eq_error_iff : t.lookup names = .error e ↔ t.Refuses names e := by
  constructor
  · intro refused
    have unmapped : ∃ a ∈ names, ¬ t.HasAttribute a := by
      apply Classical.byContradiction
      intro none
      obtain ⟨s, found, _⟩ := lookup_of_mapped fun a member =>
        Classical.not_not.1 fun absent => none ⟨a, member, absent⟩
      cases found.symm.trans refused
    obtain ⟨name, missing⟩ := exists_firstMissing_iff.2 unmapped
    cases (lookup_of_firstMissing missing).symm.trans refused
    exact ⟨name, missing, rfl⟩
  · rintro ⟨name, missing, rfl⟩
    exact lookup_of_firstMissing missing

theorem only_eq_error_iff : t.only names = .error e ↔ t.Refuses names e := by
  rw [← lookup_eq_error_iff, only]
  split
  · rename_i empty
    subst empty
    simp [lookup]
  · rfl

theorem allBut_eq_error_iff : t.allBut names = .error e ↔ t.Refuses names e := by
  rw [← lookup_eq_error_iff, allBut]
  split <;> rename_i found <;> simp [found]

/-- Columns of the table are told apart by their attributes. -/
theorem eq_of_map_field_name {xs ys : List (Column M)} (hx : ∀ c ∈ xs, c ∈ t.columns)
    (hy : ∀ c ∈ ys, c ∈ t.columns)
    (same : xs.map (fun c => c.field.name) = ys.map fun c => c.field.name) : xs = ys := by
  induction xs generalizing ys with
  | nil => rw [List.map_eq_nil_iff.1 same.symm]
  | cons c xs ih =>
    cases ys with
    | nil => cases same
    | cons d ys =>
      obtain ⟨first, others⟩ := List.cons.inj same
      obtain ⟨hc, hx⟩ := List.forall_mem_cons.1 hx
      obtain ⟨hd, hy⟩ := List.forall_mem_cons.1 hy
      rw [eq_of_field_name_eq hc hd first, ih hx hy others]

theorem Selection.ext {s s' : t.Selection} (same : s.columns = s'.columns) : s = s' := by
  obtain ⟨columns, _⟩ := s
  obtain ⟨columns', _⟩ := s'
  cases same
  rfl

/-- A lookup gives the columns that map the attributes, one for each. -/
theorem lookup_eq_ok_iff {s : t.Selection} :
    t.lookup names = .ok s ↔ s.columns.map (fun c => c.field.name) = names := by
  constructor
  · intro found
    have mapped : ∀ a ∈ names, t.HasAttribute a := by
      intro a member
      refine Classical.not_not.1 fun absent => ?_
      obtain ⟨e, refuses⟩ := exists_refuses_iff.2 ⟨a, member, absent⟩
      cases found.symm.trans (lookup_eq_error_iff.2 refuses)
    obtain ⟨s', found', named⟩ := lookup_of_mapped mapped
    cases found.symm.trans found'
    exact named
  · rintro rfl
    have mapped : ∀ a ∈ s.columns.map fun c => c.field.name, t.HasAttribute a := by
      intro a member
      obtain ⟨c, listed, rfl⟩ := List.mem_map.1 member
      exact ⟨c, s.mem c listed, rfl⟩
    obtain ⟨s', found, named⟩ := lookup_of_mapped mapped
    rw [found, Selection.ext (eq_of_map_field_name s'.mem s.mem named)]

theorem mem_of_lookup {s : t.Selection} (found : t.lookup names = .ok s) {c : Column M}
    (member : c ∈ t.columns) : c ∈ s.columns ↔ c.field.name ∈ names := by
  rw [← lookup_eq_ok_iff.1 found, List.mem_map]
  constructor
  · intro listed
    exact ⟨c, listed, rfl⟩
  · rintro ⟨d, listed, same⟩
    rwa [← eq_of_field_name_eq (s.mem d listed) member same]

theorem exists_lookup (mapped : ∀ a ∈ names, t.HasAttribute a) : ∃ s, t.lookup names = .ok s := by
  obtain ⟨s, found, _⟩ := lookup_of_mapped mapped
  exact ⟨s, found⟩

theorem exists_only (mapped : ∀ a ∈ names, t.HasAttribute a) :
    ∃ s, t.only names = .ok s ∧ (names = [] → s.columns = t.columns) ∧
      (names ≠ [] → s.columns.map (fun c => c.field.name) = names) := by
  by_cases empty : names = []
  · exact ⟨t.all, by rw [only, if_pos empty], fun _ => rfl, fun filled => absurd empty filled⟩
  · obtain ⟨s, found⟩ := exists_lookup mapped
    have selected : t.only names = .ok s := by rw [only, if_neg empty, found]
    exact ⟨s, selected, fun none => absurd none empty, fun _ => lookup_eq_ok_iff.1 found⟩

def unlisted (t : Table M) (names : List String) : List String :=
  (t.columns.map fun c => c.field.name).filter fun a => a ∉ names

def others (t : Table M) (names : List String) : t.Selection :=
  ⟨t.columns.filter fun c => c.field.name ∉ names, fun _ kept => (List.mem_filter.1 kept).1⟩

theorem allBut_eq (mapped : ∀ a ∈ names, t.HasAttribute a) : t.allBut names = .ok (t.others names) := by
  obtain ⟨s, found⟩ := exists_lookup mapped
  rw [allBut, found]
  refine congrArg Except.ok (Selection.ext (List.filter_congr fun c member => ?_))
  exact decide_eq_decide.2 (not_congr (mem_of_lookup found member))

/-- Leaving attributes out is selecting the others. -/
theorem lookup_unlisted (t : Table M) (names : List String) :
    t.lookup (t.unlisted names) = .ok (t.others names) := by
  rw [lookup_eq_ok_iff, unlisted, List.filter_map]
  rfl

theorem selectOnly_eq (t : Table M) (names : List String) :
    t.selectOnly names = (t.only names).map (.select t) := by
  rw [selectOnly]
  cases t.only names <;> rfl

theorem insertOnly_eq (t : Table M) (names : List String) :
    t.insertOnly names = (t.only names).map (.insert t · none) := by
  rw [insertOnly]
  cases t.only names <;> rfl

theorem insertAllBut_eq (t : Table M) (names : List String) :
    t.insertAllBut names = (t.allBut names).map (.insert t · none) := by
  rw [insertAllBut]
  cases t.allBut names <;> rfl

theorem map_eq_error_iff {α β : Type} {f : α → β} {x : Except Error α} :
    x.map f = .error e ↔ x = .error e := by
  cases x <;> simp [Except.map]

/-- How a list of attributes divides the columns of the table. -/
structure Divides (t : Table M) (names : List String) (listed rest : t.Selection) : Prop where
  select : t.selectOnly names = .ok (.select t listed)
  insert : t.insertOnly names = .ok (.insert t listed none)
  insertRest : t.insertAllBut names = .ok (.insert t rest none)
  all : names = [] → listed.columns = t.columns
  inOrder : names ≠ [] → listed.columns.map (fun c => c.field.name) = names
  sublist : rest.columns.Sublist t.columns
  once : rest.columns.Nodup
  either : ∀ c ∈ t.columns, c ∈ rest.columns ↔ c.field.name ∉ names
  anyOrder : ∀ names', (∀ a, a ∈ names' ↔ a ∈ names) → t.insertAllBut names' = .ok (.insert t rest none)
  listedRest : t.unlisted names ≠ [] → t.insertOnly (t.unlisted names) = .ok (.insert t rest none)

theorem exists_divides (mapped : ∀ a ∈ names, t.HasAttribute a) :
    ∃ listed, t.Divides names listed (t.others names) := by
  obtain ⟨listed, found, all, inOrder⟩ := exists_only mapped
  refine ⟨listed, ?_⟩
  constructor
  case select => rw [selectOnly_eq, found, Except.map]
  case insert => rw [insertOnly_eq, found, Except.map]
  case insertRest => rw [insertAllBut_eq, allBut_eq mapped, Except.map]
  case all => exact all
  case inOrder => exact inOrder
  case sublist => exact List.filter_sublist
  case once => exact t.nodup_columns.filter _
  case either =>
    intro c member
    simp [others, member]
  case anyOrder =>
    intro names' same
    have mapped' : ∀ a ∈ names', t.HasAttribute a := fun a member => mapped a ((same a).1 member)
    have others' : t.others names' = t.others names := by
      simp only [others, same]
    rw [insertAllBut_eq, allBut_eq mapped', others', Except.map]
  case listedRest =>
    intro filled
    rw [insertOnly_eq, only, if_neg filled, lookup_unlisted, Except.map]

def positions (t : Table M) (names : List String) : Except Error (List Nat) :=
  names.mapM t.columnIndex

def allPositions (t : Table M) : List Nat :=
  List.range t.columns.length

def onlyAt (t : Table M) (names : List String) : Except Error (List Nat) :=
  if names = [] then .ok t.allPositions else t.positions names

def allButAt (t : Table M) (names : List String) : Except Error (List Nat) :=
  match t.positions names with
  | .error e => .error e
  | .ok excluded => .ok (t.allPositions.filter fun i => i ∉ excluded)

/-- The selected columns stand at the positions, or both are refused alike. -/
inductive Places (t : Table M) : Except Error t.Selection → Except Error (List Nat) → Prop where
  | ok {s : t.Selection} {places : List Nat}
      (same : places.map (fun i => t.columns[i]?) = s.columns.map some) : Places t (.ok s) (.ok places)
  | error (e : Error) : Places t (.error e) (.error e)

theorem lookup_places (t : Table M) (names : List String) :
    t.Places (t.lookup names) (t.positions names) := by
  induction names with
  | nil => exact .ok rfl
  | cons a rest ih =>
    rw [positions, List.mapM_cons]
    cases index : t.columnIndex a with
    | error e =>
      obtain ⟨absent, rfl⟩ := columnIndex_eq_error_iff.1 index
      have refused : t.lookup (a :: rest) = .error (.attributeNotFound a t.name.text) :=
        lookup_of_firstMissing ⟨[], rest, rfl, by simp, absent⟩
      rw [refused]
      exact .error _
    | ok i =>
      obtain ⟨c, place, rfl⟩ := columnIndex_eq_ok_iff.1 index
      rw [lookup_cons (List.mem_of_getElem? place)]
      rw [positions] at ih
      generalize t.lookup rest = selected, rest.mapM t.columnIndex = places at ih
      cases ih with
      | error e => exact .error e
      | ok same => exact .ok (by rw [List.map_cons, place, same]; rfl)

theorem map_allPositions (t : Table M) :
    t.allPositions.map (fun i => t.columns[i]?) = t.columns.map some := by
  apply List.ext_getElem?
  intro i
  by_cases inside : i < t.columns.length <;> simp [allPositions, inside]

theorem only_places (t : Table M) (names : List String) : t.Places (t.only names) (t.onlyAt names) := by
  rw [only, onlyAt]
  split
  · exact .ok t.map_allPositions
  · exact t.lookup_places names

/-- A column is among the selected ones if its position is among theirs. -/
theorem mem_places_iff {places : List Nat} {columns : List (Column M)} {i : Nat} {c : Column M}
    (same : places.map (fun i => t.columns[i]?) = columns.map some) (place : t.columns[i]? = some c) :
    i ∈ places ↔ c ∈ columns := by
  have inside : i < t.columns.length := (List.getElem?_eq_some_iff.1 place).1
  have listed : c ∈ columns ↔ some c ∈ places.map fun i => t.columns[i]? := by simp [same]
  rw [listed, List.mem_map]
  constructor
  · intro member
    exact ⟨i, member, place⟩
  · rintro ⟨j, member, place'⟩
    rwa [(List.getElem?_inj inside t.nodup_columns).1 (place.trans place'.symm)]

theorem allBut_places (t : Table M) (names : List String) :
    t.Places (t.allBut names) (t.allButAt names) := by
  have places := t.lookup_places names
  rw [allBut, allButAt]
  generalize t.lookup names = selected, t.positions names = excluded at places
  cases places with
  | error e => exact .error e
  | @ok s places same =>
    refine .ok ?_
    let kept : Option (Column M) → Bool := fun found => found.all fun c => c ∉ s.columns
    calc (t.allPositions.filter fun i => i ∉ places).map (fun i => t.columns[i]?)
        = (t.allPositions.map fun i => t.columns[i]?).filter kept := by
          rw [List.filter_map]
          congr 1
          refine List.filter_congr fun i member => ?_
          have place := List.getElem?_eq_getElem (List.mem_range.1 member)
          simp [kept, place, mem_places_iff same place]
      _ = (t.columns.map some).filter kept := by rw [map_allPositions]
      _ = (t.columns.filter fun c => c ∉ s.columns).map some := by
          rw [List.filter_map]
          rfl

/-- A list of attributes is refused for the first that has no column. Otherwise it selects their columns in
its own order, or all columns if it is empty, and leaves the others to the insert without them. Columns are
selected by their positions. -/
theorem subsets_divide (t : Table M) (names : List String) :
    ((∃ e, t.Refuses names e) ↔ ∃ a ∈ names, ¬ t.HasAttribute a) ∧
      (∀ e, (t.selectOnly names = .error e ↔ t.Refuses names e) ∧
        (t.insertOnly names = .error e ↔ t.Refuses names e) ∧
        (t.insertAllBut names = .error e ↔ t.Refuses names e)) ∧
      ((∀ a ∈ names, t.HasAttribute a) → ∃ listed rest, t.Divides names listed rest) ∧
      t.Places (t.only names) (t.onlyAt names) ∧ t.Places (t.allBut names) (t.allButAt names) := by
  refine ⟨exists_refuses_iff, fun e => ?_, fun mapped => ?_, t.only_places names, t.allBut_places names⟩
  · rw [selectOnly_eq, insertOnly_eq, insertAllBut_eq]
    simp only [map_eq_error_iff, only_eq_error_iff, allBut_eq_error_iff, and_self]
  · obtain ⟨listed, divides⟩ := exists_divides mapped
    exact ⟨listed, _, divides⟩

end Table

example : (Shelf.books.insertAllBut ["due", "number", "due"]).bind Query.render =
    .ok "INSERT INTO `books` (`title`) VALUES (?)" := by
  rfl

end PreparedSql
