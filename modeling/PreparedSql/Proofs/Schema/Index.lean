import PreparedSql.Schema.Database

/-!
# Tables by an index of their models

A `Database` searches its tables for a model. An `Indexed` one has the place of each model's table,
entered table by table while the tables are compared with those before them. The invariant is that the
index tells the places of the tables entered so far (`Indexed.Tracks`). Main statement: an index is
refused like a database, for the same table, and finds what the database finds (`Indexed.build_cases`).
-/

namespace PreparedSql

namespace AnyTable

def ofModel? (M : Model) (t : AnyTable) : Option (Table M) :=
  if same : t.model = M then some (same ▸ t.table) else none

/-- Where no two tables share a model, the search finds the table of a model at any place. -/
theorem find_of_getElem? {tables : List AnyTable} (models : (tables.map model).Nodup) {i : Nat}
    {t : AnyTable} (place : tables[i]? = some t) : find t.model tables = some t.table := by
  induction tables generalizing i with
  | nil => cases place
  | cons u rest ih =>
    rw [List.map_cons, List.nodup_cons] at models
    cases i with
    | zero =>
      cases place
      exact dif_pos rfl
    | succ i =>
      have other : u.model ≠ t.model := by
        intro same
        have later : t ∈ rest := List.mem_of_getElem? place
        exact models.1 (List.mem_map.2 ⟨t, later, same.symm⟩)
      rw [find, dif_neg other]
      exact ih models.2 place

end AnyTable

/-- Tables with the places of their models; of two places for a model the first counts. -/
structure Indexed where
  tables : List AnyTable
  places : List (Model × Nat)

namespace Indexed

/-- Enters the tables from place `i` on. Each is entered before it is compared: it clashes if its model
had a place already or if a table before it has its name. -/
def enter (tables : List AnyTable) :
    List AnyTable → Nat → List (Model × Nat) → Except Error (List (Model × Nat))
  | [], _, places => .ok places
  | t :: rest, i, places =>
    let known := places.lookup t.model
    let places := (t.model, i) :: places
    if known.isSome ∨ ∃ u ∈ tables.take i, u.name = t.name then .error (.duplicateTable t.name)
    else enter tables rest (i + 1) places

def build (tables : List AnyTable) : Except Error Indexed :=
  match enter tables tables 0 [] with
  | .error e => .error e
  | .ok places => .ok ⟨tables, places⟩

def table (db : Indexed) (M : Model) : Except Error (Table M) :=
  match (db.places.lookup M).bind fun i => db.tables[i]?.bind (AnyTable.ofModel? M) with
  | some t => .ok t
  | none => .error (.tableNotFound M.name)

/-- The index has a place for a model exactly where a table has the model. -/
def Tracks (before : List AnyTable) (places : List (Model × Nat)) : Prop :=
  ∀ M i, places.lookup M = some i ↔ before[i]?.map AnyTable.model = some M

namespace Tracks

variable {before : List AnyTable} {places : List (Model × Nat)}

theorem nil : Tracks [] [] := by
  intro M i
  simp

theorem isSome_iff (tracks : Tracks before places) (M : Model) :
    (places.lookup M).isSome ↔ ∃ u ∈ before, u.model = M := by
  rw [Option.isSome_iff_exists]
  constructor
  · rintro ⟨i, found⟩
    obtain ⟨u, place, same⟩ := Option.map_eq_some_iff.1 ((tracks M i).1 found)
    exact ⟨u, List.mem_of_getElem? place, same⟩
  · rintro ⟨u, member, same⟩
    obtain ⟨i, place⟩ := List.getElem?_of_mem member
    exact ⟨i, (tracks M i).2 (by rw [place, Option.map_some, same])⟩

/-- A table of a new model takes the next place. -/
theorem step (tracks : Tracks before places) {t : AnyTable}
    (fresh : ¬ ∃ u ∈ before, u.model = t.model) :
    Tracks (before ++ [t]) ((t.model, before.length) :: places) := by
  intro M i
  by_cases same : M = t.model
  · subst same
    rw [List.lookup_cons_self, Option.some.injEq]
    constructor
    · rintro rfl
      simp
    · intro there
      obtain ⟨u, place, model⟩ := Option.map_eq_some_iff.1 there
      rcases Nat.lt_or_ge i before.length with early | late
      · rw [List.getElem?_append_left early] at place
        exact absurd ⟨u, List.mem_of_getElem? place, model⟩ fresh
      · have bound := (List.getElem?_eq_some_iff.1 place).1
        rw [List.length_append, List.length_singleton] at bound
        omega
  · have apart : (M == t.model) = false := beq_false_of_ne same
    simp only [List.lookup_cons, apart]
    rw [tracks M i]
    rcases Nat.lt_or_ge i before.length with early | late
    · rw [List.getElem?_append_left early]
    · rw [List.getElem?_eq_none late, List.getElem?_append_right late]
      cases i - before.length with
      | zero => simpa using Ne.symm same
      | succ k => simp

end Tracks

/-- Entering the rest of the tables keeps the index in step with them, up to the first that repeats one
before it. -/
theorem enter_cases {tables before rest : List AnyTable} {places : List (Model × Nat)}
    (parts : tables = before ++ rest) (tracks : Tracks before places) :
    match firstRepeat AnyTable.Distinct before.reverse rest with
    | some t => enter tables rest before.length places = .error (.duplicateTable t.name)
    | none => ∃ all, enter tables rest before.length places = .ok all ∧ Tracks tables all := by
  induction rest generalizing before places with
  | nil =>
    rw [List.append_nil] at parts
    exact ⟨places, rfl, parts ▸ tracks⟩
  | cons t rest ih =>
    have seen : tables.take before.length = before := by
      rw [parts, List.take_left]
    have clash : ((places.lookup t.model).isSome ∨ ∃ u ∈ before, u.name = t.name) ↔
        ¬ ∀ u ∈ before.reverse, AnyTable.Distinct u t := by
      rw [tracks.isSome_iff]
      simp only [AnyTable.Distinct, List.mem_reverse]
      grind
    rw [firstRepeat]
    by_cases apart : ∀ u ∈ before.reverse, AnyTable.Distinct u t
    · have fresh : ¬ ∃ u ∈ before, u.model = t.model := by
        rintro ⟨u, member, same⟩
        exact (apart u (List.mem_reverse.2 member)).2 same
      have extended : tables = before ++ [t] ++ rest := by simp [parts]
      have next := ih extended (tracks.step fresh)
      rw [List.reverse_append, List.length_append] at next
      rw [if_pos apart, enter, seen, if_neg (fun known => clash.1 known apart)]
      exact next
    · rw [if_neg apart, enter, seen, if_pos (clash.2 apart)]

/-- Looking a model up by its place finds the table that a search would find. -/
theorem table_eq {tables : List AnyTable} {places : List (Model × Nat)} (tracks : Tracks tables places)
    (models : (tables.map AnyTable.model).Nodup) (M : Model) :
    (places.lookup M).bind (fun i => tables[i]?.bind (AnyTable.ofModel? M)) = AnyTable.find M tables := by
  cases found : places.lookup M with
  | none =>
    have missing : AnyTable.find M tables = none := by
      rw [AnyTable.find_eq_none_iff]
      intro u member same
      have known := (tracks.isSome_iff M).2 ⟨u, member, same⟩
      rw [found] at known
      cases known
    rw [missing, Option.bind_none]
  | some i =>
    obtain ⟨u, place, rfl⟩ := Option.map_eq_some_iff.1 ((tracks M i).1 found)
    rw [Option.bind_some, place, Option.bind_some, AnyTable.find_of_getElem? models place]
    exact dif_pos rfl

/-- An index is refused where a database is, and finds what the database finds. -/
theorem build_cases (tables : List AnyTable) :
    match Database.make tables with
    | .error e => build tables = .error e
    | .ok db => ∃ indexed, build tables = .ok indexed ∧ ∀ M, indexed.table M = db.table M := by
  have entered := enter_cases (List.nil_append tables).symm Tracks.nil
  rw [List.reverse_nil] at entered
  cases made : Database.make tables with
  | error e =>
    obtain ⟨t, repeated, rfl⟩ := Database.make_eq_error_iff.1 made
    rw [repeated] at entered
    dsimp only at entered ⊢
    rw [build, show enter tables tables 0 [] = _ from entered]
  | ok db =>
    obtain rfl := Database.make_eq_ok_iff.1 made
    rw [(firstRepeat_eq_none_iff _).2 ⟨db.pairwise_distinct, by simp⟩] at entered
    obtain ⟨places, entered, tracks⟩ := entered
    refine ⟨⟨db.tables, places⟩, ?_, fun M => ?_⟩
    · rw [build, show enter db.tables db.tables 0 [] = _ from entered]
    · have same := table_eq tracks (AnyTable.pairwise_distinct_iff.1 db.pairwise_distinct).2 M
      cases found : AnyTable.find M db.tables <;> simp [table, Database.table, same, found]

end Indexed

end PreparedSql
