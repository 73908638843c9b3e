import Mathlib.Computability.Language
import PreparedSql.Proofs.Schema.Declarations
import PreparedSql.Proofs.Schema.Positions

/-!
# Validation of tables

Main statement: a name and columns make a table exactly when the name is a plain word, there is a column, and
no two columns share a name or a field; otherwise the first of these that fails is reported, and of the
columns the first that repeats one before it. A table finds the column of each of its attributes at the
column's own position (`Table.make_validates`).
-/

namespace PreparedSql

open scoped Computability

namespace Text

def range (first last : Char) : Language Char :=
  {w | ∃ c, (first ≤ c ∧ c ≤ last) ∧ w = [c]}

def wordStarts : Language Char :=
  range 'A' 'Z' + range 'a' 'z' + {['_']}

def wordParts : Language Char :=
  range 'A' 'Z' + range 'a' 'z' + range '0' '9' + {['_']} + {['$']}

/-- The names `[A-Za-z_][A-Za-z0-9_$]*`. -/
def words : Language Char :=
  wordStarts * wordParts∗

theorem mem_range {first last : Char} {w : List Char} :
    w ∈ range first last ↔ ∃ c, (first ≤ c ∧ c ≤ last) ∧ w = [c] :=
  Iff.rfl

theorem mem_sign {c : Char} {w : List Char} : w ∈ ({[c]} : Language Char) ↔ ∃ d, d = c ∧ w = [d] := by
  rw [exists_eq_left]
  exact Iff.rfl

theorem isUpper_iff (c : Char) : c.isUpper = true ↔ 'A' ≤ c ∧ c ≤ 'Z' :=
  decide_eq_true_iff

theorem isLower_iff (c : Char) : c.isLower = true ↔ 'a' ≤ c ∧ c ≤ 'z' :=
  Bool.and_eq_true_iff.trans (and_congr decide_eq_true_iff decide_eq_true_iff)

theorem isDigit_iff (c : Char) : c.isDigit = true ↔ '0' ≤ c ∧ c ≤ '9' :=
  Bool.and_eq_true_iff.trans (and_congr decide_eq_true_iff decide_eq_true_iff)

theorem isAlpha_iff (c : Char) : c.isAlpha = true ↔ ('A' ≤ c ∧ c ≤ 'Z') ∨ ('a' ≤ c ∧ c ≤ 'z') := by
  rw [← isUpper_iff, ← isLower_iff]
  exact Bool.or_eq_true_iff

theorem isWordStart_iff (c : Char) :
    isWordStart c = true ↔ (('A' ≤ c ∧ c ≤ 'Z') ∨ ('a' ≤ c ∧ c ≤ 'z')) ∨ c = '_' := by
  rw [isWordStart, Bool.or_eq_true, isAlpha_iff, beq_iff_eq]

theorem isWordPart_iff (c : Char) : isWordPart c = true ↔
    ((((('A' ≤ c ∧ c ≤ 'Z') ∨ ('a' ≤ c ∧ c ≤ 'z')) ∨ ('0' ≤ c ∧ c ≤ '9')) ∨ c = '_') ∨ c = '$') := by
  have alphanumeric : c.isAlphanum = (c.isAlpha || c.isDigit) := rfl
  rw [isWordPart, alphanumeric, Bool.or_eq_true, Bool.or_eq_true, Bool.or_eq_true, isAlpha_iff, isDigit_iff,
    beq_iff_eq, beq_iff_eq]

theorem mem_wordStarts {w : List Char} : w ∈ wordStarts ↔ ∃ c, isWordStart c = true ∧ w = [c] := by
  simp only [wordStarts, Language.mem_add, mem_range, mem_sign, ← exists_or, ← or_and_right, isWordStart_iff]

theorem mem_wordParts {w : List Char} : w ∈ wordParts ↔ ∃ c, isWordPart c = true ∧ w = [c] := by
  simp only [wordParts, Language.mem_add, mem_range, mem_sign, ← exists_or, ← or_and_right, isWordPart_iff]

theorem mem_kstar_wordParts {w : List Char} : w ∈ wordParts∗ ↔ w.all isWordPart = true := by
  rw [Language.mem_kstar, List.all_eq_true]
  constructor
  · rintro ⟨signs, rfl, parts⟩ c member
    obtain ⟨sign, listed, inside⟩ := List.mem_flatten.1 member
    obtain ⟨d, part, rfl⟩ := mem_wordParts.1 (parts sign listed)
    rwa [List.mem_singleton.1 inside]
  · intro parts
    refine ⟨w.map fun c => [c], by rw [← List.flatMap_def, List.flatMap_singleton'], ?_⟩
    intro sign listed
    obtain ⟨c, member, rfl⟩ := List.mem_map.1 listed
    exact mem_wordParts.2 ⟨c, parts c member, rfl⟩

theorem Identifier.text_inj {a b : Identifier} : a.text = b.text ↔ a = b := by
  obtain ⟨a, _⟩ := a
  obtain ⟨b, _⟩ := b
  simp

/-- The check of a name decides the language of names. -/
theorem isWord_iff {w : List Char} : isWord w = true ↔ w ∈ words := by
  rw [words, Language.mem_mul]
  simp only [mem_wordStarts, mem_kstar_wordParts]
  cases w with
  | nil => simp [isWord]
  | cons c rest =>
    rw [isWord, Bool.and_eq_true]
    constructor
    · rintro ⟨start, parts⟩
      exact ⟨[c], ⟨c, start, rfl⟩, rest, parts, rfl⟩
    · rintro ⟨_, ⟨d, start, rfl⟩, parts, all, same⟩
      cases same
      exact ⟨start, all⟩

end Text

open Text

variable {M : Model}

namespace Column

def enter (keys : Finset String) (key : String) : Bool × Finset String :=
  (decide (key ∉ keys), insert key keys)

/-- The first column whose name or field was seen before. The field is entered only if the name is new. -/
def firstSeen (names fields : Finset String) : List (Column M) → Option (Column M)
  | [] => none
  | c :: rest =>
    match enter names c.name.text with
    | (false, _) => some c
    | (true, names) =>
      match enter fields c.field.name with
      | (false, _) => some c
      | (true, fields) => firstSeen names fields rest

/-- The sets hold the names and the fields of the columns before. -/
structure Seen (before : List (Column M)) (names fields : Finset String) : Prop where
  names : ∀ c : Column M, c.name.text ∈ names ↔ ∃ b ∈ before, b.name = c.name
  fields : ∀ c : Column M, c.field.name ∈ fields ↔ ∃ b ∈ before, b.field = c.field

namespace Seen

variable {before rest : List (Column M)} {names fields : Finset String}

theorem nil : Seen ([] : List (Column M)) ∅ ∅ := by
  constructor <;> simp

theorem cons (seen : Seen before names fields) (c : Column M) :
    Seen (c :: before) (insert c.name.text names) (insert c.field.name fields) := by
  constructor
  · intro d
    rw [Finset.mem_insert, seen.names, List.exists_mem_cons_iff, Identifier.text_inj, eq_comm]
  · intro d
    rw [Finset.mem_insert, seen.fields, List.exists_mem_cons_iff, Field.name_eq_iff, eq_comm]

/-- The loop over two sets finds the first column that clashes with one before it. -/
theorem firstSeen_eq (seen : Seen before names fields) :
    firstSeen names fields rest = firstRepeat Distinct before rest := by
  induction rest generalizing before names fields with
  | nil => rfl
  | cons c rest ih =>
    have apart : (∀ b ∈ before, Distinct b c) ↔ c.name.text ∉ names ∧ c.field.name ∉ fields := by
      rw [seen.names, seen.fields]
      simp only [Distinct]
      grind
    rw [firstRepeat, firstSeen]
    by_cases named : c.name.text ∈ names
    · simp [enter, named, apart]
    · by_cases mapped : c.field.name ∈ fields
      · simp [enter, named, mapped, apart]
      · simp [enter, named, mapped, apart, ih (seen.cons c)]

end Seen

end Column

namespace Table

/-- The checks of a table in their order, with the keys of the columns gathered in two sets. -/
def validate (name : String) (columns : List (Column M)) : Except Error Unit :=
  if isWord name.toList = false then .error (.invalidIdentifier name)
  else if columns = [] then .error (.emptyTable name)
  else
    match Column.firstSeen ∅ ∅ columns with
    | some c => .error (.duplicateColumn c.name.text name)
    | none => .ok ()

/-- Why a name and columns make no table: of several reasons the first one counts. -/
inductive Rejects (name : String) (columns : List (Column M)) : Error → Prop where
  | name (foreign : name.toList ∉ words) : Rejects name columns (.invalidIdentifier name)
  | empty (word : name.toList ∈ words) (empty : columns = []) : Rejects name columns (.emptyTable name)
  | clash (word : name.toList ∈ words) {c : Column M}
      (first : FirstClashOn Column.name Column.field columns c) :
      Rejects name columns (.duplicateColumn c.name.text name)

variable {name : String} {columns : List (Column M)} {c : Column M}

theorem firstRepeat_eq_some_iff_clash :
    firstRepeat Column.Distinct [] columns = some c ↔ FirstClashOn Column.name Column.field columns c :=
  firstRepeat_keys_iff rfl

theorem firstRepeat_eq_none_iff_nodup : firstRepeat Column.Distinct [] columns = none ↔
    (columns.map Column.name).Nodup ∧ (columns.map Column.field).Nodup := by
  rw [firstRepeat_eq_none_iff, ← pairwise_keys_iff]
  exact and_iff_left (by simp)

theorem exists_ofString?_iff : (∃ word, Identifier.ofString? name = some word) ↔ name.toList ∈ words := by
  rw [← isWord_iff, ← Bool.not_eq_false, ← Identifier.ofString?_eq_none_iff, ← ne_eq,
    Option.ne_none_iff_exists']

theorem Rejects.of_make {e : Error} (refused : make name columns = .error e) : Rejects name columns e := by
  unfold make at refused
  split at refused
  · rename_i foreign
    cases refused
    exact .name fun word => by simpa [foreign] using exists_ofString?_iff.2 word
  · rename_i word named
    have inside : name.toList ∈ words := exists_ofString?_iff.1 ⟨word, named⟩
    split at refused
    · rename_i empty
      cases refused
      exact .empty inside empty
    · split at refused
      · rename_i c repeated
        cases refused
        exact .clash inside (firstRepeat_eq_some_iff_clash.1 repeated)
      · cases refused

theorem Rejects.make_eq {e : Error} (rejects : Rejects name columns e) : make name columns = .error e := by
  cases rejects with
  | name foreign =>
    have none : Identifier.ofString? name = none := by
      rw [Identifier.ofString?_eq_none_iff, ← Bool.not_eq_true, isWord_iff]
      exact foreign
    simp [make, none]
  | empty inside empty =>
    obtain ⟨word, named⟩ := exists_ofString?_iff.2 inside
    simp [make, named, empty]
  | clash inside first =>
    obtain ⟨word, named⟩ := exists_ofString?_iff.2 inside
    have repeated := firstRepeat_eq_some_iff_clash.2 first
    have filled : columns ≠ [] := by
      rintro rfl
      cases repeated
    unfold make
    rw [named]
    simp only [filled, ↓reduceDIte]
    split
    · rename_i c found
      rw [Option.some.inj (found.symm.trans repeated)]
    · rename_i none
      cases none.symm.trans repeated

/-- Making a table fails for the first reason that applies. -/
theorem make_eq_error_iff {e : Error} : make name columns = .error e ↔ Rejects name columns e :=
  ⟨.of_make, Rejects.make_eq⟩

/-- A table is made of a name, and of columns that share neither names nor fields. -/
theorem exists_make_iff : (∃ t, make name columns = .ok t) ↔ name.toList ∈ words ∧ columns ≠ [] ∧
    (columns.map Column.name).Nodup ∧ (columns.map Column.field).Nodup := by
  constructor
  · rintro ⟨t, made⟩
    obtain ⟨rfl, rfl⟩ := of_make made
    exact ⟨isWord_iff.1 t.name.isWord_text, t.columns_ne_nil, pairwise_keys_iff.1 t.pairwise_distinct⟩
  · rintro ⟨word, filled, distinct⟩
    cases made : make name columns with
    | ok t => exact ⟨t, rfl⟩
    | error e =>
      rcases Rejects.of_make made with foreign | ⟨_, empty⟩ | ⟨_, first⟩
      · exact absurd word foreign
      · exact absurd empty filled
      · have repeated := firstRepeat_eq_some_iff_clash.2 first
        rw [firstRepeat_eq_none_iff_nodup.2 distinct] at repeated
        cases repeated

/-- The sets of keys lead to the same verdict. -/
theorem validate_eq (name : String) (columns : List (Column M)) :
    validate name columns = (make name columns).map fun _ => () := by
  rw [validate, Column.Seen.nil.firstSeen_eq]
  cases made : make name columns with
  | ok t =>
    obtain ⟨word, filled, distinct⟩ := exists_make_iff.1 ⟨t, made⟩
    simp [isWord_iff.2 word, filled, firstRepeat_eq_none_iff_nodup.2 distinct, Except.map]
  | error e =>
    cases Rejects.of_make made with
    | name foreign => simp [mt isWord_iff.1 foreign, Except.map]
    | empty word empty => simp [isWord_iff.2 word, empty, Except.map]
    | clash word first =>
      have repeated := firstRepeat_eq_some_iff_clash.2 first
      have filled : columns ≠ [] := by
        rintro rfl
        cases repeated
      simp [isWord_iff.2 word, filled, repeated, Except.map]

theorem columns_foldl_column (b : Builder M) (columns : List (Column M)) :
    columns.foldl Builder.column b = { b with columns := b.columns ++ columns } := by
  induction columns generalizing b with
  | nil => simp
  | cons c rest ih => simp [ih, Builder.column]

/-- A table is made, whether of a list or column by column, exactly of columns under a plain word that share
neither names nor fields; otherwise the first reason is reported. It finds each attribute at the position
of its column. -/
theorem make_validates (name : String) (columns : List (Column M)) :
    ((∃ t, make name columns = .ok t) ↔ name.toList ∈ words ∧ columns ≠ [] ∧
        (columns.map Column.name).Nodup ∧ (columns.map Column.field).Nodup) ∧
      (∀ e, make name columns = .error e ↔ Rejects name columns e) ∧
      (columns.foldl Builder.column { name }).build = make name columns ∧
      validate name columns = (make name columns).map (fun _ => ()) ∧
      ∀ t, make name columns = .ok t → t.name.text = name ∧ t.columns = columns ∧ t.Locates := by
  refine ⟨exists_make_iff, fun e => make_eq_error_iff, ?_, validate_eq name columns, ?_⟩
  · rw [columns_foldl_column, List.nil_append]
    rfl
  · intro t made
    obtain ⟨named, same⟩ := of_make made
    exact ⟨named, same, t.locates⟩

end Table

example : Table.make "books" [Shelf.column ⟨"number", by decide⟩ Shelf.number,
    Shelf.column ⟨"title", by decide⟩ Shelf.title, Shelf.column ⟨"id", by decide⟩ Shelf.number] =
    .error (.duplicateColumn "id" "books") := by
  rfl

end PreparedSql
