import PreparedSql.Proofs.Schema.Mapping

/-!
# Declarations of columns

A column is declared by a name, a field, a width for a text, and tags; a definition names its type and
its constraint words. Main statements: tags that are accepted decide each constraint, NULL by the field's
type if no tag speaks of it (`Constraints.Holds.ofTags`, `Constraints.Holds.notNull_resolve`), and a
table that is built from declarations has the definition that they ask for
(`Table.definition_of_declare`).
-/

namespace PreparedSql

open Text

variable {M : Model}

namespace Constraints

/-- The constraints are what the tags say, and leave open what no tag says. -/
structure Holds (tags : List Tag) (c : Constraints) : Prop where
  nullable : c.nullable = .on ↔ .nullable ∈ tags
  notNull : c.nullable = .off ↔ .notNull ∈ tags
  primaryKey : c.primaryKey = true ↔ .primaryKey ∈ tags
  autoIncrement : c.autoIncrement = true ↔ .autoIncrement ∈ tags
  unique : c.unique = true ↔ .unique ∈ tags

namespace Holds

variable {tags : List Tag} {c d : Constraints}

theorem start : Holds [] {} where
  nullable := by simp
  notNull := by simp
  primaryKey := by simp
  autoIncrement := by simp
  unique := by simp

theorem add (holds : Holds tags c) {tag : Tag} (undecided : c.decides tag = false) :
    Holds (tags ++ [tag]) (c.add tag) := by
  obtain ⟨nullable, notNull, primaryKey, autoIncrement, unique⟩ := holds
  cases tag with
  | nullable | notNull =>
    -- The other tag of the group was not given, or the nullability would be decided.
    have isOpen : c.nullable = .undefined := by simpa [decides, Tag.group] using undecided
    rw [isOpen] at nullable notNull
    constructor <;> simp_all [Constraints.add]
  | primaryKey | autoIncrement | unique => constructor <;> simp_all [Constraints.add]

theorem addAll {name : String} {more : List Tag} (holds : Holds tags c)
    (accepted : c.addAll name more = .ok d) : Holds (tags ++ more) d := by
  induction more generalizing tags c with
  | nil =>
    cases accepted
    rwa [List.append_nil]
  | cons tag rest ih =>
    rw [Constraints.addAll, apply] at accepted
    cases undecided : c.decides tag with
    | true => simp [undecided] at accepted
    | false =>
      simp only [undecided, Bool.false_eq_true, ↓reduceIte] at accepted
      have later := ih (holds.add undecided) accepted
      rwa [List.append_assoc, List.singleton_append] at later

theorem ofTags {name : String} (accepted : Constraints.ofTags name tags = .ok c) : Holds tags c :=
  start.addAll accepted

/-- NULL is ruled out by a tag, or by the field's type where no tag speaks of NULL. -/
theorem notNull_resolve (holds : Holds tags c) (isOptional : Bool) :
    (c.resolve isOptional).nullable = .off ↔
      .notNull ∈ tags ∨ (.nullable ∉ tags ∧ .notNull ∉ tags ∧ isOptional = false) := by
  rw [← holds.notNull, ← holds.nullable, resolve]
  cases given : c.nullable with
  | undefined => cases isOptional <;> simp
  | on | off => simp [given]

end Holds

@[simp] theorem primaryKey_resolve (c : Constraints) (isOptional : Bool) :
    (c.resolve isOptional).primaryKey = c.primaryKey := by
  unfold resolve
  split <;> rfl

@[simp] theorem autoIncrement_resolve (c : Constraints) (isOptional : Bool) :
    (c.resolve isOptional).autoIncrement = c.autoIncrement := by
  unfold resolve
  split <;> rfl

@[simp] theorem unique_resolve (c : Constraints) (isOptional : Bool) :
    (c.resolve isOptional).unique = c.unique := by
  unfold resolve
  split <;> rfl

end Constraints

/-- The constraint words in their fixed order. -/
def Tag.written : List Tag :=
  [.unique, .notNull, .primaryKey, .autoIncrement]

/-- A definition shows the constraint by the word of the tag. -/
def Constraints.shows (c : Constraints) : Tag → Bool
  | .nullable => false
  | .notNull => c.nullable = .off
  | .primaryKey => c.primaryKey
  | .autoIncrement => c.autoIncrement
  | .unique => c.unique

theorem Constraints.writtenTags_eq (c : Constraints) : c.writtenTags = Tag.written.filter c.shows := by
  obtain ⟨nullable, primaryKey, autoIncrement, unique⟩ := c
  cases nullable <;> cases primaryKey <;> cases autoIncrement <;> cases unique <;> rfl

inductive ColumnType where
  | kind (k : Kind)
  | varchar (size : Nat)
  deriving DecidableEq

/-- A column as a definition states it; the flags are constraint words in their fixed order. -/
structure ColumnDefinition where
  name : String
  type : ColumnType
  flags : List Tag
  deriving DecidableEq

structure TableDefinition where
  name : String
  columns : List ColumnDefinition
  deriving DecidableEq

def Column.definition (c : Column M) : ColumnDefinition where
  name := c.name.text
  type :=
    match c.width with
    | some size => .varchar size
    | none => .kind c.kind
  flags := c.constraints.writtenTags

def Table.definition (t : Table M) : TableDefinition where
  name := t.name.text
  columns := t.columns.map Column.definition

inductive ColumnDecl (M : Model) where
  | column (name : String) (field : Field M) (tags : List Tag)
  | varchar (name : String) (size : Nat) (field : Field M) (isText : field.type.kind = .text)
    (tags : List Tag)

namespace ColumnDecl

def make : ColumnDecl M → Except Error (Column M)
  | column name field tags => Column.make name field tags
  | varchar name size field isText tags => Column.makeVarchar name size field isText tags

def name : ColumnDecl M → String
  | column name .. | varchar name .. => name

def field : ColumnDecl M → Field M
  | column _ field _ | varchar _ _ field _ _ => field

def tags : ColumnDecl M → List Tag
  | column _ _ tags | varchar _ _ _ _ tags => tags

def type : ColumnDecl M → ColumnType
  | column _ field _ => .kind field.type.kind
  | varchar _ size field _ _ => if 0 < size then .varchar size else .kind field.type.kind

def asks (d : ColumnDecl M) (tag : Tag) : Prop :=
  match tag with
  | .nullable => False
  | .notNull =>
    .notNull ∈ d.tags ∨ (.nullable ∉ d.tags ∧ .notNull ∉ d.tags ∧ d.field.type.isOptional = false)
  | .primaryKey | .autoIncrement | .unique => tag ∈ d.tags

instance (d : ColumnDecl M) : DecidablePred d.asks
  | .nullable => inferInstanceAs (Decidable False)
  | .notNull => inferInstanceAs (Decidable (_ ∨ _))
  | .primaryKey | .autoIncrement | .unique => inferInstanceAs (Decidable (_ ∈ d.tags))

def definition (d : ColumnDecl M) : ColumnDefinition where
  name := d.name
  type := d.type
  flags := Tag.written.filter (d.asks ·)

/-- A column shows the constraints that its declaration asks for. -/
theorem shows_iff_asks {d : ColumnDecl M} {c : Constraints} (holds : c.Holds d.tags) (tag : Tag) :
    (c.resolve d.field.type.isOptional).shows tag = true ↔ d.asks tag := by
  have notNull := holds.notNull_resolve d.field.type.isOptional
  cases tag with
  | nullable => simp [Constraints.shows, asks]
  | notNull => simp [Constraints.shows, asks, notNull]
  | primaryKey => simp [Constraints.shows, asks, holds.primaryKey]
  | autoIncrement => simp [Constraints.shows, asks, holds.autoIncrement]
  | unique => simp [Constraints.shows, asks, holds.unique]

theorem writtenTags_of_holds {d : ColumnDecl M} {c : Constraints} (holds : c.Holds d.tags) :
    (c.resolve d.field.type.isOptional).writtenTags = Tag.written.filter (d.asks ·) := by
  rw [Constraints.writtenTags_eq]
  refine List.filter_congr fun tag _ => Bool.eq_iff_iff.2 ?_
  rw [shows_iff_asks holds, decide_eq_true_iff]

theorem definition_of_column {name : String} {field : Field M} {tags : List Tag} {c : Column M}
    (made : Column.make name field tags = .ok c) :
    c.definition = (column name field tags).definition := by
  obtain ⟨named, mapped, unsized, constraints, accepted, resolved⟩ := Column.make_eq_ok_iff.1 made
  have holds : constraints.Holds (column name field tags).tags := .ofTags accepted
  have flags := writtenTags_of_holds holds
  have same := Identifier.ofString?_eq_some_iff.1 named
  simp only [Column.definition, Column.kind, definition, same, mapped, unsized, resolved]
  exact congrArg (ColumnDefinition.mk name (.kind field.type.kind)) flags

/-- A width changes the type of the definition, and nothing else. -/
theorem definition_of_varchar {name : String} {size : Nat} {field : Field M}
    {isText : field.type.kind = .text} {tags : List Tag} {c : Column M}
    (made : Column.makeVarchar name size field isText tags = .ok c) :
    c.definition = (varchar name size field isText tags).definition := by
  obtain ⟨plain, first, rfl⟩ := Column.makeVarchar_eq_ok_iff.1 made
  have same := definition_of_column first
  have kind : (plain.withWidth size (Column.field_of_make first ▸ isText)).kind = field.type.kind :=
    congrArg (fun f => f.type.kind) (Column.field_of_make first)
  simp only [Column.definition, Column.withWidth, definition, ColumnDefinition.mk.injEq] at same ⊢
  obtain ⟨named, _, flags⟩ := same
  refine ⟨named, ?_, flags⟩
  by_cases sized : 0 < size
  · simp [sized, type]
  · simpa [sized, type, Column.withWidth] using kind

theorem definition_of_make {d : ColumnDecl M} {c : Column M} (made : d.make = .ok c) :
    c.definition = d.definition := by
  cases d with
  | column name field tags => exact definition_of_column made
  | varchar name size field isText tags => exact definition_of_varchar made

theorem definitions_of_make {declarations : List (ColumnDecl M)} {columns : List (Column M)}
    (made : declarations.mapM make = .ok columns) :
    columns.map Column.definition = declarations.map definition := by
  induction declarations generalizing columns with
  | nil =>
    cases made
    rfl
  | cons d rest ih =>
    rw [List.mapM_cons] at made
    cases first : d.make with
    | error e =>
      rw [first] at made
      cases made
    | ok c =>
      rw [first] at made
      cases others : rest.mapM make with
      | error e =>
        rw [others] at made
        cases made
      | ok later =>
        rw [others] at made
        cases made
        rw [List.map_cons, List.map_cons, definition_of_make first, ih others]

end ColumnDecl

namespace Table

theorem of_make {name : String} {columns : List (Column M)} {t : Table M}
    (built : make name columns = .ok t) : t.name.text = name ∧ t.columns = columns := by
  unfold make at built
  split at built
  · cases built
  · rename_i word named
    split at built
    · cases built
    · split at built
      · cases built
      · cases built
        exact ⟨Identifier.ofString?_eq_some_iff.1 named, rfl⟩

def declare (name : String) (declarations : List (ColumnDecl M)) : Except Error (Table M) :=
  match declarations.mapM ColumnDecl.make with
  | .error e => .error e
  | .ok columns => make name columns

/-- A table has the definitions that its declarations give, in their order. -/
theorem definition_of_declare {name : String} {declarations : List (ColumnDecl M)} {t : Table M}
    (built : declare name declarations = .ok t) :
    t.definition = ⟨name, declarations.map ColumnDecl.definition⟩ := by
  unfold declare at built
  split at built
  · cases built
  · rename_i columns made
    obtain ⟨rfl, rfl⟩ := of_make built
    rw [definition, ColumnDecl.definitions_of_make made]

end Table

end PreparedSql
