import PreparedSql.Schema.Constraints
import PreparedSql.Schema.Model
import PreparedSql.Slot.Input
import PreparedSql.Slot.Output
import PreparedSql.Text.Identifier

/-!
# Columns

A column maps one field of a model to a name, constraints and, for a text field, a width. It writes the
field into an input slot and receives it from an output slot.
-/

namespace PreparedSql

open Text

/-- A mapped field; `width` is the VARCHAR size, without which a text is unbounded. -/
structure Column (M : Model) where
  name : Identifier
  field : Field M
  constraints : Constraints
  width : Option Nat
  nullable_ne_undefined : constraints.nullable ≠ .undefined
  width_pos : ∀ n ∈ width, 0 < n
  kind_of_width : width.isSome → field.type.kind = .text
  deriving DecidableEq

namespace Column

variable {M : Model}

/-- The column `name` for `field`. Nullability follows the field type unless a tag decides it. -/
def make (name : String) (field : Field M) (tags : List Tag) : Except Error (Column M) :=
  match Identifier.ofString? name with
  | none => .error (.invalidIdentifier name)
  | some word =>
    match Constraints.ofTags name tags with
    | .error e => .error e
    | .ok constraints =>
      .ok {
        name := word
        field
        constraints := constraints.resolve field.type.isOptional
        width := none
        nullable_ne_undefined := Constraints.resolve_nullable_ne_undefined _ _
        width_pos := by simp
        kind_of_width := by simp }

/-- The column with a VARCHAR size; size 0 leaves it unbounded. -/
def withWidth (c : Column M) (size : Nat) (isText : c.field.type.kind = .text) : Column M :=
  { c with
    width := if 0 < size then some size else none
    width_pos := by intro n h; split at h <;> simp_all
    kind_of_width := fun _ => isText }

theorem make_eq_ok_iff {name : String} {field : Field M} {tags : List Tag} {c : Column M} :
    make name field tags = .ok c ↔ Identifier.ofString? name = some c.name ∧ c.field = field ∧
      c.width = none ∧ ∃ constraints, Constraints.ofTags name tags = .ok constraints ∧
        c.constraints = constraints.resolve field.type.isOptional := by
  constructor
  · intro made
    unfold make at made
    split at made
    · cases made
    · split at made <;> cases made
      exact ⟨‹_›, rfl, rfl, _, ‹_›, rfl⟩
  · obtain ⟨word, _, resolved, width, _, _, _⟩ := c
    rintro ⟨named, rfl, unsized, constraints, accepted, same⟩
    dsimp only at named unsized same
    subst unsized same
    simp [make, named, accepted]

theorem field_of_make {name : String} {field : Field M} {tags : List Tag} {c : Column M}
    (h : make name field tags = .ok c) : c.field = field :=
  (make_eq_ok_iff.1 h).2.1

def makeVarchar (name : String) (size : Nat) (field : Field M) (isText : field.type.kind = .text)
    (tags : List Tag) : Except Error (Column M) :=
  match h : make name field tags with
  | .ok c => .ok (c.withWidth size (field_of_make h ▸ isText))
  | .error e => .error e

theorem makeVarchar_eq_ok_iff {name : String} {size : Nat} {field : Field M}
    {isText : field.type.kind = .text} {tags : List Tag} {c : Column M} :
    makeVarchar name size field isText tags = .ok c ↔
      ∃ plain, ∃ made : make name field tags = .ok plain,
        c = plain.withWidth size (field_of_make made ▸ isText) := by
  unfold makeVarchar
  split
  · rename_i plain made
    constructor
    · rintro ⟨⟩
      exact ⟨plain, made, rfl⟩
    · rintro ⟨plain', made', rfl⟩
      cases made.symm.trans made'
      rfl
  · rename_i e failed
    constructor
    · rintro ⟨⟩
    · rintro ⟨plain', made', _⟩
      cases failed.symm.trans made'

def kind (c : Column M) : Kind :=
  c.field.type.kind

def isOptional (c : Column M) : Bool :=
  c.field.type.isOptional

def quoted (c : Column M) : String :=
  c.name.quoted

def typeText (c : Column M) : String :=
  match c.width with
  | some size => "VARCHAR(" ++ toString size ++ ")"
  | none => c.kind.sqlType

def schema (c : Column M) : String :=
  c.quoted ++ " " ++ c.typeText ++
    if c.constraints.sql = "" then "" else " " ++ c.constraints.sql

def bindInput (c : Column M) (r : Record M) (b : Inputs) (i : Nat) : Inputs :=
  b.put i c.kind (c.field.type.toValue (r.get c.field))

def bindOutput (c : Column M) (b : Outputs) (i : Nat) : Outputs :=
  b.declare i c.kind c.width

/-- Moves a stored slot into the record's field: the record afterwards, and the verdict. -/
def finalize (c : Column M) (r : Record M) (slot : OutputSlot) : Record M × Except Error Unit :=
  match c.field.type.receive c.name.text slot with
  | .ok x => (r.set c.field x, .ok ())
  | .error e => (r.set c.field (c.field.type.afterRefusal (r.get c.field)), .error e)

def inspect (c : Column M) : String :=
  Inspect.record "Column" [
    ("name", Inspect.quoted c.name.text), ("field", Inspect.variant "Field" (Inspect.quoted c.field.name)),
    ("constraints", c.constraints.inspect), ("varchar", Inspect.option (c.width.map toString))]

end Column

end PreparedSql
