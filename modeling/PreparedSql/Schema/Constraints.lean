import PreparedSql.Error

/-!
# Constraints of a column

The tags of a column, gathered. A tag is rejected when its group is already decided; the gathered state
takes the tag in either case.
-/

namespace PreparedSql

/-- Whether NULL is allowed: left open until the field type decides it. -/
inductive Nullability where
  | undefined
  | on
  | off
  deriving DecidableEq

@[ext] structure Constraints where
  nullable : Nullability := .undefined
  primaryKey : Bool := false
  autoIncrement : Bool := false
  unique : Bool := false
  deriving DecidableEq

namespace Constraints

def decides (c : Constraints) (tag : Tag) : Bool :=
  match tag.group with
  | .nullability => c.nullable != .undefined
  | .primaryKey => c.primaryKey
  | .autoIncrement => c.autoIncrement
  | .unique => c.unique

def add (c : Constraints) : Tag → Constraints
  | .nullable => { c with nullable := .on }
  | .notNull => { c with nullable := .off }
  | .primaryKey => { c with primaryKey := true }
  | .autoIncrement => { c with autoIncrement := true }
  | .unique => { c with unique := true }

/-- One tag on `column`: the verdict, and the state after it. -/
def apply (column : String) (tag : Tag) (c : Constraints) : Except Error Unit × Constraints :=
  (if c.decides tag then .error (.duplicateConstraint tag column) else .ok (), c.add tag)

def addAll (column : String) : Constraints → List Tag → Except Error Constraints
  | c, [] => .ok c
  | c, tag :: rest =>
    match c.apply column tag with
    | (.ok (), c) => c.addAll column rest
    | (.error e, _) => .error e

def ofTags (column : String) (tags : List Tag) : Except Error Constraints :=
  addAll column {} tags

/-- Settles an open nullability by whether the field is optional. -/
def resolve (isOptional : Bool) (c : Constraints) : Constraints :=
  match c.nullable with
  | .undefined => { c with nullable := if isOptional then .on else .off }
  | _ => c

def writtenTags (c : Constraints) : List Tag :=
  (if c.unique then [.unique] else []) ++ (if c.nullable = .off then [.notNull] else []) ++
    (if c.primaryKey then [.primaryKey] else []) ++ (if c.autoIncrement then [.autoIncrement] else [])

def sql (c : Constraints) : String :=
  " ".intercalate (c.writtenTags.map Tag.keyword)

theorem resolve_nullable_ne_undefined (isOptional : Bool) (c : Constraints) :
    (c.resolve isOptional).nullable ≠ .undefined := by
  unfold resolve
  split
  · cases isOptional <;> simp
  · assumption

end Constraints

def Nullability.inspect : Nullability → String
  | .undefined => "Undefined"
  | .on => "On"
  | .off => "Off"

def Constraints.inspect (c : Constraints) : String :=
  Inspect.record "Constraints" [
    ("nullable", c.nullable.inspect), ("primary_key", Inspect.bool c.primaryKey),
    ("auto_increment", Inspect.bool c.autoIncrement), ("unique", Inspect.bool c.unique)]

end PreparedSql
