import PreparedSql.Value.FieldType

/-!
# Models and records

A model names its fields and their types, and what each of them holds at first; a record holds a value for
each field. A field's name is its identity, so no two fields of a model share one.
-/

namespace PreparedSql

structure FieldDecl where
  name : String
  type : FieldType
  deriving DecidableEq

instance decidableEqValues {n : Nat} {α : Fin n → Type} [(i : Fin n) → DecidableEq (α i)] :
    DecidableEq ((i : Fin n) → α i) :=
  fun _ _ => decidable_of_iff _ funext_iff.symm

/-- `initial` holds what a new record has in each field, which need not be the default of the field's type. -/
structure Model where
  name : String
  fields : List FieldDecl
  names_nodup : (fields.map FieldDecl.name).Nodup
  initial : (i : Fin fields.length) → fields[i].type.Val := fun i => fields[i].type.default
  deriving DecidableEq

/-- A model from its fields, if their names differ. A new record has every field at the default of its type. -/
def Model.ofFields? (name : String) (fields : List FieldDecl) : Option Model :=
  if h : (fields.map FieldDecl.name).Nodup then some { name, fields, names_nodup := h } else none

structure Field (M : Model) where
  position : Fin M.fields.length
  deriving DecidableEq

namespace Field

variable {M : Model}

def decl (f : Field M) : FieldDecl :=
  M.fields[f.position]

def name (f : Field M) : String :=
  f.decl.name

def type (f : Field M) : FieldType :=
  f.decl.type

def initial (f : Field M) : f.type.Val :=
  M.initial f.position

theorem name_injective {f g : Field M} (h : f.name = g.name) : f = g := by
  obtain ⟨i⟩ := f
  obtain ⟨j⟩ := g
  simp only [name, decl] at h
  congr 1
  apply Fin.ext
  have left : i.val < (M.fields.map FieldDecl.name).length := by simp
  have right : j.val < (M.fields.map FieldDecl.name).length := by simp
  have same : (M.fields.map FieldDecl.name)[i.val] = (M.fields.map FieldDecl.name)[j.val] := by
    simpa using h
  exact (List.getElem_inj M.names_nodup).1 same

theorem name_eq_iff {f g : Field M} : f.name = g.name ↔ f = g :=
  ⟨name_injective, fun h => h ▸ rfl⟩

end Field

def Model.allFields (M : Model) : List (Field M) :=
  (List.finRange M.fields.length).map Field.mk

def Model.field? (M : Model) (name : String) : Option (Field M) :=
  M.allFields.find? fun f => f.name == name

/-- A value for each field. -/
@[ext] structure Record (M : Model) where
  get : (f : Field M) → f.type.Val

namespace Record

variable {M : Model}

def default : Record M :=
  ⟨Field.initial⟩

def set (r : Record M) (f : Field M) (x : f.type.Val) : Record M :=
  ⟨fun g => if h : f = g then h ▸ x else r.get g⟩

@[simp] theorem get_set_self (r : Record M) (f : Field M) (x : f.type.Val) :
    (r.set f x).get f = x := by
  simp [set]

theorem get_set_of_ne (r : Record M) {f g : Field M} (h : f ≠ g) (x : f.type.Val) :
    (r.set f x).get g = r.get g := by
  simp [set, h]

@[simp] theorem set_get_self (r : Record M) (f : Field M) : r.set f (r.get f) = r := by
  ext g
  by_cases h : f = g
  · subst h; simp
  · rw [get_set_of_ne r h]

@[simp] theorem get_default (f : Field M) : (default : Record M).get f = f.initial := rfl

end Record

end PreparedSql
