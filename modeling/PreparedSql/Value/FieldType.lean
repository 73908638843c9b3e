import PreparedSql.Value.Basic

/-!
# Field types

A field holds a value of a kind, always or optionally. NULL stands for an absent optional value.
-/

namespace PreparedSql

open Calendar

inductive FieldType where
  | required (kind : Kind)
  | optional (kind : Kind)
  deriving DecidableEq

namespace FieldType

def kind : FieldType → Kind
  | required k | optional k => k

def isOptional : FieldType → Bool
  | required _ => false
  | optional _ => true

/-- What a field of the type holds. -/
@[reducible] def Val : FieldType → Type
  | required k => k.Data BrokenDown
  | optional k => Option (k.Data BrokenDown)

instance : (τ : FieldType) → DecidableEq τ.Val
  | required k => inferInstanceAs (DecidableEq (k.Data BrokenDown))
  | optional k => inferInstanceAs (DecidableEq (Option (k.Data BrokenDown)))

def default : (τ : FieldType) → τ.Val
  | required k => k.zero {}
  | optional _ => none

def toValue : (τ : FieldType) → τ.Val → Value
  | required k, x => .of k (k.mapTime BrokenDown.toWire x)
  | optional _, none => .null
  | optional k, some x => .of k (k.mapTime BrokenDown.toWire x)

def inspect : (τ : FieldType) → τ.Val → String
  | required k, x => k.inspect BrokenDown.inspect x
  | optional k, x => Inspect.option (x.map (k.inspect BrokenDown.inspect))

end FieldType

end PreparedSql
