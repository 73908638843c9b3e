import PreparedSql.Value.Kind

/-!
# Values in slots, parameters and cells

A slot holds a `Value`, which is NULL or a value of some kind. What travels is a `Datum`: its kind is
known also when it is NULL.
-/

namespace PreparedSql

open Calendar

inductive Value where
  | null
  | of (kind : Kind) (data : kind.Data WireTime)
  deriving DecidableEq

namespace Value

def isNull : Value → Bool
  | null => true
  | of _ _ => false

/-- Bytes of the value: none for NULL, those of UTF-8 for a text. -/
def length : Value → Nat
  | null => 0
  | of .text data => data.utf8ByteSize
  | of kind _ => kind.width.getD 0

def typeName : Value → String
  | null => "NULL"
  | of kind _ => kind.sqlType

def text? : Value → Option String
  | of .text data => some data
  | _ => none

def inspect : Value → String
  | null => "Null"
  | of kind data => Inspect.variant kind.label (kind.inspect WireTime.inspect data)

@[simp] theorem isNull_null : null.isNull = true := rfl

@[simp] theorem isNull_of (kind : Kind) (data : kind.Data WireTime) : (of kind data).isNull = false :=
  rfl

end Value

/-- A value or NULL of a known kind: a parameter on its way to the server, or a cell of a row. -/
structure Datum (T : Type) where
  kind : Kind
  data : Option (kind.Data T)

end PreparedSql
