import PreparedSql.Calendar.BrokenDown

/-!
# Kinds of values

The closed set of column types. `Kind.Data T` holds a value of a kind, with `T` for the calendar
values: broken-down times in records, wire times in slots, real dates in what is sent.
-/

namespace PreparedSql

open Calendar

inductive Kind where
  | boolean
  | tinyInt
  | tinyIntUnsigned
  | smallInt
  | smallIntUnsigned
  | integer
  | integerUnsigned
  | bigInt
  | bigIntUnsigned
  | text
  | dateTime
  deriving DecidableEq

inductive WireType where
  | tiny
  | short
  | long
  | longLong
  | string
  | dateTime
  deriving DecidableEq

namespace Kind

def sqlType : Kind → String
  | boolean => "BOOLEAN"
  | tinyInt => "TINYINT"
  | tinyIntUnsigned => "TINYINT UNSIGNED"
  | smallInt => "SMALLINT"
  | smallIntUnsigned => "SMALLINT UNSIGNED"
  | integer => "INTEGER"
  | integerUnsigned => "INTEGER UNSIGNED"
  | bigInt => "BIGINT"
  | bigIntUnsigned => "BIGINT UNSIGNED"
  | text => "TEXT"
  | dateTime => "DATETIME"

def wireType : Kind → WireType
  | boolean | tinyInt | tinyIntUnsigned => .tiny
  | smallInt | smallIntUnsigned => .short
  | integer | integerUnsigned => .long
  | bigInt | bigIntUnsigned => .longLong
  | text => .string
  | dateTime => .dateTime

def isUnsigned : Kind → Bool
  | tinyIntUnsigned | smallIntUnsigned | integerUnsigned | bigIntUnsigned => true
  | _ => false

/-- Bytes of a value; a text has no fixed width, a calendar value takes six words of eight. -/
def width (k : Kind) : Option Nat :=
  match k.wireType with
  | .tiny => some 1
  | .short => some 2
  | .long => some 4
  | .longLong => some 8
  | .dateTime => some 48
  | .string => none

/-- A value of a kind, where `T` holds the calendar values. -/
@[reducible] def Data (T : Type) : Kind → Type
  | boolean => Bool
  | tinyInt => Int8
  | tinyIntUnsigned => UInt8
  | smallInt => Int16
  | smallIntUnsigned => UInt16
  | integer => Int32
  | integerUnsigned => UInt32
  | bigInt => Int64
  | bigIntUnsigned => UInt64
  | text => String
  | dateTime => T

instance {T : Type} [DecidableEq T] : (k : Kind) → DecidableEq (k.Data T)
  | boolean => inferInstanceAs (DecidableEq Bool)
  | tinyInt => inferInstanceAs (DecidableEq Int8)
  | tinyIntUnsigned => inferInstanceAs (DecidableEq UInt8)
  | smallInt => inferInstanceAs (DecidableEq Int16)
  | smallIntUnsigned => inferInstanceAs (DecidableEq UInt16)
  | integer => inferInstanceAs (DecidableEq Int32)
  | integerUnsigned => inferInstanceAs (DecidableEq UInt32)
  | bigInt => inferInstanceAs (DecidableEq Int64)
  | bigIntUnsigned => inferInstanceAs (DecidableEq UInt64)
  | text => inferInstanceAs (DecidableEq String)
  | dateTime => inferInstanceAs (DecidableEq T)

variable {S T : Type}

def zero (time : T) : (k : Kind) → k.Data T
  | boolean => false
  | tinyInt => (0 : Int8)
  | tinyIntUnsigned => (0 : UInt8)
  | smallInt => (0 : Int16)
  | smallIntUnsigned => (0 : UInt16)
  | integer => (0 : Int32)
  | integerUnsigned => (0 : UInt32)
  | bigInt => (0 : Int64)
  | bigIntUnsigned => (0 : UInt64)
  | text => ""
  | dateTime => time

def mapTime (f : S → T) : (k : Kind) → k.Data S → k.Data T
  | boolean, x | tinyInt, x | tinyIntUnsigned, x | smallInt, x | smallIntUnsigned, x
  | integer, x | integerUnsigned, x | bigInt, x | bigIntUnsigned, x | text, x => x
  | dateTime, x => f x

def tryTime {ε : Type} (f : S → Except ε T) : (k : Kind) → k.Data S → Except ε (k.Data T)
  | boolean, x | tinyInt, x | tinyIntUnsigned, x | smallInt, x | smallIntUnsigned, x
  | integer, x | integerUnsigned, x | bigInt, x | bigIntUnsigned, x | text, x => .ok x
  | dateTime, x => f x

def parameterType : Kind → String
  | boolean | tinyIntUnsigned => "TINY UNSIGNED"
  | tinyInt => "TINY"
  | smallInt => "SHORT"
  | smallIntUnsigned => "SHORT UNSIGNED"
  | integer => "LONG"
  | integerUnsigned => "LONG UNSIGNED"
  | bigInt => "LONGLONG"
  | bigIntUnsigned => "LONGLONG UNSIGNED"
  | text => "VAR_STRING"
  | dateTime => "DATETIME"

def label : Kind → String
  | boolean => "Bool"
  | tinyInt => "I8"
  | tinyIntUnsigned => "U8"
  | smallInt => "I16"
  | smallIntUnsigned => "U16"
  | integer => "I32"
  | integerUnsigned => "U32"
  | bigInt => "I64"
  | bigIntUnsigned => "U64"
  | text => "Text"
  | dateTime => "DateTime"

def inspect (time : T → String) : (k : Kind) → k.Data T → String
  | boolean, x => Inspect.bool x
  | tinyInt, x => toString (Int8.toInt x)
  | tinyIntUnsigned, x => toString (UInt8.toNat x)
  | smallInt, x => toString (Int16.toInt x)
  | smallIntUnsigned, x => toString (UInt16.toNat x)
  | integer, x => toString (Int32.toInt x)
  | integerUnsigned, x => toString (UInt32.toNat x)
  | bigInt, x => toString (Int64.toInt x)
  | bigIntUnsigned, x => toString (UInt64.toNat x)
  | text, x => Inspect.quoted x
  | dateTime, x => time x

end Kind

end PreparedSql
