import PreparedSql.Slot.Cell
import PreparedSql.Value.FieldType

/-!
# Output slots

One slot for each selected column. Rows are stored slot by slot; a text that is longer than its column's
declared width is marked. A slot is then received by a field.
-/

namespace PreparedSql

open Calendar

/-- One column of a row: `capacity` is the declared width of a text in characters, `overflowed` marks a
stored text that was longer when it was stored. -/
@[ext] structure OutputSlot where
  kind : Option Kind := none
  capacity : Option Nat := none
  value : Value := .null
  overflowed : Bool := false
  deriving DecidableEq

namespace OutputSlot

def declare (s : OutputSlot) (kind : Kind) (capacity : Option Nat) : OutputSlot :=
  { s with kind := some kind, capacity }

def overflows (capacity : Option Nat) (value : Value) : Bool :=
  match value.text?, capacity with
  | some text, some capacity => capacity < text.length
  | _, _ => false

def store (s : OutputSlot) (value : Value) : OutputSlot :=
  { s with value, overflowed := overflows s.capacity value }

end OutputSlot

/-- The slots of a result row in select order. -/
@[ext] structure Outputs where
  slots : List OutputSlot
  deriving DecidableEq

namespace Outputs

def empty (count : Nat) : Outputs :=
  ⟨List.replicate count {}⟩

def length (b : Outputs) : Nat :=
  b.slots.length

def slot? (b : Outputs) (i : Nat) : Option OutputSlot :=
  b.slots[i]?

def declare (b : Outputs) (i : Nat) (kind : Kind) (capacity : Option Nat) : Outputs :=
  ⟨b.slots.modify i fun s => s.declare kind capacity⟩

@[simp] theorem length_empty (count : Nat) : (empty count).length = count := by
  simp [empty, length]

@[simp] theorem length_declare (b : Outputs) (i : Nat) (kind : Kind) (capacity : Option Nat) :
    (b.declare i kind capacity).length = b.length := by
  simp [declare, length]

/-- Stores the cells of a row from position `index` on. A slot that fails ends the row; the slots before
it keep what they stored. -/
def storeFrom (row : Row) (index : Nat) : List OutputSlot → List OutputSlot × Except Error Unit
  | [] => ([], .ok ())
  | slot :: rest =>
    match slot.kind with
    | none => (slot :: rest, .error (.unboundSlot index))
    | some kind =>
      match row.read index kind with
      | .error e => (slot :: rest, .error e)
      | .ok value =>
        let after := storeFrom row (index + 1) rest
        (slot.store value :: after.1, after.2)

def fetch (b : Outputs) (row : Row) : Outputs × Except Error Unit :=
  let after := storeFrom row 0 b.slots
  (⟨after.1⟩, after.2)

end Outputs

/-- The value that a field of the kind takes from a slot: NULL gives zero, a text that overflowed is
refused whatever it is, and so is a value of another kind. -/
def Kind.receive (column : String) (kind : Kind) (slot : OutputSlot) :
    Except Error (kind.Data BrokenDown) :=
  if kind = .text ∧ slot.overflowed then
    .error (.truncated column slot.value.length (slot.capacity.getD 0))
  else
    match slot.value with
    | .null => .ok (kind.zero {})
    | .of own data =>
      if same : own = kind then
        match kind.tryTime BrokenDown.ofWire (same ▸ data) with
        | .ok x => .ok x
        | .error e => .error (.invalidDateTime e)
      else .error (.typeMismatch column kind own)

namespace FieldType

def receive (column : String) : (τ : FieldType) → OutputSlot → Except Error τ.Val
  | required k, slot => k.receive column slot
  | optional k, slot =>
    if slot.value.isNull then .ok none
    else
      match k.receive column slot with
      | .ok x => .ok (some x)
      | .error e => .error e

/-- What a field holds after it refused a slot: an optional field has given up its value. -/
def afterRefusal : (τ : FieldType) → τ.Val → τ.Val
  | required _, x => x
  | optional _, _ => none

end FieldType

end PreparedSql
