import PreparedSql.Error

/-!
# Input slots

One slot for each placeholder of a statement. A slot is unbound until it is written; writes past the end
are dropped. `Inputs.parameters` is what a statement sends, if every slot is bound to a real value.
-/

namespace PreparedSql

open Calendar

inductive InputSlot where
  | unbound
  | bound (kind : Kind) (value : Value)
  deriving DecidableEq

namespace InputSlot

def kind? : InputSlot → Option Kind
  | unbound => none
  | bound kind _ => some kind

/-- The value that the slot holds; an unbound slot holds NULL. -/
def value : InputSlot → Value
  | unbound => .null
  | bound _ value => value

def isBound (s : InputSlot) : Bool :=
  s.kind?.isSome

end InputSlot

/-- The value as it is sent. NULL keeps the kind of its slot, any other value its own. -/
def Value.toDatum (kind : Kind) : Value → Except Error (Datum DateTime)
  | .null => .ok ⟨kind, none⟩
  | .of own data =>
    match own.tryTime WireTime.toDateTime data with
    | .ok data => .ok ⟨own, some data⟩
    | .error e => .error (.invalidDateTime e)

/-- The slots of a statement in placeholder order. -/
@[ext] structure Inputs where
  slots : List InputSlot
  deriving DecidableEq

namespace Inputs

def unbound (count : Nat) : Inputs :=
  ⟨List.replicate count .unbound⟩

def length (b : Inputs) : Nat :=
  b.slots.length

def slot? (b : Inputs) (i : Nat) : Option InputSlot :=
  b.slots[i]?

def put (b : Inputs) (i : Nat) (kind : Kind) (value : Value) : Inputs :=
  ⟨b.slots.set i (.bound kind value)⟩

@[simp] theorem length_unbound (count : Nat) : (unbound count).length = count := by
  simp [unbound, length]

@[simp] theorem length_put (b : Inputs) (i : Nat) (kind : Kind) (value : Value) :
    (b.put i kind value).length = b.length := by
  simp [put, length]

theorem slot?_put_self {b : Inputs} {i : Nat} (h : i < b.length) (kind : Kind) (value : Value) :
    (b.put i kind value).slot? i = some (.bound kind value) := by
  exact List.getElem?_set_self h

theorem slot?_put_of_ne (b : Inputs) {i j : Nat} (h : i ≠ j) (kind : Kind) (value : Value) :
    (b.put i kind value).slot? j = b.slot? j := by
  simp [put, slot?, h]

theorem put_of_le (b : Inputs) {i : Nat} (h : b.length ≤ i) (kind : Kind) (value : Value) :
    b.put i kind value = b := by
  simp [put, List.set_eq_of_length_le (by simpa [length] using h)]

/-- The parameters of slots that begin at `index`; the first slot that cannot be sent is reported. -/
def parametersFrom (index : Nat) : List InputSlot → Except Error (List (Datum DateTime))
  | [] => .ok []
  | .unbound :: _ => .error (.unboundSlot index)
  | .bound kind value :: rest =>
    match value.toDatum kind with
    | .error e => .error e
    | .ok datum =>
      match parametersFrom (index + 1) rest with
      | .error e => .error e
      | .ok data => .ok (datum :: data)

def parameters (b : Inputs) : Except Error (List (Datum DateTime)) :=
  parametersFrom 0 b.slots

end Inputs

def Datum.date? : Datum DateTime → Option DateTime
  | ⟨.dateTime, data⟩ => data
  | _ => none

def unsendableFrom (position : Nat) : List (Datum DateTime) → Option (Nat × DateTime)
  | [] => none
  | p :: rest =>
    match p.date? with
    | some date => if date.IsSendable then unsendableFrom (position + 1) rest else some (position, date)
    | none => unsendableFrom (position + 1) rest

/-- The first parameter that the client cannot send, counted from 1. -/
def firstUnsendable (parameters : List (Datum DateTime)) : Option (Nat × DateTime) :=
  unsendableFrom 1 parameters

end PreparedSql
