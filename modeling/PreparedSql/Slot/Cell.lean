import PreparedSql.Error

/-!
# Cells of a row

A cell is read as a value of the kind that its slot asks for. Numbers are read by what they are worth, so a
boolean and an integer exchange their values where these fit: `Kind.decode?`. A cell of the kind itself reads
back as it is (`Kind.decode?_self`).
-/

namespace PreparedSql

open Calendar

/-- A DATETIME cell: a wire time and the microseconds after it. A second that lasts longer than a million of
them is a leap second, which goes under the number 59. -/
structure CellTime where
  time : WireTime
  microsecond : Nat := 0
  deriving DecidableEq

def CellTime.read? (c : CellTime) : Option WireTime :=
  match c.time.toDateTime? with
  | none => none
  | some d => if c.microsecond < (if d.second = 59 then 2000000 else 1000000) then some c.time else none

/-- The word for a number, if the word holds that number. -/
def fitted? {W : Type} (ofInt : Int → W) (toInt : W → Int) (n : Int) : Option W :=
  if toInt (ofInt n) = n then some (ofInt n) else none

theorem fitted?_self {W : Type} (ofInt : Int → W) (toInt : W → Int) (x : W)
    (back : ofInt (toInt x) = x) : fitted? ofInt toInt (toInt x) = some x := by
  simp [fitted?, back]

/-- A signed byte as a boolean: zero is false. -/
def truth? (n : Int) : Option Bool :=
  if -128 ≤ n ∧ n ≤ 127 then some (n ≠ 0) else none

namespace Kind

variable {T : Type}

def number? : (k : Kind) → k.Data T → Option Int
  | boolean, x => some (if x then 1 else 0)
  | tinyInt, x => some (Int8.toInt x)
  | tinyIntUnsigned, x => some (UInt8.toNat x)
  | smallInt, x => some (Int16.toInt x)
  | smallIntUnsigned, x => some (UInt16.toNat x)
  | integer, x => some (Int32.toInt x)
  | integerUnsigned, x => some (UInt32.toNat x)
  | bigInt, x => some (Int64.toInt x)
  | bigIntUnsigned, x => some (UInt64.toNat x)
  | text, _ | dateTime, _ => none

def ofNumber? : (k : Kind) → Int → Option (k.Data T)
  | tinyInt, n => fitted? Int8.ofInt Int8.toInt n
  | tinyIntUnsigned, n => fitted? (fun n => UInt8.ofNat n.toNat) (fun x => x.toNat) n
  | smallInt, n => fitted? Int16.ofInt Int16.toInt n
  | smallIntUnsigned, n => fitted? (fun n => UInt16.ofNat n.toNat) (fun x => x.toNat) n
  | integer, n => fitted? Int32.ofInt Int32.toInt n
  | integerUnsigned, n => fitted? (fun n => UInt32.ofNat n.toNat) (fun x => x.toNat) n
  | bigInt, n => fitted? Int64.ofInt Int64.toInt n
  | bigIntUnsigned, n => fitted? (fun n => UInt64.ofNat n.toNat) (fun x => x.toNat) n
  | boolean, _ | text, _ | dateTime, _ => none

def text? : (k : Kind) → k.Data T → Option String
  | text, x => some x
  | _, _ => none

def time? : (k : Kind) → k.Data T → Option T
  | dateTime, x => some x
  | _, _ => none

/-- A cell of kind `own` read as another kind. A boolean reads the bytes of any integer with a sign; an
integer reads only numbers of its own signedness, a boolean being signed. -/
def decode? (own : Kind) (x : own.Data CellTime) : (kind : Kind) → Option (kind.Data WireTime)
  | boolean => (own.number? x).bind fun n => truth? (n.bmod (Nat.pow 256 (own.width.getD 0)))
  | text => own.text? x
  | dateTime => (own.time? x).bind CellTime.read?
  | kind => if own.isUnsigned = kind.isUnsigned then (own.number? x).bind kind.ofNumber? else none

theorem decode?_self {k : Kind} (h : k ≠ .dateTime) (x : k.Data CellTime) :
    k.decode? x k = some (k.mapTime CellTime.time x) := by
  cases k with
  | boolean => cases x <;> decide
  | tinyInt => exact fitted?_self Int8.ofInt Int8.toInt x (Int8.ofInt_toInt x)
  | tinyIntUnsigned => exact fitted?_self (fun n => UInt8.ofNat n.toNat) (fun x => x.toNat) x UInt8.ofNat_toNat
  | smallInt => exact fitted?_self Int16.ofInt Int16.toInt x (Int16.ofInt_toInt x)
  | smallIntUnsigned => exact fitted?_self (fun n => UInt16.ofNat n.toNat) (fun x => x.toNat) x UInt16.ofNat_toNat
  | integer => exact fitted?_self Int32.ofInt Int32.toInt x (Int32.ofInt_toInt x)
  | integerUnsigned => exact fitted?_self (fun n => UInt32.ofNat n.toNat) (fun x => x.toNat) x UInt32.ofNat_toNat
  | bigInt => exact fitted?_self Int64.ofInt Int64.toInt x (Int64.ofInt_toInt x)
  | bigIntUnsigned => exact fitted?_self (fun n => UInt64.ofNat n.toNat) (fun x => x.toNat) x UInt64.ofNat_toNat
  | text => rfl
  | dateTime => exact absurd rfl h

end Kind

abbrev Row := List (Datum CellTime)

def Row.read (row : Row) (index : Nat) (kind : Kind) : Except Error Value :=
  match row[index]? with
  | none => .error (.database (.columnIndexOutOfBounds index row.length))
  | some ⟨_, none⟩ => .ok .null
  | some ⟨own, some data⟩ =>
    match own.decode? data kind with
    | some value => .ok (.of kind value)
    | none => .error (.database .columnDecode)

end PreparedSql
