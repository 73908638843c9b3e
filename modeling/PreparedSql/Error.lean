import PreparedSql.Schema.Tag
import PreparedSql.Value.Basic

/-!
# Errors

What can go wrong in declaring tables, preparing statements, binding, running and reading, each by its
cause. The wording is `Error.message`.
-/

namespace PreparedSql

open Calendar

structure ServerError where
  number : Nat
  state : Option String
  message : String
  deriving DecidableEq

/-- The characters that take up the first bytes of a text, and those after them, if no character lies across. -/
def splitBytes? : Nat → List Char → Option (List Char × List Char)
  | 0, rest => some ([], rest)
  | _ + 1, [] => none
  | n + 1, c :: rest =>
    if c.utf8Size ≤ n + 1 then
      (splitBytes? (n + 1 - c.utf8Size) rest).map fun (front, rest) => (c :: front, rest)
    else none

theorem append_of_splitBytes? {n : Nat} {text front rest : List Char}
    (split : splitBytes? n text = some (front, rest)) : front ++ rest = text := by
  fun_induction splitBytes? n text generalizing front rest with
  | case1 => simp_all
  | case2 => simp at split
  | case3 n c after _ ih =>
    obtain ⟨⟨found, _⟩, inner, same⟩ := Option.map_eq_some_iff.1 split
    cases same
    simp [ih inner]
  | case4 => simp at split

def byteLength : List Char → Nat
  | [] => 0
  | c :: rest => c.utf8Size + byteLength rest

/-- A text that was put together splits again at the same byte. -/
theorem splitBytes?_append (front rest : List Char) :
    splitBytes? (byteLength front) (front ++ rest) = some (front, rest) := by
  induction front with
  | nil => cases rest <;> rfl
  | cons c front ih =>
    have positive := c.utf8Size_pos
    obtain ⟨n, same⟩ : ∃ n, c.utf8Size + byteLength front = n + 1 :=
      ⟨c.utf8Size + byteLength front - 1, by omega⟩
    have left : n + 1 - c.utf8Size = byteLength front := by omega
    rw [byteLength, same, List.cons_append, splitBytes?, if_pos (by omega), left, ih]
    rfl

/-- What a server sends of an error after its number: a state, marked by a number sign, stands in front of the
message, and nothing marks its end. -/
def ServerError.sent (state : Option String) (message : String) : String :=
  match state with
  | some state => "#" ++ state ++ message
  | none => message

/-- The error as it is read from what was sent: a number sign in front announces a state of five bytes. -/
def ServerError.read (number : Nat) (sent : String) : ServerError :=
  match sent.toList with
  | '#' :: text =>
    match splitBytes? 5 text with
    | some (state, message) => ⟨number, some (String.ofList state), String.ofList message⟩
    | none => ⟨number, none, sent⟩
  | _ => ⟨number, none, sent⟩

/-- A state of five bytes arrives as it was sent. -/
theorem ServerError.read_sent (number : Nat) (state message : String)
    (five : byteLength state.toList = 5) :
    read number (sent (some state) message) = ⟨number, some state, message⟩ := by
  have split := splitBytes?_append state.toList message.toList
  rw [five] at split
  simp [read, sent, split]

inductive DatabaseError where
  | server (error : ServerError)
  | rowNotFound
  | columnIndexOutOfBounds (index length : Nat)
  | encode (position : Nat) (date : DateTime)
  | columnDecode
  deriving DecidableEq

inductive Error where
  | database (cause : DatabaseError)
  | duplicateConstraint (tag : Tag) (column : String)
  | attributeNotFound (name table : String)
  | emptyTable (table : String)
  | duplicateColumn (column table : String)
  | tableNotFound (model : String)
  | duplicateTable (table : String)
  | invalidIdentifier (name : String)
  | unboundSlot (slot : Nat)
  | slotMismatch (placeholders slots : Nat)
  | typeMismatch (column : String) (expected found : Kind)
  | truncated (column : String) (length capacity : Nat)
  | invalidDateTime (value : Rejected)
  deriving DecidableEq

def ServerError.text (e : ServerError) : String :=
  let state := match e.state with
    | some state => " (" ++ state ++ ")"
    | none => ""
  toString e.number ++ state ++ ": " ++ e.message

/-- The client's wording for a date that it cannot send; parameters are counted from 1. -/
def encodeMessage (position : Nat) (date : DateTime) : String :=
  "Encoding argument $" ++ toString position ++ " failed: NaiveDateTime out of range for Mysql: " ++
    date.dateText

def DatabaseError.message : DatabaseError → String
  | server e => "error returned from database: " ++ e.text
  | rowNotFound => "no rows returned by a query that expected to return at least one row"
  | columnIndexOutOfBounds index length =>
    "column index out of bounds: the len is " ++ toString length ++ ", but the index is " ++ toString index
  | encode position date => "error occurred while encoding a value: " ++ encodeMessage position date
  | columnDecode => "error occurred while decoding a column"

namespace Error

def message : Error → String
  | database cause => "Database error: " ++ cause.message
  | duplicateConstraint tag column =>
    "Constraint '" ++ tag.keyword ++ "' specified multiple times on column '" ++ column ++ "'"
  | attributeNotFound name table =>
    "Attribute '" ++ name ++ "' is not mapped by table '" ++ table ++ "'"
  | emptyTable table => "Table '" ++ table ++ "' has no columns"
  | duplicateColumn column table =>
    "Column '" ++ column ++ "' declared twice in table '" ++ table ++ "'"
  | tableNotFound model => "No table maps model '" ++ model ++ "'"
  | duplicateTable table => "Table '" ++ table ++ "' registered twice"
  | invalidIdentifier name => "Invalid SQL identifier '" ++ name ++ "'"
  | unboundSlot slot => "Bind slot " ++ toString slot ++ " was not bound before execution"
  | slotMismatch placeholders slots =>
    "Query renders " ++ toString placeholders ++ " placeholders but reports " ++ toString slots ++
      " input slots"
  | typeMismatch column expected found =>
    "Column '" ++ column ++ "' expected a " ++ expected.sqlType ++ " value, got " ++ found.sqlType
  | truncated column length capacity =>
    "Value of column '" ++ column ++ "' (" ++ toString length ++ " bytes) does not fit VARCHAR(" ++
      toString capacity ++ ")"
  | invalidDateTime value => "Invalid DATETIME value: " ++ value.inspect

def number? : Error → Option Nat
  | database (.server e) => some e.number
  | _ => none

def isMissingTable (e : Error) : Bool :=
  e.number? == some 1146

end Error

end PreparedSql
