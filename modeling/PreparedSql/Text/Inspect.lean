import PreparedSql.Text.Unprintable

/-!
# Inspection texts

Values appear in logs and error messages on one line: texts in double quotes, records as
name and braces, variants as name and parentheses, lists in brackets.
-/

namespace PreparedSql.Inspect

open PreparedSql.Text

def hexDigits (n : Nat) : String :=
  String.ofList (Nat.toDigits 16 n)

def escaped (c : Char) : String :=
  match c with
  | '"' => "\\\""
  | '\\' => "\\\\"
  | '\n' => "\\n"
  | '\r' => "\\r"
  | '\t' => "\\t"
  | '\x00' => "\\0"
  | c => if isUnprintable c then "\\u\x7b" ++ hexDigits c.toNat ++ "\x7d" else c.toString

/-- A text in double quotes, with the characters that would break the line written by escape. -/
def quoted (text : String) : String :=
  "\"" ++ String.join (text.toList.map escaped) ++ "\""

def variant (name value : String) : String :=
  name ++ "(" ++ value ++ ")"

def list (items : List String) : String :=
  "[" ++ ", ".intercalate items ++ "]"

/-- Items in parentheses; a comma marks one item alone. -/
def tuple : List String → String
  | [item] => "(" ++ item ++ ",)"
  | items => "(" ++ ", ".intercalate items ++ ")"

def record (name : String) (fields : List (String × String)) : String :=
  name ++ " \x7b " ++ ", ".intercalate (fields.map fun (field, value) => field ++ ": " ++ value) ++ " \x7d"

def option : Option String → String
  | none => "None"
  | some value => variant "Some" value

def bool : Bool → String
  | true => "true"
  | false => "false"

end PreparedSql.Inspect
