import PreparedSql.Expr.Operand

/-!
# Conditions

Comparisons joined by AND and OR, and conditions written out by the caller. AND binds tighter than OR, so an
operand of AND that is a disjunction stands in parentheses. Slots are taken from left to right, as the
placeholders stand in the text.
-/

namespace PreparedSql

variable {M : Model}

inductive Comparison where
  | eq
  | ne
  | gt
  | ge
  | lt
  | le
  deriving DecidableEq

def Comparison.symbol : Comparison → String
  | eq => "="
  | ne => "<>"
  | gt => ">"
  | ge => ">="
  | lt => "<"
  | le => "<="

inductive Connective where
  | and
  | or
  deriving DecidableEq

def Connective.keyword : Connective → String
  | and => " AND "
  | or => " OR "

/-- A condition. A `written` one is in the caller's own words: its text, the number of slots it claims and
whether it is a disjunction. It binds none of the slots that it claims. -/
inductive Condition (M : Model) where
  | compare (op : Comparison) (field : Field M) (operand : Operand M field.type)
  | logical (op : Connective) (left right : Condition M)
  | written (sql : String) (slots : Nat) (disjunction : Bool)

namespace Condition

def isDisjunction : Condition M → Bool
  | compare .. => false
  | logical op _ _ => op = .or
  | written _ _ disjunction => disjunction

/-- The operand of a connective, in parentheses where the connective would otherwise break it up. -/
def enclose (op : Connective) (operand : Condition M) (sql : String) : String :=
  if op = .and ∧ operand.isDisjunction then "(" ++ sql ++ ")" else sql

def render (t : Table M) : Condition M → Except Error String
  | compare op f operand =>
    match f.render t with
    | .error e => .error e
    | .ok column =>
      match operand.render t with
      | .error e => .error e
      | .ok sql => .ok (column ++ op.symbol ++ sql)
  | logical op left right =>
    match left.render t with
    | .error e => .error e
    | .ok leftSql =>
      match right.render t with
      | .error e => .error e
      | .ok rightSql => .ok (enclose op left leftSql ++ op.keyword ++ enclose op right rightSql)
  | written sql _ _ => .ok sql

def slotCount : Condition M → Nat
  | compare _ _ operand => operand.slotCount
  | logical _ left right => left.slotCount + right.slotCount
  | written _ slots _ => slots

def bind (ρ : Valuation) (c : Condition M) (offset : Nat) (b : Inputs) : Inputs :=
  match c with
  | compare _ _ operand => operand.bind ρ offset b
  | logical _ left right => right.bind ρ (offset + left.slotCount) (left.bind ρ offset b)
  | written .. => b

def rebind (ρ : Valuation) (c : Condition M) (offset : Nat) (b : Inputs) : Inputs :=
  match c with
  | compare _ _ operand => operand.rebind ρ offset b
  | logical _ left right => right.rebind ρ (offset + left.slotCount) (left.rebind ρ offset b)
  | written .. => b

end Condition

def Comparison.label : Comparison → String
  | eq => "Eq"
  | ne => "Ne"
  | gt => "Gt"
  | ge => "Ge"
  | lt => "Lt"
  | le => "Le"

def Connective.label : Connective → String
  | and => "And"
  | or => "Or"

namespace Condition

def label : Condition M → String
  | compare op _ _ => op.label
  | logical op _ _ => op.label
  | written .. => "Raw"

def inspect (ρ : Valuation) : Condition M → String
  | compare op f operand =>
    Inspect.record "Compare" [
      ("op", op.label), ("lhs", Inspect.variant "Col" (Inspect.quoted f.name)),
      ("rhs", operand.inspect ρ)]
  | logical op left right =>
    Inspect.record "Logical" [("op", op.label), ("lhs", left.inspect ρ), ("rhs", right.inspect ρ)]
  | written sql slots disjunction =>
    Inspect.record "Raw" [
      ("sql", Inspect.quoted sql), ("slots", toString slots), ("or", Inspect.bool disjunction)]

end Condition

end PreparedSql
