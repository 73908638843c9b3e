import PreparedSql.Expr.Operand

/-!
# Assignments

What an update sets: a column to an operand, or a group of assignments. Groups nest and hold at least one
member; their texts are joined by commas and their slots follow one another.
-/

namespace PreparedSql

variable {M : Model}

mutual

inductive Assignment (M : Model) where
  | set (field : Field M) (operand : Operand M field.type)
  | group (members : Assignments M)

/-- One assignment or more. -/
inductive Assignments (M : Model) where
  | last (a : Assignment M)
  | cons (a : Assignment M) (rest : Assignments M)

end

mutual

def Assignment.render (t : Table M) : Assignment M → Except Error String
  | .set f operand =>
    match f.render t with
    | .error e => .error e
    | .ok column =>
      match operand.render t with
      | .error e => .error e
      | .ok sql => .ok (column ++ "=" ++ sql)
  | .group members => members.render t

def Assignments.render (t : Table M) : Assignments M → Except Error String
  | .last a => a.render t
  | .cons a rest =>
    match a.render t with
    | .error e => .error e
    | .ok sql =>
      match rest.render t with
      | .error e => .error e
      | .ok more => .ok (sql ++ ", " ++ more)

end

mutual

def Assignment.slotCount : Assignment M → Nat
  | .set _ operand => operand.slotCount
  | .group members => members.slotCount

def Assignments.slotCount : Assignments M → Nat
  | .last a => a.slotCount
  | .cons a rest => a.slotCount + rest.slotCount

end

mutual

def Assignment.bind (ρ : Valuation) : Assignment M → Nat → Inputs → Inputs
  | .set _ operand, offset, b => operand.bind ρ offset b
  | .group members, offset, b => members.bind ρ offset b

def Assignments.bind (ρ : Valuation) : Assignments M → Nat → Inputs → Inputs
  | .last a, offset, b => a.bind ρ offset b
  | .cons a rest, offset, b => rest.bind ρ (offset + a.slotCount) (a.bind ρ offset b)

end

mutual

def Assignment.rebind (ρ : Valuation) : Assignment M → Nat → Inputs → Inputs
  | .set _ operand, offset, b => operand.rebind ρ offset b
  | .group members, offset, b => members.rebind ρ offset b

def Assignments.rebind (ρ : Valuation) : Assignments M → Nat → Inputs → Inputs
  | .last a, offset, b => a.rebind ρ offset b
  | .cons a rest, offset, b => rest.rebind ρ (offset + a.slotCount) (a.rebind ρ offset b)

end

mutual

def Assignment.inspect (ρ : Valuation) : Assignment M → String
  | .set f operand =>
    Inspect.record "Assignment" [
      ("column", Inspect.variant "Col" (Inspect.quoted f.name)), ("value", operand.inspect ρ)]
  | .group members => Inspect.tuple (members.inspectAll ρ)

def Assignments.inspectAll (ρ : Valuation) : Assignments M → List String
  | .last a => [a.inspect ρ]
  | .cons a rest => a.inspect ρ :: rest.inspectAll ρ

end

end PreparedSql
