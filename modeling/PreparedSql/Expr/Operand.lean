import PreparedSql.Expr.Variable
import PreparedSql.Schema.Table

/-!
# Operands

The right-hand side of a comparison or an assignment: a value fixed when the query is built, another column
of the same type, or a variable. Values and variables are written as placeholders and take one slot each.
-/

namespace PreparedSql

open Text

variable {M : Model} {τ : FieldType}

inductive Operand (M : Model) (τ : FieldType) where
  | literal (value : τ.Val)
  | column (field : Field M) (type_eq : field.type = τ)
  | var (v : Variable τ)

def Field.render (t : Table M) (f : Field M) : Except Error String :=
  match t.column f.name with
  | .ok c => .ok c.quoted
  | .error e => .error e

namespace Operand

def render (t : Table M) : Operand M τ → Except Error String
  | literal _ | var _ => .ok "?"
  | column f _ => f.render t

def slotCount : Operand M τ → Nat
  | literal _ | var _ => 1
  | column _ _ => 0

def bind (ρ : Valuation) (o : Operand M τ) (offset : Nat) (b : Inputs) : Inputs :=
  match o with
  | literal x => b.put offset τ.kind (τ.toValue x)
  | column _ _ => b
  | var v => b.put offset τ.kind (τ.toValue (ρ.get τ v))

def rebind (ρ : Valuation) (o : Operand M τ) (offset : Nat) (b : Inputs) : Inputs :=
  match o with
  | literal _ | column _ _ => b
  | var v => b.put offset τ.kind (τ.toValue (ρ.get τ v))

def inspect (ρ : Valuation) : Operand M τ → String
  | literal x => Inspect.record "Literal" [("value", τ.inspect x)]
  | column f _ => Inspect.variant "Col" (Inspect.quoted f.name)
  | var v => Inspect.record "VarRef" [("var", ρ.inspect v)]

end Operand

end PreparedSql
