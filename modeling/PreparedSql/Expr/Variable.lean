import PreparedSql.Value.FieldType

/-!
# Variables

A variable is read each time a statement is executed. Every mention of one variable reads the same value of
the valuation.
-/

namespace PreparedSql

structure Variable (τ : FieldType) where
  name : String
  deriving DecidableEq

/-- The values that variables hold at a moment. -/
@[ext] structure Valuation where
  get : (τ : FieldType) → Variable τ → τ.Val

namespace Valuation

def default : Valuation :=
  ⟨fun τ _ => τ.default⟩

def set {τ : FieldType} (ρ : Valuation) (v : Variable τ) (x : τ.Val) : Valuation :=
  ⟨fun σ w => if h : τ = σ then if h ▸ v = w then h ▸ x else ρ.get σ w else ρ.get σ w⟩

@[simp] theorem get_set_self {τ : FieldType} (ρ : Valuation) (v : Variable τ) (x : τ.Val) :
    (ρ.set v x).get τ v = x := by
  simp [set]

theorem get_set_of_ne {τ : FieldType} (ρ : Valuation) {v w : Variable τ} (h : v ≠ w) (x : τ.Val) :
    (ρ.set v x).get τ w = ρ.get τ w := by
  simp [set, h]

theorem get_set_of_type_ne {τ σ : FieldType} (ρ : Valuation) (h : τ ≠ σ) (v : Variable τ) (w : Variable σ)
    (x : τ.Val) : (ρ.set v x).get σ w = ρ.get σ w := by
  simp [set, h]

end Valuation

def Valuation.inspect {τ : FieldType} (ρ : Valuation) (v : Variable τ) : String :=
  Inspect.variant "Var" (τ.inspect (ρ.get τ v))

end PreparedSql
