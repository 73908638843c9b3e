import PreparedSql.Query.Basic

/-!
# Binding a query's slots

`bind` writes every slot that the query can fill, `rebind` only those that variables fill. Both begin at an
offset and write nothing before it.
-/

namespace PreparedSql

variable {M : Model}

def Column.bindAll (r : Record M) : List (Column M) → Nat → Inputs → Inputs
  | [], _, b => b
  | c :: rest, offset, b => bindAll r rest (offset + 1) (c.bindInput r b offset)

namespace Query

def bind (ρ : Valuation) : Query M → Nat → Inputs → Inputs
  | select .., _, b | update _, _, b | delete _, _, b | insert _ _ none, _, b => b
  | insert _ s (some r), offset, b => Column.bindAll r s.columns offset b
  | filtered q c, offset, b => c.bind ρ (offset + q.inputCount) (q.bind ρ offset b)
  | assigned q a, offset, b => a.bind ρ (offset + q.inputCount) (q.bind ρ offset b)
  | limited q l, offset, b =>
    (q.bind ρ offset b).put (offset + q.inputCount) .bigIntUnsigned (l.value ρ)

def rebind (ρ : Valuation) : Query M → Nat → Inputs → Inputs
  | select .., _, b | update _, _, b | delete _, _, b | insert .., _, b => b
  | filtered q c, offset, b => c.rebind ρ (offset + q.inputCount) (q.rebind ρ offset b)
  | assigned q a, offset, b => a.rebind ρ (offset + q.inputCount) (q.rebind ρ offset b)
  | limited q (.fixed _), offset, b => q.rebind ρ offset b
  | limited q (.var v), offset, b =>
    (q.rebind ρ offset b).put (offset + q.inputCount) .bigIntUnsigned (RowLimit.value ρ (.var v))

end Query

end PreparedSql
