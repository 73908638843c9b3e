import PreparedSql.Proofs.Slots.Overlay
import PreparedSql.Query.Binding
import PreparedSql.Query.Building

/-!
# Claims on slots

A query claims slots, from left to right. A claim names the parameter that fills its slot; the slots
that a caller's own condition claims have none. Main statements: what is bound for a value is what
its slot has to hold (`FieldType.toValue_eq`); binding and rebinding a query lay the slots of its
claims over the statement's, whatever the offset (`Query.bind_eq_overlay`, `Query.rebind_eq_overlay`),
so rebinding what was bound is binding afresh (`Query.rebind_bind`).
-/

namespace PreparedSql

open Calendar

variable {M : Model}

/-- What a slot holds for a value: the calendar year and the month from 1 for a time, and the value
itself for all others. -/
def Kind.content : (k : Kind) → k.Data BrokenDown → k.Data WireTime
  | .boolean, x | .tinyInt, x | .tinyIntUnsigned, x | .smallInt, x | .smallIntUnsigned, x
  | .integer, x | .integerUnsigned, x | .bigInt, x | .bigIntUnsigned, x | .text, x => x
  | .dateTime, t => {
    year := Int64.ofInt (1900 + t.year.toInt)
    month := Int64.ofInt (1 + t.month.toInt)
    day := Int64.ofInt t.monthDay.toInt
    hour := Int64.ofInt t.hour.toInt
    minute := Int64.ofInt t.minute.toInt
    second := Int64.ofInt t.second.toInt }

def FieldType.content : (τ : FieldType) → τ.Val → Value
  | .required k, x | .optional k, some x => .of k (k.content x)
  | .optional _, none => .null

theorem Kind.mapTime_toWire (k : Kind) (x : k.Data BrokenDown) :
    k.mapTime BrokenDown.toWire x = k.content x := by
  cases k with
  | dateTime => simp [mapTime, content, BrokenDown.toWire, Int64.ofInt_int32ToInt, Int.add_comm]
  | _ => rfl

/-- The value that is bound for a field, a literal or a variable is the one that its slot has to
hold. -/
theorem FieldType.toValue_eq (τ : FieldType) (x : τ.Val) : τ.toValue x = τ.content x := by
  cases τ with
  | required k => rw [toValue, k.mapTime_toWire, content]
  | optional k =>
    cases x with
    | none => rfl
    | some x => rw [toValue, k.mapTime_toWire, content]

/-- What one placeholder of the library stands for. -/
inductive Parameter (M : Model) where
  | literal (τ : FieldType) (value : τ.Val)
  | var (τ : FieldType) (v : Variable τ)
  | field (column : Column M) (record : Option (Record M))
  | count (limit : RowLimit)

namespace Parameter

/-- The slot that holds the parameter; a column to insert has no value without a record. -/
def slot (ρ : Valuation) : Parameter M → InputSlot
  | literal τ x => .bound τ.kind (τ.content x)
  | var τ v => .bound τ.kind (τ.content (ρ.get τ v))
  | field _ none => .unbound
  | field c (some r) => .bound c.kind (c.field.type.content (r.get c.field))
  | count (.fixed n) => .bound .bigIntUnsigned (.of .bigIntUnsigned n)
  | count (.var v) => .bound .bigIntUnsigned (.of .bigIntUnsigned (ρ.get _ v))

/-- The slot as it is read again: only variables are. -/
def reread (ρ : Valuation) : Parameter M → InputSlot
  | var τ v => .bound τ.kind (τ.content (ρ.get τ v))
  | count (.var v) => .bound .bigIntUnsigned (.of .bigIntUnsigned (ρ.get _ v))
  | literal .. | field .. | count (.fixed _) => .unbound

/-- Reading a parameter again fills its slot as if it had been bound just now. -/
theorem reread_over_slot (ρ ρ' : Valuation) (p : Parameter M) :
    (p.reread ρ').over (p.slot ρ) = p.slot ρ' := by
  cases p with
  | literal τ x => rfl
  | var τ v => rfl
  | field c record => cases record <;> rfl
  | count l => cases l <;> rfl

end Parameter

abbrev Claim (M : Model) := Option (Parameter M)

namespace Claim

def slot (ρ : Valuation) : Claim M → InputSlot
  | none => .unbound
  | some p => p.slot ρ

def reread (ρ : Valuation) : Claim M → InputSlot
  | none => .unbound
  | some p => p.reread ρ

theorem reread_over_slot (ρ ρ' : Valuation) (c : Claim M) :
    (c.reread ρ').over (c.slot ρ) = c.slot ρ' := by
  cases c with
  | none => rfl
  | some p => exact p.reread_over_slot ρ ρ'

theorem map_slot_replicate (ρ : Valuation) (count : Nat) :
    (List.replicate count (none : Claim M)).map (slot ρ) = List.replicate count .unbound := by
  simp [slot]

theorem map_reread_replicate (ρ : Valuation) (count : Nat) :
    (List.replicate count (none : Claim M)).map (reread ρ) = List.replicate count .unbound := by
  simp [reread]

end Claim

namespace Operand

variable {τ : FieldType}

def claims : Operand M τ → List (Claim M)
  | literal x => [some (.literal τ x)]
  | column _ _ => []
  | var v => [some (.var τ v)]

@[simp] theorem length_claims (o : Operand M τ) : o.claims.length = o.slotCount := by
  cases o <;> rfl

theorem bind_eq_overlay (ρ : Valuation) (o : Operand M τ) (offset : Nat) (b : Inputs) :
    o.bind ρ offset b = b.overlay offset (o.claims.map (Claim.slot ρ)) := by
  cases o with
  | literal x => rw [bind, τ.toValue_eq]; rfl
  | column f same => rfl
  | var v => rw [bind, τ.toValue_eq]; rfl

theorem rebind_eq_overlay (ρ : Valuation) (o : Operand M τ) (offset : Nat) (b : Inputs) :
    o.rebind ρ offset b = b.overlay offset (o.claims.map (Claim.reread ρ)) := by
  cases o with
  | literal x => rfl
  | column f same => rfl
  | var v => rw [rebind, τ.toValue_eq]; rfl

end Operand

namespace Condition

def claims : Condition M → List (Claim M)
  | compare _ _ operand => operand.claims
  | logical _ left right => left.claims ++ right.claims
  | written _ slots _ => List.replicate slots none

@[simp] theorem length_claims (c : Condition M) : c.claims.length = c.slotCount := by
  induction c with
  | compare op f operand => exact operand.length_claims
  | logical op left right ihLeft ihRight => simp [claims, slotCount, ihLeft, ihRight]
  | written sql slots disjunction => simp [claims, slotCount]

theorem bind_eq_overlay (ρ : Valuation) (c : Condition M) (offset : Nat) (b : Inputs) :
    c.bind ρ offset b = b.overlay offset (c.claims.map (Claim.slot ρ)) := by
  induction c generalizing offset b with
  | compare op f operand => exact operand.bind_eq_overlay ρ offset b
  | logical op left right ihLeft ihRight =>
    rw [bind, ihRight, ihLeft, claims, List.map_append, Inputs.overlay_append, List.length_map,
      length_claims]
  | written sql slots disjunction =>
    rw [bind, claims, Claim.map_slot_replicate, Inputs.overlay_replicate_unbound]

theorem rebind_eq_overlay (ρ : Valuation) (c : Condition M) (offset : Nat) (b : Inputs) :
    c.rebind ρ offset b = b.overlay offset (c.claims.map (Claim.reread ρ)) := by
  induction c generalizing offset b with
  | compare op f operand => exact operand.rebind_eq_overlay ρ offset b
  | logical op left right ihLeft ihRight =>
    rw [rebind, ihRight, ihLeft, claims, List.map_append, Inputs.overlay_append, List.length_map,
      length_claims]
  | written sql slots disjunction =>
    rw [rebind, claims, Claim.map_reread_replicate, Inputs.overlay_replicate_unbound]

end Condition

mutual

def Assignment.claims : Assignment M → List (Claim M)
  | .set _ operand => operand.claims
  | .group members => members.claims

def Assignments.claims : Assignments M → List (Claim M)
  | .last a => a.claims
  | .cons a rest => a.claims ++ rest.claims

end

mutual

@[simp] theorem Assignment.length_claims : (a : Assignment M) → a.claims.length = a.slotCount
  | .set _ operand => operand.length_claims
  | .group members => members.length_claims

@[simp] theorem Assignments.length_claims : (as : Assignments M) → as.claims.length = as.slotCount
  | .last a => a.length_claims
  | .cons a rest => by
    rw [Assignments.claims, List.length_append, a.length_claims, rest.length_claims,
      Assignments.slotCount]

end

mutual

theorem Assignment.bind_eq_overlay (ρ : Valuation) : (a : Assignment M) → (offset : Nat) → (b : Inputs) →
    a.bind ρ offset b = b.overlay offset (a.claims.map (Claim.slot ρ))
  | .set _ operand, offset, b => operand.bind_eq_overlay ρ offset b
  | .group members, offset, b => members.bind_eq_overlay ρ offset b

theorem Assignments.bind_eq_overlay (ρ : Valuation) :
    (as : Assignments M) → (offset : Nat) → (b : Inputs) →
    as.bind ρ offset b = b.overlay offset (as.claims.map (Claim.slot ρ))
  | .last a, offset, b => a.bind_eq_overlay ρ offset b
  | .cons a rest, offset, b => by
    rw [Assignments.bind, rest.bind_eq_overlay ρ, a.bind_eq_overlay ρ, Assignments.claims,
      List.map_append, Inputs.overlay_append, List.length_map, a.length_claims]

end

mutual

theorem Assignment.rebind_eq_overlay (ρ : Valuation) :
    (a : Assignment M) → (offset : Nat) → (b : Inputs) →
    a.rebind ρ offset b = b.overlay offset (a.claims.map (Claim.reread ρ))
  | .set _ operand, offset, b => operand.rebind_eq_overlay ρ offset b
  | .group members, offset, b => members.rebind_eq_overlay ρ offset b

theorem Assignments.rebind_eq_overlay (ρ : Valuation) :
    (as : Assignments M) → (offset : Nat) → (b : Inputs) →
    as.rebind ρ offset b = b.overlay offset (as.claims.map (Claim.reread ρ))
  | .last a, offset, b => a.rebind_eq_overlay ρ offset b
  | .cons a rest, offset, b => by
    rw [Assignments.rebind, rest.rebind_eq_overlay ρ, a.rebind_eq_overlay ρ, Assignments.claims,
      List.map_append, Inputs.overlay_append, List.length_map, a.length_claims]

end

def Column.claims (record : Option (Record M)) (columns : List (Column M)) : List (Claim M) :=
  columns.map fun c => some (.field c record)

theorem Column.bindAll_eq_overlay (ρ : Valuation) (r : Record M) (columns : List (Column M))
    (offset : Nat)
    (b : Inputs) :
    Column.bindAll r columns offset b =
      b.overlay offset ((Column.claims (some r) columns).map (Claim.slot ρ)) := by
  induction columns generalizing offset b with
  | nil => rfl
  | cons c rest ih =>
    rw [bindAll, bindInput, c.field.type.toValue_eq]
    exact ih (offset + 1) _

theorem Column.map_slot_claims_none (ρ : Valuation) (columns : List (Column M)) :
    (Column.claims none columns).map (Claim.slot ρ) = List.replicate columns.length .unbound := by
  simp [claims, Claim.slot, Parameter.slot, Function.comp_def, List.map_const']

theorem Column.map_reread_claims (ρ : Valuation) (record : Option (Record M))
    (columns : List (Column M)) :
    (Column.claims record columns).map (Claim.reread ρ) = List.replicate columns.length .unbound := by
  simp [claims, Claim.reread, Parameter.reread, Function.comp_def, List.map_const']

namespace Query

def claims : Query M → List (Claim M)
  | select .. | update _ | delete _ => []
  | insert _ s record => Column.claims record s.columns
  | filtered q c => q.claims ++ c.claims
  | assigned q a => q.claims ++ a.claims
  | limited q l => q.claims ++ [some (.count l)]

@[simp] theorem length_claims (q : Query M) : q.claims.length = q.inputCount := by
  induction q with
  | select t s => rfl
  | insert t s record => simp [claims, Column.claims, inputCount]
  | update t => rfl
  | delete t => rfl
  | filtered q c ih => simp [claims, inputCount, ih]
  | assigned q a ih => simp [claims, inputCount, ih]
  | limited q l ih => simp [claims, inputCount, ih]

/-- Binding a query lays the slots of its claims over those of the statement. -/
theorem bind_eq_overlay (ρ : Valuation) (q : Query M) (offset : Nat) (b : Inputs) :
    q.bind ρ offset b = b.overlay offset (q.claims.map (Claim.slot ρ)) := by
  induction q generalizing b with
  | select t s => rfl
  | insert t s record =>
    cases record with
    | none => rw [bind, claims, Column.map_slot_claims_none, Inputs.overlay_replicate_unbound]
    | some r => rw [bind, claims, Column.bindAll_eq_overlay ρ]
  | update t => rfl
  | delete t => rfl
  | filtered q c ih =>
    rw [bind, c.bind_eq_overlay, ih, claims, List.map_append, Inputs.overlay_append,
      List.length_map, length_claims]
  | assigned q a ih =>
    rw [bind, a.bind_eq_overlay, ih, claims, List.map_append, Inputs.overlay_append,
      List.length_map, length_claims]
  | limited q l ih =>
    rw [bind, ih, claims, List.map_append, Inputs.overlay_append, List.length_map, length_claims]
    cases l <;> rfl

/-- Rebinding lays those of the variables only. -/
theorem rebind_eq_overlay (ρ : Valuation) (q : Query M) (offset : Nat) (b : Inputs) :
    q.rebind ρ offset b = b.overlay offset (q.claims.map (Claim.reread ρ)) := by
  induction q generalizing b with
  | select t s => rfl
  | insert t s record => rw [rebind, claims, Column.map_reread_claims, Inputs.overlay_replicate_unbound]
  | update t => rfl
  | delete t => rfl
  | filtered q c ih =>
    rw [rebind, c.rebind_eq_overlay, ih, claims, List.map_append, Inputs.overlay_append, List.length_map,
      length_claims]
  | assigned q a ih =>
    rw [rebind, a.rebind_eq_overlay, ih, claims, List.map_append, Inputs.overlay_append, List.length_map,
      length_claims]
  | limited q l ih =>
    cases l with
    | fixed count =>
      rw [rebind, ih, claims, List.map_append, Inputs.overlay_append]
      rfl
    | var v =>
      rw [rebind, ih, claims, List.map_append, Inputs.overlay_append, List.length_map, length_claims]
      rfl

theorem bind_unbound (ρ : Valuation) (q : Query M) :
    q.bind ρ 0 (Inputs.unbound q.inputCount) = ⟨q.claims.map (Claim.slot ρ)⟩ := by
  have fresh := Inputs.overlay_fresh (q.claims.map (Claim.slot ρ))
  rw [List.length_map, length_claims] at fresh
  rw [bind_eq_overlay, fresh]

/-- Rebinding slots that were filled under other values of the variables fills them under the new
ones. -/
theorem rebind_bind (ρ ρ' : Valuation) (q : Query M) :
    q.rebind ρ' 0 ⟨q.claims.map (Claim.slot ρ)⟩ = ⟨q.claims.map (Claim.slot ρ')⟩ := by
  rw [rebind_eq_overlay, Inputs.overlay_eq_zipWith (by simp), List.zipWith_map]
  simp [List.zipWith_self, Claim.reread_over_slot]

theorem rebind_rebind (ρ : Valuation) (q : Query M) (b : Inputs) :
    q.rebind ρ 0 (q.rebind ρ 0 b) = q.rebind ρ 0 b := by
  simp only [rebind_eq_overlay, Inputs.overlay_overlay]

end Query

end PreparedSql
