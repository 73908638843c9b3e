import PreparedSql.Proofs.Use.Coherence
import PreparedSql.Proofs.Use.Typing

/-!
# What binding leaves alone

Conditions, assignments and queries write their slots from any offset on, into however many slots there are.
Main statement: each writes the slots that it claims and no other, and writes there what it would write into
slots of its own; rebinding writes those of variables alone, and what was bound before is then as if it had
been bound now (`binding_framed`).
-/

namespace PreparedSql

open Text

variable {M : Model}

/-- What writes slots of a statement: how many it claims, and how it binds and rebinds them from an offset
on. -/
structure Binder where
  slotCount : Nat
  bind : Valuation → Nat → Inputs → Inputs
  rebind : Valuation → Nat → Inputs → Inputs

def Condition.binder (c : Condition M) : Binder where
  slotCount := c.slotCount
  bind ρ := c.bind ρ
  rebind ρ := c.rebind ρ

def Assignment.binder (a : Assignment M) : Binder where
  slotCount := a.slotCount
  bind ρ := a.bind ρ
  rebind ρ := a.rebind ρ

def Query.binder (q : Query M) : Binder where
  slotCount := q.inputCount
  bind ρ := q.bind ρ
  rebind ρ := q.rebind ρ

namespace Binder

def fresh (w : Binder) (ρ : Valuation) : Inputs :=
  w.bind ρ 0 (Inputs.unbound w.slotCount)

/-- The binder keeps to the slots of its parameters. The first `waiting` of them are left as they are; into the
others goes what it would write into slots of its own, and only those of variables are read again. -/
structure Framed (w : Binder) (waiting : Nat) (ps : List (Parameter M)) : Prop where
  count : ps.length = w.slotCount
  length_bind : ∀ ρ offset b, (w.bind ρ offset b).length = b.length
  length_rebind : ∀ ρ offset b, (w.rebind ρ offset b).length = b.length
  outside : ∀ ρ offset b i, i < offset ∨ offset + w.slotCount ≤ i →
    (w.bind ρ offset b).slot? i = b.slot? i
  waits : ∀ ρ offset b k, k < waiting → (w.bind ρ offset b).slot? (offset + k) = b.slot? (offset + k)
  filled : ∀ ρ offset b k, waiting ≤ k → k < w.slotCount → offset + k < b.length →
    (w.bind ρ offset b).slot? (offset + k) = (w.fresh ρ).slot? k ∧
      ∃ kind value, (w.fresh ρ).slot? k = some (.bound kind value)
  holds : ∀ ρ k p, ps[k]? = some p → (w.fresh ρ).slot? k = some (p.slot ρ)
  reread : ∀ ρ offset b k p, ps[k]? = some p → p.isVariable = true →
    (w.rebind ρ offset b).slot? (offset + k) = (w.bind ρ offset b).slot? (offset + k)
  kept : ∀ ρ offset b i, (∀ k p, ps[k]? = some p → p.isVariable = true → offset + k ≠ i) →
    (w.rebind ρ offset b).slot? i = b.slot? i
  rebind_bind : ∀ ρ ρ' offset b, w.rebind ρ' offset (w.bind ρ offset b) = w.bind ρ' offset b

end Binder

namespace Parameter

theorem reread_of_variable {p : Parameter M} (varies : p.isVariable = true) (ρ : Valuation) :
    p.reread ρ = p.slot ρ := by
  cases p with
  | literal | field => cases varies
  | var τ v => rfl
  | count l =>
    cases l with
    | fixed count => cases varies
    | var v => rfl

theorem reread_of_not_variable {p : Parameter M} (constant : p.isVariable = false) (ρ : Valuation) :
    p.reread ρ = .unbound := by
  cases p with
  | literal | field => rfl
  | var τ v => cases constant
  | count l =>
    cases l with
    | fixed count => rfl
    | var v => cases constant

end Parameter

namespace Binder

/-- The binder lays the slots of the parameters over those of a statement. The first `waiting` of them have no
value. -/
structure Fills (w : Binder) (waiting : Nat) (ps : List (Parameter M)) : Prop where
  length : ps.length = w.slotCount
  bind : ∀ ρ offset b, w.bind ρ offset b = b.overlay offset (ps.map (Parameter.slot ρ))
  rebind : ∀ ρ offset b, w.rebind ρ offset b = b.overlay offset (ps.map (Parameter.reread ρ))
  missing : ∀ k p, ps[k]? = some p → (p.isMissing = true ↔ k < waiting)

namespace Fills

variable {w : Binder} {waiting : Nat} {ps : List (Parameter M)}

theorem of_claims {claims : List (Claim M)} {columns : List (Column M)} (count : claims.length = w.slotCount)
    (full : (Claim.parameters claims).length = claims.length) (awaiting : Claim.Await columns claims)
    (bind : ∀ ρ offset b, w.bind ρ offset b = b.overlay offset (claims.map (Claim.slot ρ)))
    (rebind : ∀ ρ offset b, w.rebind ρ offset b = b.overlay offset (claims.map (Claim.reread ρ))) :
    w.Fills columns.length (Claim.parameters claims) where
  length := full.trans count
  bind ρ offset b := (bind ρ offset b).trans (congrArg _ (Claim.map_of_full (Claim.slot ρ) full))
  rebind ρ offset b := (rebind ρ offset b).trans (congrArg _ (Claim.map_of_full (Claim.reread ρ) full))
  missing _ _ := awaiting.isMissing_iff

theorem fresh_eq (fills : w.Fills waiting ps) (ρ : Valuation) :
    w.fresh ρ = ⟨ps.map (Parameter.slot ρ)⟩ := by
  have own := Inputs.overlay_fresh (ps.map (Parameter.slot ρ))
  rw [List.length_map, fills.length] at own
  rw [fresh, fills.bind, own]

theorem holds (fills : w.Fills waiting ps) (ρ : Valuation) {k : Nat} {p : Parameter M}
    (found : ps[k]? = some p) : (w.fresh ρ).slot? k = some (p.slot ρ) := by
  simp [fills.fresh_eq, Inputs.slot?, found]

theorem waits (fills : w.Fills waiting ps) (ρ : Valuation) (offset : Nat) (b : Inputs) {k : Nat}
    (early : k < waiting) : (w.bind ρ offset b).slot? (offset + k) = b.slot? (offset + k) := by
  rw [fills.bind, Inputs.slot?_overlay_add, List.getElem?_map]
  cases found : ps[k]? with
  | none => simp
  | some p => simp [p.slot_of_missing ((fills.missing k p found).2 early)]

theorem filled (fills : w.Fills waiting ps) (ρ : Valuation) (offset : Nat) (b : Inputs) {k : Nat}
    (late : waiting ≤ k) (own : k < w.slotCount) (inside : offset + k < b.length) :
    (w.bind ρ offset b).slot? (offset + k) = (w.fresh ρ).slot? k ∧
      ∃ kind value, (w.fresh ρ).slot? k = some (.bound kind value) := by
  obtain ⟨p, found⟩ : ∃ p, ps[k]? = some p := ⟨_, List.getElem?_eq_getElem (fills.length ▸ own)⟩
  obtain ⟨old, there⟩ : ∃ old, b.slot? (offset + k) = some old := ⟨_, List.getElem?_eq_getElem inside⟩
  have given : p.isMissing = false := by
    rw [Bool.eq_false_iff, ne_eq, fills.missing k p found]
    omega
  obtain ⟨value, slot, _⟩ := p.slot_of_not_missing given ρ
  have mine : (w.fresh ρ).slot? k = some (.bound p.type.kind value) := by rw [fills.holds ρ found, slot]
  refine ⟨?_, _, _, mine⟩
  rw [mine, fills.bind, Inputs.slot?_overlay_add, there]
  simp [found, slot, InputSlot.over]

theorem reread (fills : w.Fills waiting ps) (ρ : Valuation) (offset : Nat) (b : Inputs) {k : Nat}
    {p : Parameter M} (found : ps[k]? = some p) (varies : p.isVariable = true) :
    (w.rebind ρ offset b).slot? (offset + k) = (w.bind ρ offset b).slot? (offset + k) := by
  rw [fills.bind, fills.rebind, Inputs.slot?_overlay_add, Inputs.slot?_overlay_add]
  simp [found, p.reread_of_variable varies]

/-- Rebinding leaves every slot alone that is not a variable's. -/
theorem kept (fills : w.Fills waiting ps) (ρ : Valuation) (offset : Nat) (b : Inputs) {i : Nat}
    (apart : ∀ k p, ps[k]? = some p → p.isVariable = true → offset + k ≠ i) :
    (w.rebind ρ offset b).slot? i = b.slot? i := by
  rw [fills.rebind]
  by_cases outside : i < offset ∨ offset + ps.length ≤ i
  · exact b.slot?_overlay_of_outside (by simpa using outside)
  · obtain ⟨k, rfl⟩ : ∃ k, i = offset + k := ⟨i - offset, by omega⟩
    obtain ⟨p, found⟩ : ∃ p, ps[k]? = some p := ⟨_, List.getElem?_eq_getElem (by omega)⟩
    have constant : p.isVariable = false := by
      rw [Bool.eq_false_iff]
      intro varies
      exact apart k p found varies rfl
    -- A parameter that is not read again lays nothing over its slot.
    rw [Inputs.slot?_overlay_add]
    simp [found, p.reread_of_not_variable constant]

/-- Rebinding what was bound comes to binding under the new values. -/
theorem rebind_bind (fills : w.Fills waiting ps) (ρ ρ' : Valuation) (offset : Nat) (b : Inputs) :
    w.rebind ρ' offset (w.bind ρ offset b) = w.bind ρ' offset b := by
  rw [fills.rebind, fills.bind, fills.bind]
  -- Position by position: what is read again covers the old value, and under what is not the value is the same.
  apply Inputs.overlay_overlay_of_over
  intro k
  cases found : ps[k]? with
  | none => simp [found]
  | some p => simp [found, p.reread_over_slot]

theorem framed (fills : w.Fills waiting ps) : w.Framed waiting ps where
  count := fills.length
  length_bind ρ offset b := by rw [fills.bind, Inputs.length_overlay]
  length_rebind ρ offset b := by rw [fills.rebind, Inputs.length_overlay]
  outside ρ offset b i outside := by
    rw [fills.bind]
    rw [← fills.length] at outside
    exact b.slot?_overlay_of_outside (by simpa using outside)
  waits ρ offset b _ := fills.waits ρ offset b
  filled ρ offset b _ := fills.filled ρ offset b
  holds ρ _ _ := fills.holds ρ
  reread ρ offset b _ _ := fills.reread ρ offset b
  kept ρ offset b _ := fills.kept ρ offset b
  rebind_bind := fills.rebind_bind

end Fills

end Binder

/-- Where no value is missing, none is waited for. -/
theorem Claim.await_nil {claims : List (Claim M)} (given : ∀ p ∈ parameters claims, p.isMissing = false) :
    Await [] claims :=
  ⟨parameters claims, rfl, given⟩

theorem Condition.fills {c : Condition M} (own : c.wordings = []) :
    c.binder.Fills 0 (Fragment.parameters c.fragments) := by
  have full : (Claim.parameters c.claims).length = c.claims.length := by
    rw [c.length_claims, c.slotCount_eq, own, Wording.total_nil, Nat.add_zero]
  rw [c.parameters_fragments]
  exact .of_claims c.length_claims full (Claim.await_nil fun _ => c.given) (fun ρ => c.bind_eq_overlay ρ)
    (fun ρ => c.rebind_eq_overlay ρ)

theorem Assignment.fills (a : Assignment M) : a.binder.Fills 0 (Fragment.parameters a.fragments) := by
  have full : (Claim.parameters a.claims).length = a.claims.length := by rw [a.length_claims, a.slotCount_eq]
  rw [a.parameters_fragments]
  exact .of_claims a.length_claims full (Claim.await_nil fun _ => a.given) (fun ρ => a.bind_eq_overlay ρ)
    (fun ρ => a.rebind_eq_overlay ρ)

theorem Query.fills {q : Query M} (own : q.wordings = []) :
    q.binder.Fills q.awaited.length (Fragment.parameters q.fragments) := by
  rw [q.parameters_fragments]
  exact .of_claims q.length_claims (full_of_own own) q.await_claims (fun ρ => q.bind_eq_overlay ρ)
    (fun ρ => q.rebind_eq_overlay ρ)

/-- Without conditions in the caller's words, what writes slots keeps to its own, at every offset and in every
array, and what it writes there hangs on neither. Of a query only the slots of an insert without a record are
left to be filled. -/
theorem binding_framed :
    (∀ c : Condition M, c.wordings = [] → c.binder.Framed 0 (Fragment.parameters c.fragments)) ∧
      (∀ a : Assignment M, a.binder.Framed 0 (Fragment.parameters a.fragments)) ∧
      ∀ q : Query M, q.wordings = [] →
        q.binder.Framed q.awaited.length (Fragment.parameters q.fragments) :=
  ⟨fun _ own => (Condition.fills own).framed, fun a => a.fills.framed,
    fun _ own => (Query.fills own).framed⟩

def Shelf.severalNumbers : Condition Shelf.book :=
  .logical .or (.compare .eq Shelf.number (.literal (7 : UInt32)))
    (.logical .or (.compare .eq Shelf.number (.var Shelf.first))
      (.compare .eq Shelf.number (.literal (9 : UInt32))))

example : (Shelf.severalNumbers.bind Valuation.default 1 (Inputs.unbound 3)).slots =
    [.unbound, .bound .integerUnsigned (.of .integerUnsigned (7 : UInt32)),
      .bound .integerUnsigned (.of .integerUnsigned (0 : UInt32))] := by
  rfl

theorem binding_framed_numbered :
    Shelf.severalNumbers.wordings = [] ∧
      Shelf.severalNumbers.binder.Framed 0 (Fragment.parameters Shelf.severalNumbers.fragments) ∧
      Shelf.limitedInsert.wordings = [] ∧
      Shelf.limitedInsert.binder.Framed 3 (Fragment.parameters Shelf.limitedInsert.fragments) := by
  have own : Shelf.severalNumbers.wordings = [] := rfl
  have own' : Shelf.limitedInsert.wordings = [] := rfl
  obtain ⟨conditions, _, queries⟩ := binding_framed (M := Shelf.book)
  exact ⟨own, conditions Shelf.severalNumbers own, own', queries Shelf.limitedInsert own'⟩

end PreparedSql
