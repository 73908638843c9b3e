import PreparedSql.Slot.Input

/-!
# Overlays

Binding writes many slots one after the other. An overlay writes a whole list of slots at once and
leaves alone what lies under an unbound one. Main statements: two overlays side by side are one
(`overlay_append`), and an overlay acts position by position (`getElem?_overlay`).
-/

namespace PreparedSql

def InputSlot.over (s old : InputSlot) : InputSlot :=
  match s with
  | unbound => old
  | bound kind value => bound kind value

@[simp] theorem InputSlot.over_unbound (s : InputSlot) : s.over unbound = s := by
  cases s <;> rfl

@[simp] theorem InputSlot.unbound_over (s : InputSlot) : unbound.over s = s := rfl

@[simp] theorem InputSlot.unbound_over_eq_id : InputSlot.over unbound = id := rfl

theorem InputSlot.over_assoc (s t old : InputSlot) : (s.over t).over old = s.over (t.over old) := by
  cases s <;> rfl

theorem InputSlot.over_self (s : InputSlot) : s.over s = s := by
  cases s <;> rfl

namespace Inputs

def lay (b : Inputs) (i : Nat) : InputSlot → Inputs
  | .unbound => b
  | .bound kind value => b.put i kind value

/-- Lays slots over the positions from `offset` on. -/
def overlay (b : Inputs) (offset : Nat) : List InputSlot → Inputs
  | [] => b
  | s :: rest => (b.lay offset s).overlay (offset + 1) rest

theorem overlay_append (b : Inputs) (offset : Nat) (xs ys : List InputSlot) :
    b.overlay offset (xs ++ ys) = (b.overlay offset xs).overlay (offset + xs.length) ys := by
  induction xs generalizing b offset with
  | nil => rfl
  | cons s rest ih =>
    simp only [List.cons_append, overlay, List.length_cons]
    rw [ih, Nat.add_assoc, Nat.add_comm 1]

theorem overlay_replicate_unbound (b : Inputs) (offset count : Nat) :
    b.overlay offset (List.replicate count .unbound) = b := by
  induction count generalizing offset with
  | zero => rfl
  | succ count ih => exact ih (offset + 1)

theorem slots_lay (b : Inputs) (i : Nat) (s : InputSlot) :
    (b.lay i s).slots = b.slots.modify i s.over := by
  cases s with
  | unbound => simp [lay]
  | bound kind value =>
    apply List.ext_getElem?
    intro j
    simp only [lay, put, List.getElem?_set, List.getElem?_modify, InputSlot.over]
    by_cases here : i = j
    · subst here
      by_cases inside : i < b.slots.length <;> simp [inside]
    · simp [here]

/-- An overlay acts on each position by itself. -/
theorem getElem?_overlay (b : Inputs) (offset : Nat) (xs : List InputSlot) (j : Nat) :
    (b.overlay offset xs).slots[j]? =
      b.slots[j]?.map fun old =>
        if offset ≤ j then (xs[j - offset]?.getD .unbound).over old else old := by
  induction xs generalizing b offset with
  | nil => simp [overlay]
  | cons x rest ih =>
    rw [overlay, ih, slots_lay, List.getElem?_modify, Option.map_eq_map, Option.map_map]
    congr 1
    funext old
    rcases Nat.lt_trichotomy j offset with before | here | after
    · simp [Nat.not_le.2 before, show ¬ offset + 1 ≤ j by omega, show offset ≠ j by omega]
    · subst here
      simp [show ¬ j + 1 ≤ j by omega]
    · have next : j - offset = (j - (offset + 1)) + 1 := by omega
      simp [show offset ≤ j by omega, show offset + 1 ≤ j by omega, show offset ≠ j by omega, next]

@[simp] theorem length_overlay (b : Inputs) (offset : Nat) (xs : List InputSlot) :
    (b.overlay offset xs).length = b.length := by
  induction xs generalizing b offset with
  | nil => rfl
  | cons s rest ih => cases s <;> simp [overlay, ih, lay]

theorem slot?_overlay_of_outside (b : Inputs) {offset i : Nat} {xs : List InputSlot}
    (outside : i < offset ∨ offset + xs.length ≤ i) : (b.overlay offset xs).slot? i = b.slot? i := by
  rw [slot?, slot?, getElem?_overlay]
  rcases outside with before | after
  · simp [Nat.not_le.2 before]
  · have beyond : xs[i - offset]? = none := List.getElem?_eq_none (by omega)
    simp [beyond]

theorem slot?_overlay_add (b : Inputs) (offset k : Nat) (xs : List InputSlot) :
    (b.overlay offset xs).slot? (offset + k) = (b.slot? (offset + k)).map (xs[k]?.getD .unbound).over := by
  rw [slot?, slot?, getElem?_overlay]
  simp

/-- An overlay on an overlay at the same place is one overlay. -/
theorem overlay_overlay_of_over (b : Inputs) (offset : Nat) {xs ys zs : List InputSlot}
    (same : ∀ k : Nat, InputSlot.over (ys[k]?.getD .unbound) (xs[k]?.getD .unbound) = zs[k]?.getD .unbound) :
    (b.overlay offset xs).overlay offset ys = b.overlay offset zs := by
  apply Inputs.ext
  apply List.ext_getElem?
  intro j
  rw [getElem?_overlay, getElem?_overlay, getElem?_overlay, Option.map_map]
  congr 1
  funext old
  by_cases reached : offset ≤ j
  · simp [reached, ← same, InputSlot.over_assoc]
  · simp [reached]

theorem overlay_overlay (b : Inputs) (offset : Nat) (xs : List InputSlot) :
    (b.overlay offset xs).overlay offset xs = b.overlay offset xs :=
  b.overlay_overlay_of_over offset fun _ => InputSlot.over_self _

theorem overlay_eq_zipWith {old xs : List InputSlot} (same : xs.length = old.length) :
    overlay ⟨old⟩ 0 xs = ⟨List.zipWith InputSlot.over xs old⟩ := by
  apply Inputs.ext
  apply List.ext_getElem?
  intro j
  rw [getElem?_overlay, List.getElem?_zipWith]
  by_cases inside : j < old.length
  · have covered : j < xs.length := by omega
    simp [inside, covered]
  · have beyond : ¬ j < xs.length := by omega
    simp [inside, beyond]

/-- Laid over unbound slots, an overlay is all there is. -/
theorem overlay_fresh (xs : List InputSlot) : (unbound xs.length).overlay 0 xs = ⟨xs⟩ := by
  rw [unbound, overlay_eq_zipWith (by simp)]
  apply Inputs.ext
  apply List.ext_getElem (by simp)
  intro i _ _
  simp

end Inputs

end PreparedSql
