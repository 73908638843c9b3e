/-!
# Repeats in a list

A list is searched for the first element that is not distinct from all before it. Main statements: there is
none exactly when the elements are pairwise distinct (`firstRepeat_eq_none_iff`), and where elements are
distinct that share neither of two keys, the first that is found is the first whose keys are not both new
(`firstRepeat_keys_iff`).
-/

namespace PreparedSql

variable {α : Type} (distinct : α → α → Prop) [DecidableRel distinct]

/-- The first element that clashes with one before it, where `before` precedes the list. -/
def firstRepeat (before : List α) : List α → Option α
  | [] => none
  | a :: rest =>
    if ∀ b ∈ before, distinct b a then firstRepeat (a :: before) rest else some a

theorem firstRepeat_eq_none_iff {before list : List α} :
    firstRepeat distinct before list = none ↔
      list.Pairwise distinct ∧ ∀ b ∈ before, ∀ a ∈ list, distinct b a := by
  induction list generalizing before with
  | nil => simp [firstRepeat]
  | cons a rest ih =>
    simp only [firstRepeat, List.pairwise_cons, List.mem_cons, forall_eq_or_imp]
    split
    · rename_i h
      simp only [ih, List.mem_cons, forall_eq_or_imp]
      constructor
      · rintro ⟨tail, head, others⟩
        exact ⟨⟨head, tail⟩, fun b hb => ⟨h b hb, others b hb⟩⟩
      · rintro ⟨⟨head, tail⟩, others⟩
        exact ⟨tail, head, fun b hb => (others b hb).2⟩
    · rename_i h
      simp only [reduceCtorEq, false_iff]
      exact fun all => h fun b hb => (all.2 b hb).1

/-- What is found clashes with something before it, and nothing before it does. -/
theorem firstRepeat_eq_some_iff {before list : List α} {a : α} :
    firstRepeat distinct before list = some a ↔
      ∃ front back, list = front ++ a :: back ∧ firstRepeat distinct before front = none ∧
        ∃ b, (b ∈ before ∨ b ∈ front) ∧ ¬ distinct b a := by
  induction list generalizing before with
  | nil => simp [firstRepeat]
  | cons x rest ih =>
    by_cases apart : ∀ b ∈ before, distinct b x
    · rw [firstRepeat, if_pos apart, ih]
      constructor
      · rintro ⟨front, back, rfl, none, b, member, clash⟩
        exact ⟨x :: front, back, rfl, by rw [firstRepeat, if_pos apart, none], b, by grind, clash⟩
      · rintro ⟨front, back, same, none, b, member, clash⟩
        cases front with
        | nil =>
          cases same
          exact absurd (apart b (by simpa using member)) clash
        | cons y front =>
          cases same
          rw [firstRepeat, if_pos apart] at none
          exact ⟨front, back, rfl, none, b, by grind, clash⟩
    · rw [firstRepeat, if_neg apart]
      constructor
      · rintro ⟨⟩
        obtain ⟨b, clash⟩ := Classical.not_forall.1 apart
        obtain ⟨member, clash⟩ := Classical.not_imp.1 clash
        exact ⟨[], rest, rfl, rfl, b, .inl member, clash⟩
      · rintro ⟨front, back, same, none, _⟩
        cases front with
        | nil =>
          cases same
          rfl
        | cons y front =>
          cases same
          rw [firstRepeat, if_neg apart] at none
          cases none

theorem pairwise_of_firstRepeat {list : List α} (h : firstRepeat distinct [] list = none) :
    list.Pairwise distinct :=
  ((firstRepeat_eq_none_iff distinct).1 h).1

section Keys

variable {β γ : Type} {f : α → β} {g : α → γ} {list : List α}

def FirstClashOn (f : α → β) (g : α → γ) (list : List α) (a : α) : Prop :=
  ∃ before after, list = before ++ a :: after ∧ ((before.map f).Nodup ∧ (before.map g).Nodup) ∧
    (f a ∈ before.map f ∨ g a ∈ before.map g)

theorem pairwise_keys_iff :
    list.Pairwise (fun a b => f a ≠ f b ∧ g a ≠ g b) ↔ (list.map f).Nodup ∧ (list.map g).Nodup := by
  simp only [List.Nodup, List.pairwise_map, ← List.pairwise_and_iff]

variable {distinct} in
theorem firstRepeat_keys_iff (keys : distinct = fun a b => f a ≠ f b ∧ g a ≠ g b) {a : α} :
    firstRepeat distinct [] list = some a ↔ FirstClashOn f g list a := by
  subst keys
  have clash (before : List α) : (∃ b, (b ∈ [] ∨ b ∈ before) ∧ ¬ (f b ≠ f a ∧ g b ≠ g a)) ↔
      f a ∈ before.map f ∨ g a ∈ before.map g := by
    simp only [List.not_mem_nil, false_or, List.mem_map, ← exists_or, ← and_or_left,
      Classical.not_and_iff_not_or_not, Classical.not_not, ne_eq]
  have alone (before : List α) : firstRepeat (fun a b => f a ≠ f b ∧ g a ≠ g b) [] before = none ↔
      (before.map f).Nodup ∧ (before.map g).Nodup := by
    rw [firstRepeat_eq_none_iff, pairwise_keys_iff]
    simp
  simp only [firstRepeat_eq_some_iff, clash, alone, FirstClashOn]

end Keys

end PreparedSql
