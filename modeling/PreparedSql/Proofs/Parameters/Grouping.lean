import PreparedSql.Proofs.Parameters.Fragments

/-!
# Grouping

Assignments come in groups of groups, and conditions in trees. Main statement: a group does what the
assignments in it do one after the other, however they are grouped, and a condition does not change when
equal connectives are grouped in another way (`grouping_irrelevant`).
-/

namespace PreparedSql

variable {M : Model}

namespace Assignment

def renderEach (t : Table M) (as : List (Assignment M)) : Except Error String :=
  (as.mapM (render t)).map ", ".intercalate

def slotTotal : List (Assignment M) → Nat
  | [] => 0
  | a :: rest => a.slotCount + slotTotal rest

def inTurn (write : Assignment M → Nat → Inputs → Inputs) : List (Assignment M) → Nat → Inputs → Inputs
  | [], _, b => b
  | a :: rest, offset, b => inTurn write rest (offset + a.slotCount) (write a offset b)

variable {a : Assignment M} {as bs : List (Assignment M)}

theorem renderEach_singleton (t : Table M) (a : Assignment M) : renderEach t [a] = a.render t := by
  cases rendered : a.render t <;>
    simp [renderEach, rendered, Except.map, Bind.bind, Except.bind, pure, Except.pure]

theorem renderEach_cons (t : Table M) (a b : Assignment M) (rest : List (Assignment M)) :
    renderEach t (a :: b :: rest) =
      followed (a.render t) (followed (.ok ", ") (renderEach t (b :: rest))) := by
  simp only [renderEach, List.mapM_cons]
  cases a.render t <;> cases b.render t <;> cases rest.mapM (render t) <;>
    simp [Except.map, Bind.bind, Except.bind, pure, Except.pure, followed, String.append_assoc]

theorem renderEach_append (t : Table M) (begun : as ≠ []) (more : bs ≠ []) :
    renderEach t (as ++ bs) = followed (renderEach t as) (followed (.ok ", ") (renderEach t bs)) := by
  induction as with
  | nil => exact absurd rfl begun
  | cons a rest ih =>
    cases rest with
    | nil =>
      obtain ⟨b, bs, rfl⟩ := List.exists_cons_of_ne_nil more
      rw [renderEach_singleton, List.singleton_append, renderEach_cons]
    | cons b rest =>
      have later := ih (List.cons_ne_nil b rest)
      rw [List.cons_append] at later ⊢
      rw [List.cons_append, renderEach_cons, later, renderEach_cons, followed_assoc, followed_assoc]

theorem slotTotal_append (as bs : List (Assignment M)) :
    slotTotal (as ++ bs) = slotTotal as + slotTotal bs := by
  induction as with
  | nil => exact (Nat.zero_add _).symm
  | cons a rest ih => rw [List.cons_append, slotTotal, slotTotal, ih, Nat.add_assoc]

theorem inTurn_append (write : Assignment M → Nat → Inputs → Inputs) (offset : Nat) (b : Inputs) :
    inTurn write (as ++ bs) offset b =
      inTurn write bs (offset + slotTotal as) (inTurn write as offset b) := by
  induction as generalizing offset b with
  | nil => rfl
  | cons a rest ih => simp [inTurn, ih, slotTotal, Nat.add_assoc]

/-- The assignment does what the listed ones do one after the other. -/
structure Spreads (a : Assignment M) (as : List (Assignment M)) : Prop where
  render : ∀ t, a.render t = renderEach t as
  slotCount : a.slotCount = slotTotal as
  bind : ∀ ρ offset b, a.bind ρ offset b = inTurn (Assignment.bind ρ) as offset b
  rebind : ∀ ρ offset b, a.rebind ρ offset b = inTurn (Assignment.rebind ρ) as offset b

namespace Spreads

theorem single (a : Assignment M) : Spreads a [a] where
  render t := (renderEach_singleton t a).symm
  slotCount := by simp [slotTotal]
  bind _ _ _ := rfl
  rebind _ _ _ := rfl

theorem last (only : Spreads a as) : Spreads (.group (.last a)) as where
  render := only.render
  slotCount := only.slotCount
  bind := only.bind
  rebind := only.rebind

/-- Groups are joined by a comma, and the slots of the second come after those of the first. -/
theorem cons {rest : Assignments M} (first : Spreads a as) (others : Spreads (.group rest) bs)
    (begun : as ≠ []) (more : bs ≠ []) : Spreads (.group (.cons a rest)) (as ++ bs) where
  render t := by
    rw [renderEach_append t begun more, ← first.render, ← others.render, Assignment.render,
      Assignment.render, Assignments.render]
    cases a.render t <;> cases rest.render t <;> simp [String.append_assoc]
  slotCount := by
    rw [slotTotal_append, ← first.slotCount, ← others.slotCount]
    rfl
  bind ρ offset b := by
    rw [inTurn_append, ← first.slotCount, ← first.bind, ← others.bind]
    rfl
  rebind ρ offset b := by
    rw [inTurn_append, ← first.slotCount, ← first.rebind, ← others.rebind]
    rfl

end Spreads

end Assignment

def Assignments.toList : Assignments M → List (Assignment M)
  | .last a => [a]
  | .cons a rest => a :: rest.toList

mutual

def Assignment.leaves : Assignment M → List (Assignment M)
  | .set f operand => [.set f operand]
  | .group members => members.leaves

def Assignments.leaves : Assignments M → List (Assignment M)
  | .last a => a.leaves
  | .cons a rest => a.leaves ++ rest.leaves

end

theorem Assignments.toList_ne_nil (as : Assignments M) : as.toList ≠ [] := by
  cases as <;> simp [toList]

mutual

theorem Assignment.leaves_ne_nil : (a : Assignment M) → a.leaves ≠ []
  | .set _ _ => List.cons_ne_nil _ _
  | .group members => members.leaves_ne_nil

theorem Assignments.leaves_ne_nil : (as : Assignments M) → as.leaves ≠ []
  | .last a => a.leaves_ne_nil
  | .cons a _ => List.append_ne_nil_of_left_ne_nil a.leaves_ne_nil _

end

mutual

theorem Assignment.eq_set_of_mem_leaves :
    (a : Assignment M) → ∀ leaf ∈ a.leaves, ∃ f operand, leaf = .set f operand
  | .set f operand, _, member => ⟨f, operand, List.mem_singleton.1 member⟩
  | .group members, leaf, member => members.eq_set_of_mem_leaves leaf member

theorem Assignments.eq_set_of_mem_leaves :
    (as : Assignments M) → ∀ leaf ∈ as.leaves, ∃ f operand, leaf = .set f operand
  | .last a, leaf, member => a.eq_set_of_mem_leaves leaf member
  | .cons a rest, leaf, member =>
    (List.mem_append.1 member).elim (a.eq_set_of_mem_leaves leaf) (rest.eq_set_of_mem_leaves leaf)

end

theorem Assignments.spreads_toList : (as : Assignments M) → (Assignment.group as).Spreads as.toList
  | .last a => (Assignment.Spreads.single a).last
  | .cons a rest =>
    (Assignment.Spreads.single a).cons rest.spreads_toList (List.cons_ne_nil a []) rest.toList_ne_nil

mutual

/-- An assignment does what its leaves do one after the other, however they are grouped. -/
theorem Assignment.spreads_leaves : (a : Assignment M) → a.Spreads a.leaves
  | .set f operand => .single (.set f operand)
  | .group members => members.spreads_leaves

theorem Assignments.spreads_leaves : (as : Assignments M) → (Assignment.group as).Spreads as.leaves
  | .last a => a.spreads_leaves.last
  | .cons a rest => a.spreads_leaves.cons rest.spreads_leaves a.leaves_ne_nil rest.leaves_ne_nil

end

namespace Condition

/-- The conditions differ in how ANDs directly under AND, and ORs directly under OR, are grouped; anywhere
in the tree and any number of times. -/
inductive Regroups : Condition M → Condition M → Prop where
  | assoc (op : Connective) (x y z : Condition M) :
      Regroups (.logical op (.logical op x y) z) (.logical op x (.logical op y z))
  | refl (c : Condition M) : Regroups c c
  | symm {c d : Condition M} (back : Regroups d c) : Regroups c d
  | trans {c d e : Condition M} (first : Regroups c d) (second : Regroups d e) : Regroups c e
  | logical (op : Connective) {left left' right right' : Condition M} (onLeft : Regroups left left')
      (onRight : Regroups right right') : Regroups (.logical op left right) (.logical op left' right')

/-- No table, no array of slots, no offset and no connective around them tells the conditions apart. -/
structure Alike (c d : Condition M) : Prop where
  isDisjunction : c.isDisjunction = d.isDisjunction
  render : ∀ t, c.render t = d.render t
  slotCount : c.slotCount = d.slotCount
  bind : ∀ ρ offset b, c.bind ρ offset b = d.bind ρ offset b
  rebind : ∀ ρ offset b, c.rebind ρ offset b = d.rebind ρ offset b

/-- The same connective under a connective never stands in parentheses. -/
theorem enclose_same (op : Connective) (x y : Condition M) (sql : String) :
    enclose op (.logical op x y) sql = sql := by
  cases op <;> simp [enclose, isDisjunction]

namespace Alike

variable {c d e left left' right right' : Condition M}

theorem refl (c : Condition M) : Alike c c :=
  ⟨rfl, fun _ => rfl, rfl, fun _ _ _ => rfl, fun _ _ _ => rfl⟩

theorem symm (back : Alike d c) : Alike c d where
  isDisjunction := back.isDisjunction.symm
  render t := (back.render t).symm
  slotCount := back.slotCount.symm
  bind ρ offset b := (back.bind ρ offset b).symm
  rebind ρ offset b := (back.rebind ρ offset b).symm

theorem trans (first : Alike c d) (second : Alike d e) : Alike c e where
  isDisjunction := first.isDisjunction.trans second.isDisjunction
  render t := (first.render t).trans (second.render t)
  slotCount := first.slotCount.trans second.slotCount
  bind ρ offset b := (first.bind ρ offset b).trans (second.bind ρ offset b)
  rebind ρ offset b := (first.rebind ρ offset b).trans (second.rebind ρ offset b)

theorem logical (op : Connective) (onLeft : Alike left left') (onRight : Alike right right') :
    Alike (.logical op left right) (.logical op left' right') where
  isDisjunction := rfl
  render t := by
    simp only [Condition.render, enclose, onLeft.render, onRight.render, onLeft.isDisjunction,
      onRight.isDisjunction]
  slotCount := by rw [Condition.slotCount, Condition.slotCount, onLeft.slotCount, onRight.slotCount]
  bind ρ offset b := by
    rw [Condition.bind, Condition.bind, onLeft.slotCount, onLeft.bind, onRight.bind]
  rebind ρ offset b := by
    rw [Condition.rebind, Condition.rebind, onLeft.slotCount, onLeft.rebind, onRight.rebind]

/-- Equal connectives may be grouped from either side. -/
theorem assoc (op : Connective) (x y z : Condition M) :
    Alike (.logical op (.logical op x y) z) (.logical op x (.logical op y z)) where
  isDisjunction := rfl
  render t := by
    simp only [Condition.render]
    cases x.render t <;> cases y.render t <;> cases z.render t <;>
      simp [enclose_same, String.append_assoc]
  slotCount := Nat.add_assoc ..
  bind ρ offset b := by simp only [Condition.bind, Condition.slotCount, Nat.add_assoc]
  rebind ρ offset b := by simp only [Condition.rebind, Condition.slotCount, Nat.add_assoc]

end Alike

/-- Conditions that differ in grouping only are alike to every table and every array of slots. -/
theorem Regroups.alike {c d : Condition M} (regroups : Regroups c d) : c.Alike d := by
  induction regroups with
  | assoc op x y z => exact .assoc op x y z
  | refl c => exact .refl c
  | symm _ back => exact back.symm
  | trans _ _ first second => exact first.trans second
  | logical op _ _ onLeft onRight => exact .logical op onLeft onRight

end Condition

/-- A group is its members in a row: each is rendered for itself and the texts are joined by commas, each
takes the slots after those of the ones before. Down to the leaves, however deep the groups nest, so is
every assignment. Conditions that group equal connectives in another way have the same text or the same
error, as many slots, and write the same slots at every offset. -/
theorem grouping_irrelevant :
    (∀ members : Assignments M, (Assignment.group members).Spreads members.toList) ∧
      (∀ a : Assignment M, a.Spreads a.leaves ∧ ∀ leaf ∈ a.leaves, ∃ f operand, leaf = .set f operand) ∧
      ∀ c d : Condition M, c.Regroups d → c.Alike d := by
  refine ⟨fun members => members.spreads_toList, fun a => ?_, fun c d regroups => regroups.alike⟩
  exact ⟨a.spreads_leaves, a.eq_set_of_mem_leaves⟩

end PreparedSql
