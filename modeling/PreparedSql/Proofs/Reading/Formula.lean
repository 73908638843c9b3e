import PreparedSql.Proofs.Reading.Tokens

/-!
# Formulas

What a condition says: predicates, which are not looked into, joined by AND and OR, with the
parentheses that are written. Main statement: formulas that differ in the grouping of equal
connectives have the same truth value for all values of their predicates (`Formula.Regroups.eval`).
-/

namespace PreparedSql.Reading

/-- The truth values of a condition: NULL is unknown. -/
inductive Truth where
  | isFalse
  | unknown
  | isTrue
  deriving DecidableEq

namespace Truth

def and : Truth → Truth → Truth
  | isFalse, _ | _, isFalse => isFalse
  | isTrue, y => y
  | unknown, _ => unknown

def or : Truth → Truth → Truth
  | isTrue, _ | _, isTrue => isTrue
  | isFalse, y => y
  | unknown, _ => unknown

theorem and_assoc (x y z : Truth) : (x.and y).and z = x.and (y.and z) := by
  cases x <;> cases y <;> cases z <;> rfl

theorem or_assoc (x y z : Truth) : (x.or y).or z = x.or (y.or z) := by
  cases x <;> cases y <;> cases z <;> rfl

end Truth

inductive Formula where
  | predicate (ts : List Token)
  | and (left right : Formula)
  | or (left right : Formula)
  | group (inside : Formula)
  deriving DecidableEq

namespace Formula

def join : Connective → Formula → Formula → Formula
  | .and => and
  | .or => or

def isOr : Formula → Bool
  | or .. => true
  | predicate _ | and .. | group _ => false

def size : Formula → Nat
  | predicate _ => 1
  | and left right | or left right => left.size + right.size
  | group inside => inside.size

/-- The truth value, when the predicates have the values `v` from left to right, the first of them
`v n`. -/
def evalFrom (v : Nat → Truth) (n : Nat) : Formula → Truth
  | predicate _ => v n
  | and left right => (left.evalFrom v n).and (right.evalFrom v (n + left.size))
  | or left right => (left.evalFrom v n).or (right.evalFrom v (n + left.size))
  | group inside => inside.evalFrom v n

def eval (v : Nat → Truth) (f : Formula) : Truth :=
  f.evalFrom v 0

def plain : Formula → Formula
  | predicate ts => predicate ts
  | and left right => and left.plain right.plain
  | or left right => or left.plain right.plain
  | group inside => inside.plain

def grouped (parentheses : Bool) (f : Formula) : Formula :=
  if parentheses then group f else f

def enclosed (f : Formula) : Formula :=
  f.grouped f.isOr

/-- The formula with parentheses around the disjunctions that are operands of AND, and nowhere else.
-/
def enclosing : Formula → Formula
  | predicate ts => predicate ts
  | and left right => and left.enclosing.enclosed right.enclosing.enclosed
  | or left right => or left.enclosing right.enclosing
  | group inside => inside.enclosing

/-- The formulas differ in how equal connectives are grouped: AND directly under AND, OR directly
under OR. -/
inductive Regroups : Formula → Formula → Prop where
  | refl (f : Formula) : Regroups f f
  | symm {f g : Formula} : Regroups f g → Regroups g f
  | trans {f g h : Formula} : Regroups f g → Regroups g h → Regroups f h
  | and {f f' g g' : Formula} : Regroups f f' → Regroups g g' → Regroups (and f g) (and f' g')
  | or {f f' g g' : Formula} : Regroups f f' → Regroups g g' → Regroups (or f g) (or f' g')
  | group {f f' : Formula} : Regroups f f' → Regroups (group f) (group f')
  | and_assoc (f g h : Formula) : Regroups (.and (.and f g) h) (.and f (.and g h))
  | or_assoc (f g h : Formula) : Regroups (.or (.or f g) h) (.or f (.or g h))

namespace Regroups

variable {f g : Formula}

theorem size (same : Regroups f g) : f.size = g.size := by
  induction same with
  | refl f => rfl
  | symm _ ih => exact ih.symm
  | trans _ _ ihLeft ihRight => exact ihLeft.trans ihRight
  | and _ _ ihLeft ihRight | or _ _ ihLeft ihRight => simp only [Formula.size, ihLeft, ihRight]
  | group _ ih => exact ih
  | and_assoc f g h | or_assoc f g h => exact Nat.add_assoc ..

theorem evalFrom (same : Regroups f g) (v : Nat → Truth) (n : Nat) : f.evalFrom v n = g.evalFrom v n := by
  induction same generalizing n with
  | refl f => rfl
  | symm _ ih => exact (ih n).symm
  | trans _ _ ihLeft ihRight => exact (ihLeft n).trans (ihRight n)
  | and left _ ihLeft ihRight | or left _ ihLeft ihRight =>
    simp only [Formula.evalFrom, ihLeft, ihRight, left.size]
  | group _ ih => exact ih n
  | and_assoc f g h => simp only [Formula.evalFrom, Formula.size, Truth.and_assoc, Nat.add_assoc]
  | or_assoc f g h => simp only [Formula.evalFrom, Formula.size, Truth.or_assoc, Nat.add_assoc]

/-- Grouping has no influence on the truth value. -/
theorem eval (same : Regroups f g) (v : Nat → Truth) : f.eval v = g.eval v :=
  same.evalFrom v 0

theorem join {op : Connective} {f' g' : Formula} (left : Regroups f f') (right : Regroups g g') :
    Regroups (Formula.join op f g) (Formula.join op f' g') := by
  cases op with
  | and => exact .and left right
  | or => exact .or left right

theorem join_assoc (op : Connective) (f g h : Formula) :
    Regroups (Formula.join op (Formula.join op f g) h) (Formula.join op f (Formula.join op g h)) := by
  cases op with
  | and => exact .and_assoc f g h
  | or => exact .or_assoc f g h

theorem isOr (same : Regroups f g) : f.isOr = g.isOr := by
  induction same with
  | refl f => rfl
  | symm _ ih => exact ih.symm
  | trans _ _ ihLeft ihRight => exact ihLeft.trans ihRight
  | and | or | group | and_assoc | or_assoc => rfl

theorem plain (same : Regroups f g) : Regroups f.plain g.plain := by
  induction same with
  | refl f => exact .refl _
  | symm _ ih => exact .symm ih
  | trans _ _ ihLeft ihRight => exact .trans ihLeft ihRight
  | and _ _ ihLeft ihRight => exact .and ihLeft ihRight
  | or _ _ ihLeft ihRight => exact .or ihLeft ihRight
  | group _ ih => exact ih
  | and_assoc f g h => exact .and_assoc ..
  | or_assoc f g h => exact .or_assoc ..

theorem grouped (same : Regroups f g) (parentheses : Bool) :
    Regroups (f.grouped parentheses) (g.grouped parentheses) := by
  cases parentheses with
  | false => exact same
  | true => exact .group same

end Regroups

theorem size_plain (f : Formula) : f.plain.size = f.size := by
  induction f with
  | predicate ts => rfl
  | and left right ihLeft ihRight | or left right ihLeft ihRight =>
    simp only [plain, size, ihLeft, ihRight]
  | group inside ih => exact ih

theorem evalFrom_plain (f : Formula) (v : Nat → Truth) (n : Nat) :
    f.plain.evalFrom v n = f.evalFrom v n := by
  induction f generalizing n with
  | predicate ts => rfl
  | and left right ihLeft ihRight | or left right ihLeft ihRight =>
    simp only [plain, evalFrom, ihLeft, ihRight, size_plain]
  | group inside ih => exact ih n

theorem eval_plain (f : Formula) (v : Nat → Truth) : f.plain.eval v = f.eval v :=
  f.evalFrom_plain v 0

@[simp] theorem plain_grouped (parentheses : Bool) (f : Formula) :
    (f.grouped parentheses).plain = f.plain := by
  cases parentheses <;> rfl

@[simp] theorem plain_join (op : Connective) (f g : Formula) :
    (join op f g).plain = join op f.plain g.plain := by
  cases op <;> rfl

@[simp] theorem isOr_join (op : Connective) (f g : Formula) : (join op f g).isOr = decide (op = .or) := by
  cases op <;> rfl

end Formula

end PreparedSql.Reading
