import PreparedSql.Proofs.Parameters.Fragments

/-!
# Conditions in the caller's words

What a query takes over from its caller: texts, and the slots that they claim. Main statements:
apart from the wordings, a query's claims and its fragments list the same parameters in the same
order (`Query.parameters_fragments`), and the wordings account for every other slot and every other
placeholder sign (`Query.inputCount_eq`, `Query.placeholderCount_eq`).
-/

namespace PreparedSql

open Text

variable {M : Model}

/-- A condition in the caller's own words. -/
structure Wording where
  sql : String
  slots : Nat
  disjunction : Bool
  deriving DecidableEq

namespace Wording

def signs (w : Wording) : Nat :=
  placeholderCount w.sql

/-- The words claim no slot and hold no placeholder sign. -/
def IsPlain (w : Wording) : Prop :=
  w.slots = 0 ∧ w.signs = 0

instance (w : Wording) : Decidable w.IsPlain :=
  inferInstanceAs (Decidable (_ ∧ _))

def total (count : Wording → Nat) : List Wording → Nat
  | [] => 0
  | w :: rest => count w + total count rest

@[simp] theorem total_nil (count : Wording → Nat) : total count [] = 0 := rfl

@[simp] theorem total_singleton (count : Wording → Nat) (w : Wording) : total count [w] = count w := rfl

@[simp] theorem total_append (count : Wording → Nat) (vs ws : List Wording) :
    total count (vs ++ ws) = total count vs + total count ws := by
  induction vs with
  | nil => simp
  | cons v rest ih => simp [total, ih, Nat.add_assoc]

theorem total_eq_zero_iff {count : Wording → Nat} {ws : List Wording} :
    total count ws = 0 ↔ ∀ w ∈ ws, count w = 0 := by
  induction ws with
  | nil => simp
  | cons w rest ih => simp [total, ih]

end Wording

def Condition.wordings : Condition M → List Wording
  | compare .. => []
  | logical _ left right => left.wordings ++ right.wordings
  | written sql slots disjunction => [⟨sql, slots, disjunction⟩]

def Query.wordings : Query M → List Wording
  | select .. | insert .. | update _ | delete _ => []
  | filtered q c => q.wordings ++ c.wordings
  | assigned q _ | limited q _ => q.wordings

def Claim.parameters (claims : List (Claim M)) : List (Parameter M) :=
  claims.filterMap id

namespace Fragment

def parameters (xs : List (Fragment M)) : List (Parameter M) :=
  xs.filterMap parameter?

def straySigns : List (Fragment M) → Nat
  | [] => 0
  | x :: rest => x.strays + straySigns rest

@[simp] theorem parameters_nil : parameters ([] : List (Fragment M)) = [] := rfl

@[simp] theorem parameters_append (xs ys : List (Fragment M)) :
    parameters (xs ++ ys) = parameters xs ++ parameters ys := by
  simp [parameters]

@[simp] theorem parameters_text (sql : String) (rest : List (Fragment M)) :
    parameters (.text sql :: rest) = parameters rest := rfl

@[simp] theorem parameters_column (f : Field M) (rest : List (Fragment M)) :
    parameters (.column f :: rest) = parameters rest := rfl

@[simp] theorem parameters_parameter (p : Parameter M) (rest : List (Fragment M)) :
    parameters (.parameter p :: rest) = p :: parameters rest := rfl

@[simp] theorem straySigns_nil : straySigns ([] : List (Fragment M)) = 0 := rfl

@[simp] theorem straySigns_append (xs ys : List (Fragment M)) :
    straySigns (xs ++ ys) = straySigns xs + straySigns ys := by
  induction xs with
  | nil => simp
  | cons x rest ih => rw [List.cons_append, straySigns, ih, straySigns, Nat.add_assoc]

@[simp] theorem straySigns_text (sql : String) (rest : List (Fragment M)) :
    straySigns (.text sql :: rest) = placeholderCount sql + straySigns rest := by
  simp [straySigns, strays]

@[simp] theorem straySigns_column (f : Field M) (rest : List (Fragment M)) :
    straySigns (.column f :: rest) = straySigns rest := by
  simp [straySigns, strays]

@[simp] theorem straySigns_parameter (p : Parameter M) (rest : List (Fragment M)) :
    straySigns (.parameter p :: rest) = straySigns rest := by
  simp [straySigns, strays]

@[simp] theorem parameters_listed (xs : List (Fragment M)) : parameters (listed xs) = parameters xs :=
  filterMap_listed rfl xs

@[simp] theorem straySigns_listed (xs : List (Fragment M)) : straySigns (listed xs) = straySigns xs := by
  induction xs with
  | nil => rfl
  | cons x rest ih =>
    cases rest with
    | nil => rfl
    | cons y rest =>
      have comma : placeholderCount ", " = 0 := by decide
      simp only [listed, List.intersperse_cons_cons] at ih ⊢
      simp only [straySigns, strays, comma] at ih ⊢
      omega

/-- A text has a placeholder sign for each parameter, and the stray ones. -/
theorem placeholderCount_of_renderAll {t : Table M} {xs : List (Fragment M)} {sql : String}
    (rendered : renderAll t xs = .ok sql) :
    placeholderCount sql = (parameters xs).length + straySigns xs := by
  induction xs generalizing sql with
  | nil =>
    cases rendered
    rfl
  | cons x rest ih =>
    obtain ⟨head, tail, first, others, rfl⟩ := followed_eq_ok rendered
    rw [placeholderCount_append, ih others]
    cases x with
    | text words =>
      cases first
      simp only [parameters_text, straySigns_text]
      omega
    | column f =>
      have none := Field.placeholderCount_of_render first
      simp [none]
    | parameter p =>
      cases first
      have sign : placeholderCount "?" = 1 := by decide
      simp only [parameters_parameter, straySigns_parameter, List.length_cons, sign]
      omega

end Fragment

namespace Claim

@[simp] theorem parameters_nil : parameters ([] : List (Claim M)) = [] := rfl

@[simp] theorem parameters_append (xs ys : List (Claim M)) :
    parameters (xs ++ ys) = parameters xs ++ parameters ys := by
  simp [parameters]

@[simp] theorem parameters_some (p : Parameter M) (rest : List (Claim M)) :
    parameters (some p :: rest) = p :: parameters rest := rfl

@[simp] theorem parameters_replicate (count : Nat) :
    parameters (List.replicate count (none : Claim M)) = [] := by
  simp [parameters]

end Claim

theorem Operand.parameters_fragments {τ : FieldType} (o : Operand M τ) :
    Fragment.parameters o.fragments = Claim.parameters o.claims := by
  cases o <;> rfl

theorem Operand.straySigns_fragments {τ : FieldType} (o : Operand M τ) :
    Fragment.straySigns o.fragments = 0 := by
  cases o <;> rfl

namespace Condition

theorem parameters_encloseFragments (op : Connective) (operand : Condition M) (xs : List (Fragment M)) :
    Fragment.parameters (encloseFragments op operand xs) = Fragment.parameters xs := by
  unfold encloseFragments
  split <;> simp

theorem straySigns_encloseFragments (op : Connective) (operand : Condition M) (xs : List (Fragment M)) :
    Fragment.straySigns (encloseFragments op operand xs) = Fragment.straySigns xs := by
  have opening : placeholderCount "(" = 0 := by decide
  have closing : placeholderCount ")" = 0 := by decide
  unfold encloseFragments
  split <;> simp [opening, closing]

theorem parameters_fragments (c : Condition M) :
    Fragment.parameters c.fragments = Claim.parameters c.claims := by
  induction c with
  | compare op f operand => simpa [fragments, claims] using operand.parameters_fragments
  | logical op left right ihLeft ihRight =>
    simp [fragments, claims, parameters_encloseFragments, ihLeft, ihRight]
  | written sql slots disjunction => simp [fragments, claims]

theorem straySigns_fragments (c : Condition M) :
    Fragment.straySigns c.fragments = Wording.total Wording.signs c.wordings := by
  induction c with
  | compare op f operand =>
    have symbol : placeholderCount op.symbol = 0 := by cases op <;> decide
    simp [fragments, wordings, symbol, operand.straySigns_fragments]
  | logical op left right ihLeft ihRight =>
    have keyword : placeholderCount op.keyword = 0 := by cases op <;> decide
    simp [fragments, wordings, straySigns_encloseFragments, keyword, ihLeft, ihRight]
  | written sql slots disjunction => simp [fragments, wordings, Wording.signs]

/-- A slot without a parameter is claimed by the caller's words. -/
theorem slotCount_eq (c : Condition M) :
    c.slotCount = (Claim.parameters c.claims).length + Wording.total Wording.slots c.wordings := by
  induction c with
  | compare op f operand => cases operand <;> rfl
  | logical op left right ihLeft ihRight =>
    simp only [slotCount, claims, wordings, ihLeft, ihRight, Claim.parameters_append,
      Wording.total_append, List.length_append]
    omega
  | written sql slots disjunction => simp [slotCount, claims, wordings]

end Condition

mutual

theorem Assignment.parameters_fragments : (a : Assignment M) →
    Fragment.parameters a.fragments = Claim.parameters a.claims
  | .set f operand => by
    simpa [Assignment.fragments, Assignment.claims] using operand.parameters_fragments
  | .group members => members.parameters_fragments

theorem Assignments.parameters_fragments : (as : Assignments M) →
    Fragment.parameters as.fragments = Claim.parameters as.claims
  | .last a => a.parameters_fragments
  | .cons a rest => by
    simp [Assignments.fragments, Assignments.claims, a.parameters_fragments, rest.parameters_fragments]

end

mutual

theorem Assignment.straySigns_fragments : (a : Assignment M) → Fragment.straySigns a.fragments = 0
  | .set f operand => by
    have sign : placeholderCount "=" = 0 := by decide
    simp [Assignment.fragments, sign, operand.straySigns_fragments]
  | .group members => members.straySigns_fragments

theorem Assignments.straySigns_fragments : (as : Assignments M) → Fragment.straySigns as.fragments = 0
  | .last a => a.straySigns_fragments
  | .cons a rest => by
    have comma : placeholderCount ", " = 0 := by decide
    simp [Assignments.fragments, comma, a.straySigns_fragments, rest.straySigns_fragments]

end

mutual

theorem Assignment.slotCount_eq : (a : Assignment M) → a.slotCount = (Claim.parameters a.claims).length
  | .set f operand => by cases operand <;> rfl
  | .group members => members.slotCount_eq

theorem Assignments.slotCount_eq :
    (as : Assignments M) → as.slotCount = (Claim.parameters as.claims).length
  | .last a => a.slotCount_eq
  | .cons a rest => by
    simp [Assignments.slotCount, Assignments.claims, a.slotCount_eq, rest.slotCount_eq]

end

namespace Query

theorem parameters_names (columns : List (Column M)) :
    Fragment.parameters (columns.map fun c => (.column c.field : Fragment M)) = [] := by
  induction columns with
  | nil => rfl
  | cons c rest ih => simpa using ih

theorem straySigns_names (columns : List (Column M)) :
    Fragment.straySigns (columns.map fun c => (.column c.field : Fragment M)) = 0 := by
  induction columns with
  | nil => rfl
  | cons c rest ih => simpa using ih

theorem parameters_inserted (record : Option (Record M)) (columns : List (Column M)) :
    Fragment.parameters (columns.map fun c => .parameter (.field c record)) =
      Claim.parameters (Column.claims record columns) := by
  induction columns with
  | nil => rfl
  | cons c rest ih => simpa [Column.claims] using ih

theorem straySigns_inserted (record : Option (Record M)) (columns : List (Column M)) :
    Fragment.straySigns (columns.map fun c => (.parameter (.field c record) : Fragment M)) = 0 := by
  induction columns with
  | nil => rfl
  | cons c rest ih => simpa using ih

/-- The claims and the text of a query go through its parameters in the same order. -/
theorem parameters_fragments (q : Query M) :
    Fragment.parameters q.fragments = Claim.parameters q.claims := by
  induction q with
  | select t s => simp [fragments, claims, parameters_names]
  | insert t s record => simp [fragments, claims, parameters_names, parameters_inserted]
  | update t => rfl
  | delete t => rfl
  | filtered q c ih => simp [fragments, claims, ih, c.parameters_fragments]
  | assigned q a ih => simp [fragments, claims, ih, a.parameters_fragments]
  | limited q l ih => simp [fragments, claims, ih]

theorem straySigns_fragments (q : Query M) :
    Fragment.straySigns q.fragments = Wording.total Wording.signs q.wordings := by
  have keywords : placeholderCount "SELECT " = 0 ∧ placeholderCount " FROM " = 0 ∧
      placeholderCount "INSERT INTO " = 0 ∧ placeholderCount " (" = 0 ∧
        placeholderCount ") VALUES (" = 0 ∧
      placeholderCount ")" = 0 ∧ placeholderCount "UPDATE " = 0 ∧ placeholderCount "DELETE FROM " = 0 ∧
      placeholderCount " WHERE " = 0 ∧ placeholderCount " SET " = 0 ∧
        placeholderCount " LIMIT " = 0 := by decide
  induction q with
  | select t s => simp [fragments, wordings, straySigns_names, keywords, Table.quoted]
  | insert t s record =>
    simp [fragments, wordings, straySigns_names, straySigns_inserted, keywords, Table.quoted]
  | update t => simp [fragments, wordings, keywords, Table.quoted]
  | delete t => simp [fragments, wordings, keywords, Table.quoted]
  | filtered q c ih => simp [fragments, wordings, keywords, ih, c.straySigns_fragments]
  | assigned q a ih => simp [fragments, wordings, keywords, ih, a.straySigns_fragments]
  | limited q l ih => simp [fragments, wordings, keywords, ih]

/-- A query claims a slot for each parameter and those that the caller's words claim. -/
theorem inputCount_eq (q : Query M) :
    q.inputCount = (Claim.parameters q.claims).length + Wording.total Wording.slots q.wordings := by
  induction q with
  | select t s => rfl
  | insert t s record => simp [inputCount, claims, wordings, Column.claims, Claim.parameters]
  | update t => rfl
  | delete t => rfl
  | filtered q c ih =>
    simp only [inputCount, claims, wordings, ih, c.slotCount_eq, Claim.parameters_append,
      Wording.total_append, List.length_append]
    omega
  | assigned q a ih =>
    simp only [inputCount, claims, wordings, ih, a.slotCount_eq, Claim.parameters_append,
      List.length_append]
    omega
  | limited q l ih =>
    simp only [inputCount, claims, wordings, ih, Claim.parameters_append, Claim.parameters_some,
      Claim.parameters_nil, List.length_append, List.length_singleton]
    omega

/-- The text of a query has a placeholder for each parameter and the signs in the caller's words. -/
theorem placeholderCount_eq {q : Query M} {sql : String} (rendered : q.render = .ok sql) :
    placeholderCount sql =
      (Claim.parameters q.claims).length + Wording.total Wording.signs q.wordings := by
  rw [render_eq] at rendered
  rw [Fragment.placeholderCount_of_renderAll rendered, parameters_fragments, straySigns_fragments]

end Query

end PreparedSql
