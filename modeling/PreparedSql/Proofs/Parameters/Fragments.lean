import PreparedSql.Proofs.Parameters.Claims
import PreparedSql.Proofs.Schema.Mapping

/-!
# The origin of a text

A rendered text with the origin of its parts: words of the grammar, names of columns, placeholders
with the parameter that each stands for. Main statement: without the origins it is the rendered
text, failures included (`Query.render_eq`).
-/

namespace PreparedSql

open Text

variable {M : Model}

inductive Fragment (M : Model) where
  | text (sql : String)
  | column (field : Field M)
  | parameter (p : Parameter M)

def followed (a b : Except Error String) : Except Error String :=
  match a with
  | .error e => .error e
  | .ok x =>
    match b with
    | .error e => .error e
    | .ok y => .ok (x ++ y)

@[simp] theorem followed_ok (x y : String) : followed (.ok x) (.ok y) = .ok (x ++ y) := rfl

@[simp] theorem followed_error (e : Error) (b : Except Error String) :
    followed (.error e) b = .error e := rfl

@[simp] theorem ok_followed_error (x : String) (e : Error) : followed (.ok x) (.error e) = .error e := rfl

@[simp] theorem empty_followed (a : Except Error String) : followed (.ok "") a = a := by
  cases a <;> simp [followed]

@[simp] theorem followed_empty (a : Except Error String) : followed a (.ok "") = a := by
  cases a <;> simp [followed]

theorem followed_assoc (a b c : Except Error String) :
    followed (followed a b) c = followed a (followed b c) := by
  cases a <;> cases b <;> cases c <;> simp [String.append_assoc]

theorem followed_eq_ok {a b : Except Error String} {sql : String} (h : followed a b = .ok sql) :
    ∃ x y, a = .ok x ∧ b = .ok y ∧ sql = x ++ y := by
  cases a with
  | error e => cases h
  | ok x =>
    cases b with
    | error e => cases h
    | ok y =>
      cases h
      exact ⟨x, y, rfl, rfl, rfl⟩

namespace Fragment

def render (t : Table M) : Fragment M → Except Error String
  | text sql => .ok sql
  | column f => f.render t
  | parameter _ => .ok "?"

def renderAll (t : Table M) : List (Fragment M) → Except Error String
  | [] => .ok ""
  | x :: rest => followed (x.render t) (renderAll t rest)

@[simp] theorem renderAll_nil (t : Table M) : renderAll t ([] : List (Fragment M)) = .ok "" := rfl

@[simp] theorem renderAll_cons (t : Table M) (x : Fragment M) (rest : List (Fragment M)) :
    renderAll t (x :: rest) = followed (x.render t) (renderAll t rest) := rfl

@[simp] theorem renderAll_append (t : Table M) (xs ys : List (Fragment M)) :
    renderAll t (xs ++ ys) = followed (renderAll t xs) (renderAll t ys) := by
  induction xs with
  | nil => simp
  | cons x rest ih => rw [List.cons_append, renderAll_cons, ih, renderAll_cons, followed_assoc]

def parameter? : Fragment M → Option (Parameter M)
  | parameter p => some p
  | text _ | column _ => none

/-- Placeholder signs that no parameter stands behind. -/
def strays : Fragment M → Nat
  | text sql => placeholderCount sql
  | column _ | parameter _ => 0

def listed (xs : List (Fragment M)) : List (Fragment M) :=
  xs.intersperse (.text ", ")

/-- What ignores the commas sees a listing as the list. -/
theorem filterMap_listed {β : Type} {g : Fragment M → Option β} (silent : g (.text ", ") = none)
    (xs : List (Fragment M)) : (listed xs).filterMap g = xs.filterMap g := by
  induction xs with
  | nil => rfl
  | cons x rest ih =>
    cases rest with
    | nil => rfl
    | cons y rest =>
      simp only [listed, List.intersperse_cons_cons] at ih ⊢
      rw [List.filterMap_cons, List.filterMap_cons_none silent, ih, ← List.filterMap_cons]

theorem renderAll_listed (t : Table M) {α : Type} (f : α → Fragment M) (g : α → String) (items : List α)
    (rendered : ∀ a ∈ items, (f a).render t = .ok (g a)) :
    renderAll t (listed (items.map f)) = .ok (", ".intercalate (items.map g)) := by
  induction items with
  | nil => rfl
  | cons a rest ih =>
    have head := rendered a List.mem_cons_self
    have tail := ih fun b member => rendered b (List.mem_cons_of_mem _ member)
    cases rest with
    | nil => simp [listed, head]
    | cons b rest =>
      simp only [listed, List.map_cons, List.intersperse_cons_cons, renderAll_cons,
        String.intercalate_cons_cons] at tail ⊢
      rw [tail, head]
      simp [render, String.append_assoc]

end Fragment

def Operand.fragments {τ : FieldType} : Operand M τ → List (Fragment M)
  | literal x => [.parameter (.literal τ x)]
  | column f _ => [.column f]
  | var v => [.parameter (.var τ v)]

theorem Operand.render_eq {τ : FieldType} (t : Table M) (o : Operand M τ) :
    o.render t = Fragment.renderAll t o.fragments := by
  cases o <;> simp [render, fragments, Fragment.render]

namespace Condition

def encloseFragments (op : Connective) (operand : Condition M) (xs : List (Fragment M)) :
    List (Fragment M) :=
  if op = .and ∧ operand.isDisjunction then .text "(" :: xs ++ [.text ")"] else xs

def fragments : Condition M → List (Fragment M)
  | compare op f operand => .column f :: .text op.symbol :: operand.fragments
  | logical op left right =>
    encloseFragments op left left.fragments ++
      .text op.keyword :: encloseFragments op right right.fragments
  | written sql _ _ => [.text sql]

theorem renderAll_encloseFragments (t : Table M) (op : Connective) (operand : Condition M)
    (xs : List (Fragment M)) :
    Fragment.renderAll t (encloseFragments op operand xs) =
      (Fragment.renderAll t xs).map (enclose op operand) := by
  unfold encloseFragments enclose
  cases rendered : Fragment.renderAll t xs <;> split <;>
    simp [Fragment.render, rendered, Except.map, String.append_assoc]

theorem render_eq (t : Table M) (c : Condition M) : c.render t = Fragment.renderAll t c.fragments := by
  induction c with
  | compare op f operand =>
    rw [render, operand.render_eq, fragments, Fragment.renderAll_cons, Fragment.renderAll_cons]
    cases column : f.render t <;> cases sql : Fragment.renderAll t operand.fragments <;>
      simp [Fragment.render, column, String.append_assoc]
  | logical op left right ihLeft ihRight =>
    rw [render, ihLeft, ihRight, fragments, Fragment.renderAll_append, Fragment.renderAll_cons,
      renderAll_encloseFragments, renderAll_encloseFragments]
    cases Fragment.renderAll t left.fragments <;> cases Fragment.renderAll t right.fragments <;>
      simp [Fragment.render, Except.map, String.append_assoc]
  | written sql slots disjunction => simp [render, fragments, Fragment.render]

end Condition

mutual

def Assignment.fragments : Assignment M → List (Fragment M)
  | .set f operand => .column f :: .text "=" :: operand.fragments
  | .group members => members.fragments

def Assignments.fragments : Assignments M → List (Fragment M)
  | .last a => a.fragments
  | .cons a rest => a.fragments ++ .text ", " :: rest.fragments

end

mutual

theorem Assignment.render_eq (t : Table M) :
    (a : Assignment M) → a.render t = Fragment.renderAll t a.fragments
  | .set f operand => by
    rw [Assignment.render, operand.render_eq, Assignment.fragments, Fragment.renderAll_cons,
      Fragment.renderAll_cons]
    cases column : f.render t <;> cases sql : Fragment.renderAll t operand.fragments <;>
      simp [Fragment.render, column, String.append_assoc]
  | .group members => members.render_eq t

theorem Assignments.render_eq (t : Table M) :
    (as : Assignments M) → as.render t = Fragment.renderAll t as.fragments
  | .last a => a.render_eq t
  | .cons a rest => by
    rw [Assignments.render, a.render_eq t, rest.render_eq t, Assignments.fragments,
      Fragment.renderAll_append, Fragment.renderAll_cons]
    cases Fragment.renderAll t a.fragments <;> cases Fragment.renderAll t rest.fragments <;>
      simp [Fragment.render, String.append_assoc]

end

namespace Query

def fragments : Query M → List (Fragment M)
  | select t s =>
    .text "SELECT " :: Fragment.listed (s.columns.map fun c => .column c.field) ++
      [.text " FROM ", .text t.quoted]
  | insert t s record =>
    .text "INSERT INTO " :: .text t.quoted :: .text " (" ::
      Fragment.listed (s.columns.map fun c => .column c.field) ++ .text ") VALUES (" ::
      Fragment.listed (s.columns.map fun c => .parameter (.field c record)) ++ [.text ")"]
  | update t => [.text "UPDATE ", .text t.quoted]
  | delete t => [.text "DELETE FROM ", .text t.quoted]
  | filtered q c => q.fragments ++ .text " WHERE " :: c.fragments
  | assigned q a => q.fragments ++ .text " SET " :: a.fragments
  | limited q l => q.fragments ++ [.text " LIMIT ", .parameter (.count l)]

theorem renderAll_names {t : Table M} (s : t.Selection) :
    Fragment.renderAll t (Fragment.listed (s.columns.map fun c => .column c.field)) =
      .ok (Column.quotedList s.columns) :=
  Fragment.renderAll_listed t _ Column.quoted s.columns fun c member =>
    Field.render_field (s.mem c member)

theorem renderAll_placeholders {t : Table M} (s : t.Selection) (record : Option (Record M)) :
    Fragment.renderAll t (Fragment.listed (s.columns.map fun c => .parameter (.field c record))) =
      .ok (Column.placeholders s.columns) :=
  Fragment.renderAll_listed t _ (fun _ => "?") s.columns fun _ _ => rfl

/-- The text of a query is that of its fragments. -/
theorem render_eq (q : Query M) : q.render = Fragment.renderAll q.table q.fragments := by
  induction q with
  | select t s => simp [render, fragments, table, renderAll_names, Fragment.render, String.append_assoc]
  | insert t s record =>
    simp [render, fragments, table, renderAll_names, renderAll_placeholders, Fragment.render,
      String.append_assoc]
  | update t => simp [render, fragments, Fragment.render]
  | delete t => simp [render, fragments, Fragment.render]
  | filtered q c ih =>
    rw [render, ih, c.render_eq, fragments, table, Fragment.renderAll_append, Fragment.renderAll_cons]
    cases Fragment.renderAll q.table q.fragments <;> cases Fragment.renderAll q.table c.fragments <;>
      simp [Fragment.render, String.append_assoc]
  | assigned q a ih =>
    rw [render, ih, a.render_eq, fragments, table, Fragment.renderAll_append, Fragment.renderAll_cons]
    cases Fragment.renderAll q.table q.fragments <;> cases Fragment.renderAll q.table a.fragments <;>
      simp [Fragment.render, String.append_assoc]
  | limited q l ih =>
    rw [render, ih, fragments, table, Fragment.renderAll_append]
    cases Fragment.renderAll q.table q.fragments <;> simp [Fragment.render]

end Query

end PreparedSql
