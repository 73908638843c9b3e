import PreparedSql.Proofs.Reading.Conditions

/-!
# Outlines of queries

What the text of a query says: its verb, its names, where each assigned value comes from, and what it
compares. Main statement: a condition that is read back says what the condition says, up to the grouping
of equal connectives (`Condition.exists_sentence`).
-/

namespace PreparedSql

open Reading Text

namespace Reading

/-- What a condition says; a column is compared with a parameter if no other column is the source. -/
inductive Sentence where
  | compare (column : String) (op : Comparison) (source : Option String)
  | join (op : Connective) (left right : Sentence)
  deriving DecidableEq

namespace Sentence

/-- The sentences differ in how equal connectives are grouped. -/
inductive Regroups : Sentence → Sentence → Prop where
  | refl (s : Sentence) : Regroups s s
  | symm {s u : Sentence} : Regroups s u → Regroups u s
  | trans {s u v : Sentence} : Regroups s u → Regroups u v → Regroups s v
  | join {op : Connective} {s s' u u' : Sentence} :
      Regroups s s' → Regroups u u' → Regroups (join op s u) (join op s' u')
  | assoc (op : Connective) (s u v : Sentence) :
      Regroups (.join op (.join op s u) v) (.join op s (.join op u v))

def joined? (op : Connective) : Option Sentence → Option Sentence → Option Sentence
  | some s, some u => some (join op s u)
  | _, _ => none

def Agree (s u : Option Sentence) : Prop :=
  Option.Rel Regroups s u

namespace Agree

variable {r s u v : Option Sentence}

theorem refl (s : Option Sentence) : Agree s s := by
  cases s with
  | none => exact .none
  | some s => exact .some (.refl s)

theorem symm (same : Agree s u) : Agree u s := by
  cases same with
  | none => exact .none
  | some same => exact .some same.symm

theorem trans (first : Agree s u) (second : Agree u v) : Agree s v := by
  cases first with
  | none => exact second
  | some first =>
    cases second with
    | some second => exact .some (first.trans second)

theorem joined (op : Connective) (left : Agree s u) (right : Agree r v) :
    Agree (joined? op s r) (joined? op u v) := by
  cases left with
  | none => exact .none
  | some left =>
    cases right with
    | none => exact .none
    | some right => exact .some (.join left right)

theorem assoc (op : Connective) (s u v : Option Sentence) :
    Agree (joined? op (joined? op s u) v) (joined? op s (joined? op u v)) := by
  cases s <;> cases u <;> cases v <;> first | exact .none | exact .some (.assoc ..)

end Agree

end Sentence

def source? : Token → Option (Option String)
  | .placeholder => some none
  | .quoted .backtick name => some (some (String.ofList name))
  | _ => none

def comparison? : List Token → Option Comparison
  | [.sign '='] => some .eq
  | [.sign '<', .sign '>'] => some .ne
  | [.sign '>'] => some .gt
  | [.sign '>', .sign '='] => some .ge
  | [.sign '<'] => some .lt
  | [.sign '<', .sign '='] => some .le
  | _ => none

def compared? : List Token → Option Sentence
  | .quoted .backtick column :: ts =>
    match comparison? ts.dropLast, ts.getLast?.bind source? with
    | some op, some source => some (.compare (String.ofList column) op source)
    | _, _ => none
  | _ => none

theorem compared?_tokens (name : Identifier) (op : Comparison) {last : Token} {source : Option String}
    (comes : source? last = some source) :
    compared? (nameToken name :: comparisonTokens op ++ [last]) = some (.compare name.text op source) := by
  have found : comparison? (comparisonTokens op) = some op := by cases op <;> rfl
  simp [compared?, nameToken, found, comes]

namespace Formula

def sentence? : Formula → Option Sentence
  | predicate ts => compared? ts
  | and left right => Sentence.joined? .and left.sentence? right.sentence?
  | or left right => Sentence.joined? .or left.sentence? right.sentence?
  | group inside => inside.sentence?

/-- Formulas up to grouping say the same sentence up to grouping. -/
theorem Regroups.sentence {f g : Formula} (same : Regroups f g) :
    Sentence.Agree f.sentence? g.sentence? := by
  induction same with
  | refl f => exact .refl _
  | symm _ ih => exact ih.symm
  | trans _ _ ihLeft ihRight => exact ihLeft.trans ihRight
  | and _ _ ihLeft ihRight | or _ _ ihLeft ihRight => exact ihLeft.joined _ ihRight
  | group _ ih => exact ih
  | and_assoc f g h | or_assoc f g h => exact .assoc ..

@[simp] theorem sentence?_plain (f : Formula) : f.plain.sentence? = f.sentence? := by
  induction f with
  | predicate ts => rfl
  | and left right ihLeft ihRight | or left right ihLeft ihRight =>
    simp only [plain, sentence?, ihLeft, ihRight]
  | group inside ih => exact ih

theorem sentence?_join (op : Connective) (f g : Formula) :
    (join op f g).sentence? = Sentence.joined? op f.sentence? g.sentence? := by
  cases op <;> rfl

end Formula

inductive Verb where
  | select
  | insert
  | update
  | delete
  deriving DecidableEq

/-- A column that is set, and the column that its value comes from, if it is not a parameter. -/
abbrev Setting := String × Option String

structure Heading where
  verb : Verb
  table : String
  columns : List String := []
  deriving DecidableEq

structure Outline extends Heading where
  settings : List Setting := []
  condition : Option Sentence := none
  limited : Bool := false
  deriving DecidableEq

namespace Outline

/-- The outlines agree, their conditions up to the grouping of equal connectives. -/
structure Alike (o o' : Outline) : Prop where
  heading : o.toHeading = o'.toHeading
  settings : o.settings = o'.settings
  condition : Sentence.Agree o.condition o'.condition
  limited : o.limited = o'.limited

namespace Alike

variable {o o' o'' : Outline}

theorem refl (o : Outline) : o.Alike o :=
  ⟨rfl, rfl, .refl _, rfl⟩

theorem symm (alike : o.Alike o') : o'.Alike o :=
  ⟨alike.heading.symm, alike.settings.symm, alike.condition.symm, alike.limited.symm⟩

theorem trans (first : o.Alike o') (second : o'.Alike o'') : o.Alike o'' :=
  ⟨first.heading.trans second.heading, first.settings.trans second.settings,
    first.condition.trans second.condition, first.limited.trans second.limited⟩

end Alike

end Outline

end Reading

variable {M : Model}

def Operand.source? {τ : FieldType} (t : Table M) : Operand M τ → Option (Option String)
  | literal _ | var _ => some none
  | column f _ => (t.column? f.name).map fun c => some c.name.text

theorem Operand.source?_of_token? {τ : FieldType} {t : Table M} {o : Operand M τ} {last : Token}
    (written : o.token? t = some last) :
    ∃ source, o.source? t = some source ∧ Reading.source? last = some source := by
  cases o with
  | literal | var =>
    cases written
    exact ⟨none, rfl, rfl⟩
  | column f same =>
    obtain ⟨c, found, rfl⟩ := Option.map_eq_some_iff.1 written
    exact ⟨some c.name.text, by simp [source?, found], by simp [nameToken, Reading.source?]⟩

/-- An operand is rendered as its source. -/
theorem Operand.source?_of_render {τ : FieldType} {t : Table M} {o : Operand M τ} {sql : String}
    (rendered : o.render t = .ok sql) :
    (o.source? t = some none ∧ sql = "?") ∨
      ∃ c : Column M, o.source? t = some (some c.name.text) ∧ sql = c.quoted := by
  cases o with
  | literal | var =>
    cases rendered
    exact .inl ⟨rfl, rfl⟩
  | column f same =>
    obtain ⟨c, found, rfl⟩ := Field.column_of_render rendered
    exact .inr ⟨c, by simp [source?, found], rfl⟩

namespace Condition

/-- What the condition compares; the caller's words are not looked into. -/
def sentence? (t : Table M) : Condition M → Option Sentence
  | compare op f operand =>
    match t.column? f.name, operand.source? t with
    | some c, some source => some (.compare c.name.text op source)
    | _, _ => none
  | logical op left right => Sentence.joined? op (left.sentence? t) (right.sentence? t)
  | written .. => none

theorem sentence?_of_formula {t : Table M} {c : Condition M} {g : Formula} (own : c.wordings = [])
    (meant : c.formula t = some g) : ∃ s, c.sentence? t = some s ∧ g.sentence? = some s := by
  induction c generalizing g with
  | compare op f operand =>
    rw [formula] at meant
    split at meant
    · rename_i c last column written
      cases meant
      obtain ⟨source, comes, comes'⟩ := Operand.source?_of_token? written
      exact ⟨_, by simp [sentence?, column, comes], compared?_tokens c.name op comes'⟩
    · cases meant
  | logical op left right ihLeft ihRight =>
    obtain ⟨ownLeft, ownRight⟩ := List.append_eq_nil_iff.1 own
    rw [formula] at meant
    split at meant
    · rename_i f f' first second
      cases meant
      obtain ⟨s, said, said'⟩ := ihLeft ownLeft first
      obtain ⟨u, meant, meant'⟩ := ihRight ownRight second
      exact ⟨.join op s u, by rw [sentence?, said, meant]; rfl,
        by rw [Formula.sentence?_join, said', meant']; rfl⟩
    · cases meant
  | written sql slots disjunction => cases own

/-- The text of a condition reads as what the condition compares. -/
theorem exists_sentence {t : Table M} {c : Condition M} {sql : String} (own : c.wordings = [])
    (rendered : c.render t = .ok sql) :
    ∃ f s s', read sql = some f ∧ f.sentence? = some s ∧ c.sentence? t = some s' ∧ s.Regroups s' := by
  obtain ⟨sql', f, g, rendered', said, meant, agrees⟩ :=
    exists_agrees (maps_of_render rendered) (by simp [own])
  cases rendered.symm.trans rendered'
  obtain ⟨s', said', meant'⟩ := sentence?_of_formula own meant
  have same := agrees.regroups.sentence
  rw [Formula.sentence?_plain, Formula.sentence?_plain, meant'] at same
  generalize heard : f.sentence? = s at same
  cases same with
  | some same => exact ⟨f, _, s', said, heard, said', same⟩

end Condition

mutual

def Assignment.settings? (t : Table M) : Assignment M → Option (List Setting)
  | .set f operand =>
    match t.column? f.name, operand.source? t with
    | some c, some source => some [(c.name.text, source)]
    | _, _ => none
  | .group members => members.settings? t

def Assignments.settings? (t : Table M) : Assignments M → Option (List Setting)
  | .last a => a.settings? t
  | .cons a rest =>
    match a.settings? t, rest.settings? t with
    | some first, some others => some (first ++ others)
    | _, _ => none

end

def Column.names (columns : List (Column M)) : List String :=
  columns.map fun c => c.name.text

namespace Query

/-- What the query says, if its table maps the fields that it mentions and no condition is in the caller's
words. -/
def outline? : Query M → Option Outline
  | select t s => some { verb := .select, table := t.name.text, columns := Column.names s.columns }
  | insert t s _ => some { verb := .insert, table := t.name.text, columns := Column.names s.columns }
  | update t => some { verb := .update, table := t.name.text }
  | delete t => some { verb := .delete, table := t.name.text }
  | filtered q c =>
    match q.outline?, c.sentence? q.table with
    | some o, some s => some { o with condition := some s }
    | _, _ => none
  | assigned q a =>
    match q.outline?, a.settings? q.table with
    | some o, some settings => some { o with settings }
    | _, _ => none
  | limited q _ => q.outline?.map fun o => { o with limited := true }

inductive Opens : Query M → Prop where
  | select (t : Table M) (s : t.Selection) : Opens (.select t s)
  | set (t : Table M) (a : Assignment M) : Opens (.assigned (.update t) a)
  | delete (t : Table M) : Opens (.delete t)

inductive Filters : Query M → Prop where
  | every {q : Query M} (opens : q.Opens) : Filters q
  | filtered {q : Query M} {c : Condition M} (opens : q.Opens) (own : c.wordings = []) :
      Filters (.filtered q c)

/-- The queries that can be executed, without conditions in the caller's words. -/
inductive Standard : Query M → Prop where
  | insert (t : Table M) (s : t.Selection) (record : Option (Record M)) : Standard (.insert t s record)
  | unlimited {q : Query M} (filters : q.Filters) : Standard q
  | limited {q : Query M} (filters : q.Filters) (l : RowLimit) : Standard (.limited q l)

end Query

end PreparedSql
