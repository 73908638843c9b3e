import PreparedSql.Proofs.Parameters.Alignment
import PreparedSql.Proofs.Reading.Parentheses

/-!
# The meaning of a rendered condition

A condition says what its text says. Main statement: the text of a condition reads as the condition
itself, up to the grouping of equal connectives, and has its truth value for all values of the
comparisons; parentheses stand around the disjunctions that are operands of AND, and nowhere else.
-/

namespace PreparedSql

open Reading Text

variable {M : Model}

/-- The words are a condition, and report it if their outermost connective is OR. -/
def Wording.IsCondition (w : Wording) : Prop :=
  ∃ f, read w.sql = some f ∧ (f.isOr = true → w.disjunction = true)

def Operand.token? {τ : FieldType} (t : Table M) : Operand M τ → Option Token
  | literal _ | var _ => some .placeholder
  | column f _ => (t.column? f.name).map fun c => nameToken c.name

namespace Condition

/-- What the condition says: a comparison is a predicate, and the caller's words say what they read
as. -/
def formula (t : Table M) : Condition M → Option Formula
  | compare op f operand =>
    match t.column? f.name, operand.token? t with
    | some c, some last => some (.predicate (nameToken c.name :: comparisonTokens op ++ [last]))
    | _, _ => none
  | logical op left right =>
    match left.formula t, right.formula t with
    | some f, some g => some (.join op f g)
    | _, _ => none
  | written sql _ _ => read sql

def parenthesized (op : Connective) (operand : Condition M) : Bool :=
  op = .and ∧ operand.isDisjunction

theorem read_enclose {operand : Condition M} {sql : String} {f : Formula} (op : Connective)
    (said : read sql = some f) :
    read (enclose op operand sql) = some (f.grouped (parenthesized op operand)) := by
  unfold enclose parenthesized Formula.grouped
  by_cases inside : op = .and ∧ operand.isDisjunction
  · simp [inside, read_enclosed said]
  · simp [inside, said]

theorem read_of_tokens {sql : String} {name : Identifier} {op : Comparison} {last : Token}
    (plain : last.isPlain = true)
    (lexed : tokens sql = some (nameToken name :: comparisonTokens op ++ [last])) :
    read sql = some (.predicate (nameToken name :: comparisonTokens op ++ [last])) := by
  have signs : ∀ s ∈ comparisonTokens op, s.isPlain = true := by cases op <;> decide
  have all : ∀ s ∈ nameToken name :: comparisonTokens op ++ [last], s.isPlain = true := by
    intro s member
    rcases List.mem_append.1 member with front | back
    · rcases List.mem_cons.1 front with rfl | sign
      · rfl
      · exact signs s sign
    · rw [List.mem_singleton.1 back, plain]
  rw [Reading.read, lexed, Option.bind_some, readTokens_of_plain all (by simp)]

theorem read_compare {t : Table M} {op : Comparison} {f : Field M} {operand : Operand M f.type}
    (mapped : ∀ f' ∈ (compare op f operand).fields, t.Maps f') :
    ∃ sql ts, (compare op f operand).render t = .ok sql ∧
      (compare op f operand).formula t = some (.predicate ts) ∧
      read sql = some (.predicate ts) := by
  simp only [fields, List.mem_cons, forall_eq_or_imp] at mapped
  obtain ⟨⟨c, member, rfl⟩, others⟩ := mapped
  have name := Table.column?_field_name member
  have column := Field.render_field member
  cases operand with
  | literal x | var v =>
    have lexed := tokens_compare_placeholder c.name op
    refine ⟨c.quoted ++ op.symbol ++ "?", _, ?_, ?_, read_of_tokens rfl lexed⟩
    · simp [render, column, Operand.render]
    · simp [formula, name, Operand.token?]
  | column f' same =>
    obtain ⟨c', member', rfl⟩ := others f' (by simp [Operand.fields])
    have lexed := tokens_compare_name c.name op c'.name
    refine ⟨c.quoted ++ op.symbol ++ c'.quoted, _, ?_, ?_, read_of_tokens rfl lexed⟩
    · simp [render, column, Operand.render, Field.render_field member']
    · simp [formula, name, Operand.token?, Table.column?_field_name member']

/-- How a text that reads as `f` agrees with what the condition says. -/
structure Agrees (c : Condition M) (f g : Formula) : Prop where
  regroups : f.plain.Regroups g.plain
  disjunction : f.isOr = true → c.isDisjunction = true
  parentheses : c.wordings = [] → g.plain = g ∧ g.enclosing.isOr = c.isDisjunction ∧
    f.Regroups g.enclosing

/-- An operand of AND is never an open disjunction. -/
theorem isOr_grouped {c : Condition M} {f g : Formula} (h : c.Agrees f g) :
    (f.grouped (parenthesized .and c)).isOr = false := by
  cases disjunction : c.isDisjunction with
  | true => simp [parenthesized, disjunction, Formula.grouped, Formula.isOr]
  | false =>
    have conjunctive : f.isOr = false := by
      cases outer : f.isOr with
      | false => rfl
      | true => rw [h.disjunction outer] at disjunction; cases disjunction
    simp [parenthesized, disjunction, Formula.grouped, conjunctive]

theorem Agrees.logical {op : Connective} {left right : Condition M} {f f' g g' h : Formula}
    (first : left.Agrees f g)
    (second : right.Agrees f' g')
    (said : h.Regroups
      (.join op (f.grouped (parenthesized op left)) (f'.grouped (parenthesized op right)))) :
    (Condition.logical op left right).Agrees h (.join op g g') := by
  refine ⟨?_, ?_, ?_⟩
  · have plain := said.plain
    simp only [Formula.plain_join, Formula.plain_grouped] at plain ⊢
    exact .trans plain (.join first.regroups second.regroups)
  · rw [said.isOr, Formula.isOr_join]
    exact id
  · intro own
    obtain ⟨ownLeft, ownRight⟩ := List.append_eq_nil_iff.1 own
    obtain ⟨plain, outer, regroups⟩ := first.parentheses ownLeft
    obtain ⟨plain', outer', regroups'⟩ := second.parentheses ownRight
    refine ⟨by rw [Formula.plain_join, plain, plain'], ?_, ?_⟩
    · cases op <;> rfl
    · have joined : Formula.Regroups
          (.join op (f.grouped (parenthesized op left)) (f'.grouped (parenthesized op right)))
          (.join op (g.enclosing.grouped (parenthesized op left))
            (g'.enclosing.grouped (parenthesized op right))) :=
        .join (regroups.grouped _) (regroups'.grouped _)
      have enclosing : (Formula.join op g g').enclosing =
          .join op (g.enclosing.grouped (parenthesized op left))
            (g'.enclosing.grouped (parenthesized op right)) := by
        cases op with
        | and => simp [Formula.join, Formula.enclosing, Formula.enclosed, outer, outer', parenthesized]
        | or => rfl
      rw [enclosing]
      exact .trans said joined

/-- Over mapped fields, a condition is rendered to a text that reads as the condition. -/
theorem exists_agrees {t : Table M} {c : Condition M} (mapped : ∀ f ∈ c.fields, t.Maps f)
    (words : ∀ w ∈ c.wordings, w.IsCondition) :
    ∃ sql f g, c.render t = .ok sql ∧ read sql = some f ∧ c.formula t = some g ∧ c.Agrees f g := by
  induction c with
  | compare op f operand =>
    obtain ⟨sql, ts, rendered, meant, said⟩ := read_compare mapped
    refine ⟨sql, .predicate ts, .predicate ts, rendered, said, meant, .refl _, ?_, ?_⟩
    · intro impossible
      cases impossible
    · intro own
      exact ⟨rfl, rfl, .refl _⟩
  | logical op left right ihLeft ihRight =>
    simp only [fields, List.mem_append] at mapped
    simp only [wordings, List.mem_append] at words
    obtain ⟨a, f, g, rendered, said, meant, first⟩ :=
      ihLeft (fun f member => mapped f (.inl member)) fun w member => words w (.inl member)
    obtain ⟨b, f', g', rendered', said', meant', second⟩ :=
      ihRight (fun f member => mapped f (.inr member)) fun w member => words w (.inr member)
    have conjunctive : op = .and → (f.grouped (parenthesized op left)).isOr = false ∧
        (f'.grouped (parenthesized op right)).isOr = false := by
      rintro rfl
      exact ⟨isOr_grouped first, isOr_grouped second⟩
    obtain ⟨h, joined, regroups⟩ :=
      read_joined op (read_enclose op said) (read_enclose op said') conjunctive
    refine ⟨_, h, .join op g g', ?_, joined, ?_, first.logical second regroups⟩
    · rw [render, rendered, rendered']
    · rw [formula, meant, meant']
  | written sql slots disjunction =>
    obtain ⟨f, said, reported⟩ := words ⟨sql, slots, disjunction⟩ List.mem_cons_self
    refine ⟨sql, f, f, rfl, said, said, .refl _, reported, ?_⟩
    intro own
    cases own

/-- Conditions keep their meaning in a text. -/
theorem read_render {t : Table M} {c : Condition M} (mapped : ∀ f ∈ c.fields, t.Maps f)
    (words : ∀ w ∈ c.wordings, w.IsCondition) :
    ∃ sql f g, c.render t = .ok sql ∧ read sql = some f ∧ c.formula t = some g ∧
      f.plain.Regroups g.plain ∧
      (∀ v, f.eval v = g.eval v) ∧ (c.wordings = [] → g.plain = g ∧ f.Regroups g.enclosing) := by
  obtain ⟨sql, f, g, rendered, said, meant, agrees⟩ := exists_agrees mapped words
  refine ⟨sql, f, g, rendered, said, meant, agrees.regroups, ?_, ?_⟩
  · intro v
    rw [← f.eval_plain, agrees.regroups.eval, g.eval_plain]
  · intro own
    obtain ⟨plain, _, regroups⟩ := agrees.parentheses own
    exact ⟨plain, regroups⟩

end Condition

def Shelf.sought : Condition Shelf.book :=
  .logical .and
    (.logical .or (.compare .eq Shelf.number (.literal (7 : UInt32)))
      (.compare .gt Shelf.number (.var Shelf.first)))
    (.logical .and (.written "`title` LIKE 'a%' or `due_at` BETWEEN 1 AND 2" 0 true)
      (.compare .le Shelf.due (.column Shelf.due rfl)))

example : Shelf.sought.render Shelf.books =
    .ok "(`number`=? OR `number`>?) AND (`title` LIKE 'a%' or `due_at` BETWEEN 1 AND 2) AND `due_at`<=`due_at`" := by
  rfl

namespace Condition

theorem read_render_sought :
    (∀ f ∈ Shelf.sought.fields, Shelf.books.Maps f) ∧ (∀ w ∈ Shelf.sought.wordings, w.IsCondition) ∧
      ∃ sql f g, Shelf.sought.render Shelf.books = .ok sql ∧ read sql = some f ∧
        Shelf.sought.formula Shelf.books = some g ∧ f.plain.Regroups g.plain ∧
          (∀ v, f.eval v = g.eval v) ∧
        (Shelf.sought.wordings = [] → g.plain = g ∧ f.Regroups g.enclosing) := by
  have mapped : ∀ f ∈ Shelf.sought.fields, Shelf.books.Maps f := by decide
  have words : ∀ w ∈ Shelf.sought.wordings, w.IsCondition := by
    intro w member
    rw [List.mem_singleton.1 member]
    exact ⟨_, rfl, fun _ => rfl⟩
  exact ⟨mapped, words, read_render mapped words⟩

end Condition

end PreparedSql
