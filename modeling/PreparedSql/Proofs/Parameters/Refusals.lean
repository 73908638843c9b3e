import PreparedSql.Proofs.Parameters.Alignment

/-!
# Refused queries

A query without conditions in the caller's words is refused for a field that its table does not map,
and for nothing else. Main statement: the error names the first such field in the order of the text
(`Statement.ofQuery_refuses`).
-/

namespace PreparedSql

variable {M : Model}

namespace Query

variable {q : Query M} {f : Field M}

/-- Of the fields that the query mentions, the first that its table does not map. -/
def FirstUnmapped (q : Query M) (f : Field M) : Prop :=
  ∃ before after, q.fields = before ++ f :: after ∧ (∀ g ∈ before, q.table.Maps g) ∧ ¬ q.table.Maps f

theorem firstUnmapped_iff : q.FirstUnmapped f ↔ q.table.firstUnmapped q.fields = some f := by
  simp only [FirstUnmapped, Table.firstUnmapped, List.find?_eq_some_iff_append, decide_eq_true_eq,
    Bool.not_eq_true', decide_eq_false_iff_not, Classical.not_not]
  constructor
  · rintro ⟨before, after, same, mapped, unmapped⟩
    exact ⟨unmapped, before, after, same, mapped⟩
  · rintro ⟨unmapped, before, after, same, mapped⟩
    exact ⟨before, after, same, mapped, unmapped⟩

theorem exists_firstUnmapped : (∃ f, q.FirstUnmapped f) ↔ ∃ f ∈ q.fields, ¬ q.table.Maps f := by
  simp only [firstUnmapped_iff, ← Option.isSome_iff_exists, Table.firstUnmapped, List.find?_isSome,
    decide_eq_true_eq]

end Query

namespace Statement

theorem ofQuery_of_refused {ρ : Valuation} {q : Query M} {e : Error} (refused : q.render = .error e) :
    ofQuery ρ q = .error e := by
  rw [ofQuery, refused]

/-- The only reason to refuse a query in the library's own words is its first unmapped field. -/
theorem ofQuery_eq_error_iff (ρ : Valuation) {q : Query M} (own : q.wordings = []) {e : Error} :
    ofQuery ρ q = .error e ↔
      ∃ f, q.FirstUnmapped f ∧ e = .attributeNotFound f.name q.table.name.text := by
  simp only [Query.firstUnmapped_iff]
  have verdict := q.judges_fields
  unfold Table.Judges at verdict
  cases found : q.table.firstUnmapped q.fields with
  | none =>
    rw [found] at verdict
    obtain ⟨sql, rendered⟩ := verdict
    have aligned := Query.aligned_of_plain ρ rendered (by simp [own])
    simp [ofQuery_eq_ok rendered aligned.placeholders]
  | some f =>
    rw [found] at verdict
    simp [ofQuery_of_refused verdict, eq_comm]

/-- Preparing fails exactly on unmapped fields, and names the first of them. -/
theorem ofQuery_refuses (ρ : Valuation) (q : Query M) (own : q.wordings = []) :
    ((∃ e, ofQuery ρ q = .error e) ↔ ∃ f ∈ q.fields, ¬ q.table.Maps f) ∧
      (∀ e, ofQuery ρ q = .error e ↔
        ∃ f, q.FirstUnmapped f ∧ e = .attributeNotFound f.name q.table.name.text) ∧
      ∀ placeholders slots, ofQuery ρ q ≠ .error (.slotMismatch placeholders slots) := by
  refine ⟨?_, fun e => ofQuery_eq_error_iff ρ own, ?_⟩
  · rw [← Query.exists_firstUnmapped]
    constructor
    · rintro ⟨e, refused⟩
      obtain ⟨f, first, _⟩ := (ofQuery_eq_error_iff ρ own).1 refused
      exact ⟨f, first⟩
    · rintro ⟨f, first⟩
      exact ⟨_, (ofQuery_eq_error_iff ρ own).2 ⟨f, first, rfl⟩⟩
  · intro placeholders slots mismatch
    obtain ⟨f, _, same⟩ := (ofQuery_eq_error_iff ρ own).1 mismatch
    cases same

end Statement

def Shelf.numbers : Table Shelf.book where
  name := ⟨"numbers", by decide⟩
  columns := [Shelf.column ⟨"book_number", by decide⟩ Shelf.number]
  columns_ne_nil := by simp
  pairwise_distinct := by decide

def Shelf.misplaced : Query Shelf.book :=
  .limited
    (.filtered
      (.assigned Shelf.numbers.update
        (.group
          (.cons (.set Shelf.number (.literal (1 : UInt32)))
            (.last (.set Shelf.due (.literal none))))))
      (.compare .ne Shelf.title (.literal "lost")))
    (.var Shelf.count)

theorem Statement.ofQuery_refuses_misplaced :
    Shelf.misplaced.wordings = [] ∧
      ((∃ e, ofQuery Valuation.default Shelf.misplaced = .error e) ↔
        ∃ f ∈ Shelf.misplaced.fields, ¬ Shelf.misplaced.table.Maps f) ∧
      (∀ e, ofQuery Valuation.default Shelf.misplaced = .error e ↔
        ∃ f, Shelf.misplaced.FirstUnmapped f ∧
          e = .attributeNotFound f.name Shelf.misplaced.table.name.text) ∧
      ∀ placeholders slots,
        ofQuery Valuation.default Shelf.misplaced ≠ .error (.slotMismatch placeholders slots) := by
  have own : Shelf.misplaced.wordings = [] := rfl
  exact ⟨own, ofQuery_refuses Valuation.default Shelf.misplaced own⟩

example : Shelf.misplaced.render = .error (.attributeNotFound "due" "numbers") := by
  rfl

end PreparedSql
