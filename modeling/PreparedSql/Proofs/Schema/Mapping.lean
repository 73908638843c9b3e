import PreparedSql.Expr.Operand
import PreparedSql.Schema.Table

/-!
# Mapped fields

A table maps a field when one of its columns holds it. Main statements: the name of a mapped field
is rendered as its column (`Field.render_of_maps`), no other field is rendered at all
(`Field.render_of_not_maps`), and no rendered name holds a placeholder sign
(`Field.placeholderCount_of_render`).
-/

namespace PreparedSql

open Text

namespace Text

theorem not_mem_placeholder_of_isWord {cs : List Char} (word : isWord cs = true) : placeholder ∉ cs := by
  intro member
  have parts := List.all_eq_true.1 (all_isWordPart_of_isWord word) _ member
  exact absurd parts (by decide)

@[simp] theorem placeholderCount_quoted (name : Identifier) : placeholderCount name.quoted = 0 := by
  have inside : placeholderCount name.text = 0 :=
    List.count_eq_zero.2 (not_mem_placeholder_of_isWord name.isWord_text)
  have sign : placeholderCount "`" = 0 := by decide
  simp [Identifier.quoted, inside, sign]

end Text

variable {M : Model}

namespace Table

def Maps (t : Table M) (f : Field M) : Prop :=
  ∃ c ∈ t.columns, c.field = f

instance (t : Table M) (f : Field M) : Decidable (t.Maps f) :=
  inferInstanceAs (Decidable (∃ c ∈ t.columns, c.field = f))

/-- No two columns of a table map one field. -/
theorem eq_of_field_eq {t : Table M} {c d : Column M} (hc : c ∈ t.columns) (hd : d ∈ t.columns)
    (same : c.field = d.field) : c = d := by
  have forward : t.columns.Pairwise fun a b => a.field = b.field → a = b :=
    t.pairwise_distinct.imp fun apart same => absurd same apart.2
  have backward : t.columns.Pairwise (flip fun a b => a.field = b.field → a = b) :=
    t.pairwise_distinct.imp fun apart same => absurd same.symm apart.2
  exact forward.forall_of_forall_of_flip (fun _ _ _ => rfl) backward hc hd same

theorem column?_field_name {t : Table M} {c : Column M} (member : c ∈ t.columns) :
    t.column? c.field.name = some c := by
  cases found : t.column? c.field.name with
  | none =>
    have none := List.find?_eq_none.1 found c member
    simp at none
  | some d =>
    have same : d.field.name = c.field.name := by simpa using List.find?_some found
    rw [eq_of_field_eq (mem_of_column? found) member (Field.name_injective same)]

theorem column?_eq_none_iff {t : Table M} {f : Field M} : t.column? f.name = none ↔ ¬ t.Maps f := by
  constructor
  · rintro missing ⟨c, member, rfl⟩
    rw [column?_field_name member] at missing
    cases missing
  · intro unmapped
    apply List.find?_eq_none.2
    intro c member same
    exact unmapped ⟨c, member, Field.name_injective (by simpa using same)⟩

/-- Attributes that are all mapped select the columns that map them. -/
theorem lookup_of_mapped {t : Table M} {names : List String}
    (mapped : ∀ name ∈ names, ∃ c ∈ t.columns, c.field.name = name) :
    ∃ s, t.lookup names = .ok s ∧ s.columns.map (fun c => c.field.name) = names := by
  induction names with
  | nil => exact ⟨⟨[], by simp⟩, rfl, rfl⟩
  | cons name rest ih =>
    rw [List.forall_mem_cons] at mapped
    obtain ⟨⟨c, member, same⟩, others⟩ := mapped
    obtain ⟨s, found, names⟩ := ih others
    have first := column?_field_name member
    rw [same] at first
    rw [lookup]
    split
    · rename_i missing
      rw [missing] at first
      cases first
    · rename_i d present
      cases present.symm.trans first
      rw [found]
      exact ⟨_, rfl, by rw [List.map_cons, same, names]⟩

theorem only_of_mapped {t : Table M} {names : List String} (listed : names ≠ [])
    (mapped : ∀ name ∈ names, ∃ c ∈ t.columns, c.field.name = name) :
    ∃ s, t.only names = .ok s ∧ s.columns.map (fun c => c.field.name) = names := by
  rw [only, if_neg listed]
  exact lookup_of_mapped mapped

end Table

namespace Field

theorem render_field {t : Table M} {c : Column M} (member : c ∈ t.columns) :
    c.field.render t = .ok c.quoted := by
  simp [render, Table.column, Table.column?_field_name member]

/-- A mapped field is rendered as its column. -/
theorem render_of_maps {t : Table M} {f : Field M} (mapped : t.Maps f) :
    ∃ c ∈ t.columns, c.field = f ∧ f.render t = .ok c.quoted := by
  obtain ⟨c, member, rfl⟩ := mapped
  exact ⟨c, member, rfl, render_field member⟩

theorem render_of_not_maps {t : Table M} {f : Field M} (unmapped : ¬ t.Maps f) :
    f.render t = .error (.attributeNotFound f.name t.name.text) := by
  simp [render, Table.column, Table.column?_eq_none_iff.2 unmapped]

/-- Only a column that maps the field is rendered. -/
theorem column_of_render {t : Table M} {f : Field M} {sql : String} (rendered : f.render t = .ok sql) :
    ∃ c, t.column? f.name = some c ∧ sql = c.quoted := by
  unfold render Table.column at rendered
  cases found : t.column? f.name with
  | none =>
    rw [found] at rendered
    cases rendered
  | some c =>
    rw [found] at rendered
    cases rendered
    exact ⟨c, rfl, rfl⟩

theorem placeholderCount_of_render {t : Table M} {f : Field M} {sql : String}
    (rendered : f.render t = .ok sql) :
    placeholderCount sql = 0 := by
  obtain ⟨c, _, rfl⟩ := column_of_render rendered
  exact placeholderCount_quoted c.name

end Field

namespace Shelf

/-- Books on a shelf, on which the general statements are tried. -/
def book : Model where
  name := "Book"
  fields :=
    [⟨"number", .required .integerUnsigned⟩, ⟨"title", .required .text⟩, ⟨"due", .optional .dateTime⟩]
  names_nodup := by decide
  initial
    | 0 => (0 : UInt32)
    | 1 => "untitled"
    | 2 => none

def number : Field book := ⟨⟨0, by decide⟩⟩
def title : Field book := ⟨⟨1, by decide⟩⟩
def due : Field book := ⟨⟨2, by decide⟩⟩

theorem no_width (n : Nat) (given : n ∈ (none : Option Nat)) : 0 < n := by
  cases given

def column (name : Identifier) (field : Field book) : Column book where
  name := name
  field := field
  constraints := { nullable := .off }
  width := none
  nullable_ne_undefined := by decide
  width_pos := no_width
  kind_of_width := by simp

def books : Table book where
  name := ⟨"books", by decide⟩
  columns := [column ⟨"number", by decide⟩ number, column ⟨"title", by decide⟩ title,
    column ⟨"due_at", by decide⟩ due]
  columns_ne_nil := by simp
  pairwise_distinct := by decide

end Shelf

example : Shelf.due.render Shelf.books = .ok "`due_at`" := rfl

end PreparedSql
