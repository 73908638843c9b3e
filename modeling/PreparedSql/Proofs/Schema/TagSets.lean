import Mathlib.Data.List.Nodup
import PreparedSql.Proofs.Schema.Declarations

/-!
# Tags as sets

The tags of a column are given as a list and mean a set. Main statement: a list is accepted exactly when no
tag is repeated and NULL is not both allowed and ruled out; it then decides what its tags say in whatever
order they stand, down to the definition of the column, and otherwise the first tag that comes back to a
group is reported (`Constraints.ofTags_gathers`).
-/

namespace PreparedSql

variable {M : Model}

namespace Tag

variable {tags : List Tag} {t : Tag}

def Apart (s t : Tag) : Prop :=
  s.group ≠ t.group

instance : DecidableRel Apart :=
  fun _ _ => inferInstanceAs (Decidable (_ ≠ _))

/-- The tag stands at the first position whose group occurred before. -/
def FirstAgain (tags : List Tag) (t : Tag) : Prop :=
  ∃ before later, tags = before ++ t :: later ∧ (before.map group).Nodup ∧ t.group ∈ before.map group

theorem firstRepeat_eq_none_iff_groups :
    firstRepeat Apart [] tags = none ↔ (tags.map group).Nodup := by
  rw [firstRepeat_eq_none_iff, List.Nodup, List.pairwise_map]
  exact and_iff_left (by simp)

theorem firstRepeat_eq_some_iff_again : firstRepeat Apart [] tags = some t ↔ FirstAgain tags t := by
  have clash (before : List Tag) :
      (∃ s, (s ∈ [] ∨ s ∈ before) ∧ ¬ Apart s t) ↔ t.group ∈ before.map group := by
    simp [Apart]
  simp only [firstRepeat_eq_some_iff, firstRepeat_eq_none_iff_groups, clash, FirstAgain]

/-- Different tags of one group are the two that speak of NULL. -/
theorem nullability_of_group_eq {s : Tag} (same : s.group = t.group) (different : s ≠ t) :
    (s = .nullable ∧ t = .notNull) ∨ (s = .notNull ∧ t = .nullable) := by
  revert same different
  cases s <;> cases t <;> simp [group]

theorem group_mem_iff : t.group ∈ tags.map group ↔
    t ∈ tags ∨ (t = .nullable ∧ .notNull ∈ tags) ∨ (t = .notNull ∧ .nullable ∈ tags) := by
  rw [List.mem_map]
  constructor
  · rintro ⟨s, listed, same⟩
    by_cases here : s = t
    · exact .inl (here ▸ listed)
    · rcases nullability_of_group_eq same here with ⟨rfl, rfl⟩ | ⟨rfl, rfl⟩
      · exact .inr (.inr ⟨rfl, listed⟩)
      · exact .inr (.inl ⟨rfl, listed⟩)
  · rintro (listed | ⟨rfl, listed⟩ | ⟨rfl, listed⟩)
    · exact ⟨t, listed, rfl⟩
    · exact ⟨_, listed, rfl⟩
    · exact ⟨_, listed, rfl⟩

/-- Two tags clash if they are one tag, or the two that speak of NULL. -/
theorem nodup_groups_iff :
    (tags.map group).Nodup ↔ tags.Nodup ∧ ¬ (.nullable ∈ tags ∧ .notNull ∈ tags) := by
  constructor
  · intro groups
    refine ⟨groups.of_map, ?_⟩
    rintro ⟨allowed, ruledOut⟩
    cases List.inj_on_of_nodup_map groups allowed ruledOut rfl
  · rintro ⟨once, single⟩
    refine once.map_on fun s listed t listed' same => ?_
    by_contra different
    rcases nullability_of_group_eq same different with ⟨rfl, rfl⟩ | ⟨rfl, rfl⟩
    · exact single ⟨listed, listed'⟩
    · exact single ⟨listed', listed⟩

end Tag

namespace Constraints

variable {column : String} {tags other : List Tag} {c d : Constraints}

namespace Holds

/-- Tags say the same in whatever order and number they stand. -/
theorem congr (holds : Holds tags c) (same : ∀ t, t ∈ tags ↔ t ∈ other) : Holds other c where
  nullable := holds.nullable.trans (same _)
  notNull := holds.notNull.trans (same _)
  primaryKey := holds.primaryKey.trans (same _)
  autoIncrement := holds.autoIncrement.trans (same _)
  unique := holds.unique.trans (same _)

/-- What tags say leaves no choice. -/
theorem eq (holds : Holds tags c) (others : Holds tags d) : c = d := by
  have nullable : c.nullable = d.nullable := by
    have allowed := holds.nullable.trans others.nullable.symm
    have ruledOut := holds.notNull.trans others.notNull.symm
    cases said : c.nullable with
    | on => exact (allowed.1 said).symm
    | off => exact (ruledOut.1 said).symm
    | undefined =>
      cases said' : d.nullable with
      | on => simp [said, said'] at allowed
      | off => simp [said, said'] at ruledOut
      | undefined => rfl
  have primaryKey := Bool.eq_iff_iff.2 (holds.primaryKey.trans others.primaryKey.symm)
  have autoIncrement := Bool.eq_iff_iff.2 (holds.autoIncrement.trans others.autoIncrement.symm)
  have unique := Bool.eq_iff_iff.2 (holds.unique.trans others.unique.symm)
  exact Constraints.ext nullable primaryKey autoIncrement unique

/-- What is decided is what the tags speak of. -/
theorem decides_iff (holds : Holds tags c) (t : Tag) :
    c.decides t = true ↔ t.group ∈ tags.map Tag.group := by
  have settled : c.nullable ≠ .undefined ↔ .nullable ∈ tags ∨ .notNull ∈ tags := by
    rw [← holds.nullable, ← holds.notNull]
    cases c.nullable <;> simp
  rw [Tag.group_mem_iff]
  cases t with
  | nullable => simp [decides, Tag.group, settled]
  | notNull => simp [decides, Tag.group, settled, or_comm]
  | primaryKey => simp [decides, Tag.group, holds.primaryKey]
  | autoIncrement => simp [decides, Tag.group, holds.autoIncrement]
  | unique => simp [decides, Tag.group, holds.unique]

/-- The tags are taken until a group comes up again. -/
theorem addAll_eq (holds : Holds tags c) (column : String) (more : List Tag) :
    c.addAll column more =
      match firstRepeat Tag.Apart tags more with
      | some t => .error (.duplicateConstraint t column)
      | none => .ok (more.foldl Constraints.add c) := by
  induction more generalizing tags c with
  | nil => rfl
  | cons t rest ih =>
    have again : c.decides t = true ↔ ¬ ∀ s ∈ tags, Tag.Apart s t := by
      rw [holds.decides_iff]
      simp [Tag.Apart]
    rw [Constraints.addAll, apply, firstRepeat]
    cases decided : c.decides t with
    | true => simp [again.1 decided]
    | false =>
      have apart : ∀ s ∈ tags, Tag.Apart s t := by
        by_contra clash
        simp [again.2 clash] at decided
      have next : Holds (t :: tags) (c.add t) := (holds.add decided).congr (by simp [or_comm])
      rw [if_pos apart]
      simpa using ih next

end Holds

theorem ofTags_eq (column : String) (tags : List Tag) :
    ofTags column tags =
      match firstRepeat Tag.Apart [] tags with
      | some t => .error (.duplicateConstraint t column)
      | none => .ok (tags.foldl add {}) :=
  Holds.start.addAll_eq column tags

theorem exists_ofTags_iff : (∃ c, ofTags column tags = .ok c) ↔ (tags.map Tag.group).Nodup := by
  rw [← Tag.firstRepeat_eq_none_iff_groups, ofTags_eq]
  cases firstRepeat Tag.Apart [] tags <;> simp

theorem ofTags_eq_error_iff {e : Error} :
    ofTags column tags = .error e ↔ ∃ t, Tag.FirstAgain tags t ∧ e = .duplicateConstraint t column := by
  simp only [← Tag.firstRepeat_eq_some_iff_again, ofTags_eq]
  cases firstRepeat Tag.Apart [] tags <;> simp [eq_comm]

/-- Accepted tags are accepted in any order, with one result. -/
theorem ofTags_of_perm (accepted : ofTags column tags = .ok c) (perm : other.Perm tags) :
    ofTags column other = .ok c := by
  have groups := exists_ofTags_iff.1 ⟨c, accepted⟩
  obtain ⟨d, accepted'⟩ : ∃ d, ofTags column other = .ok d :=
    exists_ofTags_iff.2 ((perm.map Tag.group).nodup_iff.2 groups)
  have holds : Holds tags d := (Holds.ofTags accepted').congr fun _ => perm.mem_iff
  rw [accepted', holds.eq (.ofTags accepted)]

/-- The constraint words of a definition are those of the tags, in an order of their own. -/
theorem Holds.sql_eq (holds : Holds tags c) :
    c.sql = " ".intercalate ((Tag.written.filter (· ∈ tags)).map Tag.keyword) := by
  have shown : ∀ t ∈ Tag.written, c.shows t = decide (t ∈ tags) := by
    intro t written
    rw [Bool.eq_iff_iff, decide_eq_true_iff]
    cases t with
    | nullable => simp [Tag.written] at written
    | notNull => simp [shows, holds.notNull]
    | primaryKey => exact holds.primaryKey
    | autoIncrement => exact holds.autoIncrement
    | unique => exact holds.unique
  rw [sql, writtenTags_eq, List.filter_congr shown]

end Constraints

namespace Column

variable {name : String} {field : Field M} {tags other : List Tag} {k : Column M}

theorem make_of_perm (made : make name field tags = .ok k) (perm : other.Perm tags) :
    make name field other = .ok k := by
  obtain ⟨named, mapped, unsized, constraints, accepted, resolved⟩ := make_eq_ok_iff.1 made
  have accepted' := Constraints.ofTags_of_perm accepted perm
  exact make_eq_ok_iff.2 ⟨named, mapped, unsized, constraints, accepted', resolved⟩

theorem makeVarchar_of_perm {size : Nat} (isText : field.type.kind = .text)
    (made : makeVarchar name size field isText tags = .ok k) (perm : other.Perm tags) :
    makeVarchar name size field isText other = .ok k := by
  obtain ⟨plain, first, sized⟩ := makeVarchar_eq_ok_iff.1 made
  exact makeVarchar_eq_ok_iff.2 ⟨plain, make_of_perm first perm, sized⟩

end Column

namespace ColumnDecl

def withTags (tags : List Tag) : ColumnDecl M → ColumnDecl M
  | column name field _ => column name field tags
  | varchar name size field isText _ => varchar name size field isText tags

theorem make_withTags_of_perm {d : ColumnDecl M} {k : Column M} (made : d.make = .ok k) {other : List Tag}
    (perm : other.Perm d.tags) : (d.withTags other).make = .ok k := by
  cases d with
  | column name field tags => exact Column.make_of_perm made perm
  | varchar name size field isText tags => exact Column.makeVarchar_of_perm isText made perm

/-- The constraint words of a column come in a fixed order, whatever the order of its tags. -/
theorem sql_of_make {d : ColumnDecl M} {k : Column M} (made : d.make = .ok k) :
    k.constraints.sql = " ".intercalate ((Tag.written.filter (d.asks ·)).map Tag.keyword) := by
  have flags : k.constraints.writtenTags = Tag.written.filter (d.asks ·) :=
    congrArg ColumnDefinition.flags (definition_of_make made)
  rw [Constraints.sql, flags]

end ColumnDecl

namespace Constraints

/-- What becomes of the tags of `column`. Whether they are accepted and what they come to does not hang on
their order, and a column that is declared with them is the same column with the same definition; which of
them is reported does. -/
structure Gathers (column : String) (tags : List Tag) : Prop where
  accepted : (∃ c, ofTags column tags = .ok c) ↔ tags.Nodup ∧ ¬ (.nullable ∈ tags ∧ .notNull ∈ tags)
  said : ∀ c, ofTags column tags = .ok c → c.Holds tags ∧
    c.sql = " ".intercalate ((Tag.written.filter (· ∈ tags)).map Tag.keyword)
  reordered : ∀ c, ofTags column tags = .ok c → ∀ other, other.Perm tags → ofTags column other = .ok c
  declared : ∀ {M : Model} (d : ColumnDecl M) (k : Column M), d.tags = tags → d.make = .ok k →
    k.constraints.sql = " ".intercalate ((Tag.written.filter (d.asks ·)).map Tag.keyword) ∧
      ∀ other, other.Perm tags → (d.withTags other).make = .ok k
  refused : ∀ e, ofTags column tags = .error e ↔ ∃ t, Tag.FirstAgain tags t ∧
    e = .duplicateConstraint t column ∧
      e.message = "Constraint '" ++ t.keyword ++ "' specified multiple times on column '" ++ column ++ "'"

theorem ofTags_gathers (column : String) (tags : List Tag) : Gathers column tags where
  accepted := exists_ofTags_iff.trans Tag.nodup_groups_iff
  said c gathered := ⟨.ofTags gathered, (Holds.ofTags gathered).sql_eq⟩
  reordered c gathered other perm := ofTags_of_perm gathered perm
  declared d k tagged made := by
    subst tagged
    exact ⟨d.sql_of_make made, fun other perm => d.make_withTags_of_perm made perm⟩
  refused e := by
    rw [ofTags_eq_error_iff]
    constructor
    · rintro ⟨t, again, rfl⟩
      exact ⟨t, again, rfl, rfl⟩
    · rintro ⟨t, again, same, _⟩
      exact ⟨t, again, same⟩

example : ofTags "due_on" [.unique, .nullable, .primaryKey, .notNull, .unique] =
    .error (.duplicateConstraint .notNull "due_on") := by
  rfl

end Constraints

end PreparedSql
