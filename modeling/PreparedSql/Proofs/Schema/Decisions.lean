import PreparedSql.Schema.Constraints

/-!
# Runs of decisions

The constraints of a column are decided step by step, by tags and by the type of the field, and a run goes on
after a tag that is refused. Main statement: a tag is refused exactly when a step before it decided its
group, and the refused tags leave no trace but in the nullability, where the last tag that speaks of NULL
has the last word (`Constraints.refusals_run`).
-/

namespace PreparedSql

def Tag.nullability? : Tag → Option Nullability
  | nullable => some .on
  | notNull => some .off
  | primaryKey | autoIncrement | unique => none

namespace Constraints

inductive Step where
  | tag (column : String) (t : Tag)
  | resolve (isOptional : Bool)

namespace Step

def group : Step → Tag.Group
  | tag _ t => t.group
  | resolve _ => .nullability

/-- What a tag says of NULL; a field type has no say against a tag. -/
def nullability? : Step → Option Nullability
  | tag _ t => t.nullability?
  | resolve _ => none

def perform : Step → Constraints → Except Error Unit × Constraints
  | tag column t, c => c.apply column t
  | resolve isOptional, c => (.ok (), c.resolve isOptional)

end Step

def after (c : Constraints) (steps : List Step) : Constraints :=
  steps.foldl (fun c step => (step.perform c).2) c

def accepted (c : Constraints) : List Step → List Step
  | [] => []
  | step :: rest =>
    match step.perform c with
    | (.ok (), c) => step :: accepted c rest
    | (.error _, c) => accepted c rest

def lastNullability (steps : List Step) : Option Nullability :=
  (steps.filterMap Step.nullability?).getLast?

variable {c kept : Constraints} {said : Option Nullability}

@[simp] theorem after_nil (c : Constraints) : c.after [] = c := rfl

@[simp] theorem after_cons (c : Constraints) (step : Step) (rest : List Step) :
    c.after (step :: rest) = (step.perform c).2.after rest := rfl

theorem lastNullability_cons (step : Step) (rest : List Step) :
    lastNullability (step :: rest) = (lastNullability rest).or step.nullability? := by
  unfold lastNullability
  cases spoken : step.nullability? with
  | none => rw [List.filterMap_cons_none spoken, Option.or_none]
  | some n =>
    rw [List.filterMap_cons_some spoken, List.getLast?_cons]
    cases (rest.filterMap Step.nullability?).getLast? <;> rfl

def isDecided (c : Constraints) : Tag.Group → Bool
  | .nullability => c.nullable != .undefined
  | .primaryKey => c.primaryKey
  | .autoIncrement => c.autoIncrement
  | .unique => c.unique

theorem decides_eq (c : Constraints) (t : Tag) : c.decides t = c.isDecided t.group := by
  cases t <;> rfl

/-- A step decides its own group, and leaves the other groups as they were. -/
theorem isDecided_perform (step : Step) (c : Constraints) (g : Tag.Group) :
    (step.perform c).2.isDecided g = (c.isDecided g || decide (step.group = g)) := by
  cases step with
  | tag column t => cases t <;> cases g <;> simp [Step.perform, apply, add, isDecided, Step.group, Tag.group]
  | resolve isOptional =>
    have settled := resolve_nullable_ne_undefined isOptional c
    cases g with
    | nullability => simp [Step.perform, isDecided, Step.group, settled]
    | primaryKey | autoIncrement | unique =>
      simp only [Step.perform, isDecided, Step.group, resolve]
      split <;> simp

theorem isDecided_after (steps : List Step) (c : Constraints) (g : Tag.Group) :
    (c.after steps).isDecided g = true ↔ c.isDecided g = true ∨ ∃ s ∈ steps, s.group = g := by
  induction steps generalizing c with
  | nil => simp
  | cons step rest ih => simp [ih, isDecided_perform, or_assoc]

/-- A group is decided once any step decided it, even one that was refused. -/
theorem decides_after (before : List Step) (t : Tag) :
    (after {} before).decides t = true ↔ ∃ s ∈ before, s.group = t.group := by
  have undecided : isDecided {} t.group = false := by cases t <;> rfl
  rw [decides_eq, isDecided_after, undecided]
  simp

theorem apply_eq_error_iff (column : String) (t : Tag) (c : Constraints) {e : Error} :
    (c.apply column t).1 = .error e ↔ c.decides t = true ∧ e = .duplicateConstraint t column := by
  unfold apply
  cases c.decides t <;> simp [eq_comm]

/-- Of a refused tag stays what it says of NULL. -/
theorem add_of_decides {t : Tag} (decided : c.decides t = true) :
    c.add t = { c with nullable := t.nullability?.getD c.nullable } := by
  cases t with
  | nullable | notNull => rfl
  | primaryKey | autoIncrement | unique =>
    obtain ⟨nullable, primaryKey, autoIncrement, unique⟩ := c
    cases decided
    rfl

theorem resolve_of_ne_undefined (decided : c.nullable ≠ .undefined) (isOptional : Bool) :
    c.resolve isOptional = c := by
  unfold resolve
  split
  · rename_i isOpen
    exact absurd isOpen decided
  · rfl

/-- The constraints follow those that the accepted steps lead to: they differ in what was said of NULL after
NULL was decided. -/
structure Follows (said : Option Nullability) (c kept : Constraints) : Prop where
  eq : c = { kept with nullable := said.getD kept.nullable }
  decided : ∀ n ∈ said, n ≠ .undefined ∧ kept.nullable ≠ .undefined

namespace Follows

theorem start (c : Constraints) : Follows none c c :=
  ⟨rfl, by simp⟩

theorem isDecided (follows : Follows said c kept) (g : Tag.Group) : c.isDecided g = kept.isDecided g := by
  obtain ⟨rfl, stated⟩ := follows
  cases g with
  | nullability =>
    cases said with
    | none => rfl
    | some n =>
      obtain ⟨real, known⟩ := stated n rfl
      exact (bne_iff_ne.2 real).trans (bne_iff_ne.2 known).symm
  | primaryKey | autoIncrement | unique => rfl

/-- A refused tag overwrites what was said of NULL before. -/
theorem refused (follows : Follows said c kept) {t : Tag} (decided : c.decides t = true) :
    Follows (t.nullability?.or said) (c.add t) kept := by
  have known : kept.isDecided t.group = true := by rw [← follows.isDecided, ← decides_eq, decided]
  rw [add_of_decides decided]
  obtain ⟨rfl, stated⟩ := follows
  cases t with
  | nullable | notNull =>
    exact ⟨rfl, by simpa [Tag.nullability?, Constraints.isDecided, Tag.group] using known⟩
  | primaryKey | autoIncrement | unique => exact ⟨by cases said <;> rfl, stated⟩

theorem added (follows : Follows said c kept) (t : Tag) :
    Follows (t.nullability?.or said) (c.add t) (kept.add t) := by
  obtain ⟨rfl, stated⟩ := follows
  cases t with
  | nullable | notNull => exact ⟨rfl, by simp [Tag.nullability?, Constraints.add]⟩
  | primaryKey | autoIncrement | unique => exact ⟨by cases said <;> rfl, stated⟩

theorem resolved (follows : Follows said c kept) (isOptional : Bool) :
    Follows said (c.resolve isOptional) (kept.resolve isOptional) := by
  obtain ⟨rfl, stated⟩ := follows
  cases said with
  | none => exact start _
  | some n =>
    obtain ⟨real, known⟩ := stated n rfl
    rw [resolve_of_ne_undefined known isOptional, resolve_of_ne_undefined real isOptional]
    exact ⟨rfl, stated⟩

/-- A refused step leaves behind what it says of NULL, and nothing else. -/
theorem step (follows : Follows said c kept) (s : Step) :
    match s.perform c with
    | (.ok (), d) => Follows (s.nullability?.or said) d (s.perform kept).2
    | (.error _, d) => Follows (s.nullability?.or said) d kept := by
  cases s with
  | resolve isOptional => exact follows.resolved isOptional
  | tag column t =>
    simp only [Step.perform, apply]
    cases decided : c.decides t with
    | true => exact follows.refused decided
    | false => exact follows.added t

/-- After any run the constraints are those of the accepted steps, but for the last word on NULL. -/
theorem run (follows : Follows said c kept) (steps : List Step) :
    Follows ((lastNullability steps).or said) (c.after steps) (kept.after (c.accepted steps)) := by
  induction steps generalizing said c kept with
  | nil => exact follows
  | cons s rest ih =>
    have next := follows.step s
    rw [lastNullability_cons, Option.or_assoc, after_cons, accepted]
    split at next <;> rename_i performed
    · rw [performed]
      exact ih next
    · rw [performed]
      exact ih next

end Follows

theorem overwritten_eq_iff (c : Constraints) (said : Option Nullability) :
    { c with nullable := said.getD c.nullable } = c ↔ ∀ n ∈ said, n = c.nullable := by
  cases said with
  | none => simp
  | some n =>
    constructor
    · intro same
      simpa using congrArg nullable same
    · intro same
      rw [Option.getD_some, same n rfl]

/-- What becomes of a tag after the steps `before`: it is refused if one of them decided its group, and then
changes the constraints only if it contradicts what they say of NULL. -/
structure Judged (before : List Step) (column : String) (t : Tag) : Prop where
  refused : ∀ e, ((after {} before).apply column t).1 = .error e ↔
    (∃ s ∈ before, s.group = t.group) ∧ e = .duplicateConstraint t column
  decided : (after {} before).decides t = true ↔ ∃ s ∈ before, s.group = t.group
  left : (after {} before).decides t = true → ((after {} before).apply column t).2 =
    { after {} before with nullable := t.nullability?.getD (after {} before).nullable }
  unchanged : (after {} before).decides t = true →
    (((after {} before).apply column t).2 = after {} before ↔
      ∀ n ∈ t.nullability?, n = (after {} before).nullable)

theorem judged (before : List Step) (column : String) (t : Tag) : Judged before column t where
  refused e := by rw [apply_eq_error_iff, decides_after]
  decided := decides_after before t
  left decided := add_of_decides decided
  unchanged decided := by
    rw [show ((after {} before).apply column t).2 = _ from add_of_decides decided, overwritten_eq_iff]

/-- A tag is refused exactly when its group is decided. What the accepted steps alone lead to is what the
whole run leads to, but for the nullability, which is what the last tag says that speaks of NULL. -/
theorem refusals_run (steps : List Step) :
    (∀ before column t later, steps = before ++ .tag column t :: later → Judged before column t) ∧
      let kept := after {} (accepted {} steps)
      after {} steps = { kept with nullable := (lastNullability steps).getD kept.nullable } ∧
        (after {} steps = kept ↔ ∀ n ∈ lastNullability steps, n = kept.nullable) := by
  have follows := (Follows.start {}).run steps
  rw [Option.or_none] at follows
  refine ⟨fun before column t _ _ => judged before column t, follows.eq, ?_⟩
  rw [follows.eq, overwritten_eq_iff]

/-- A tag that contradicts the one before it is refused, and yet it holds. -/
theorem contradiction_refused_and_kept :
    let c := after {} [.tag "due_on" .nullable]
    let run : List Step := [.tag "due_on" .nullable, .tag "due_on" .notNull]
    (c.apply "due_on" .notNull).1 = .error (.duplicateConstraint .notNull "due_on") ∧
      (c.apply "due_on" .notNull).2 ≠ c ∧ after {} run ≠ after {} (accepted {} run) :=
  ⟨rfl, by decide, by decide⟩

end Constraints

end PreparedSql
