import PreparedSql.Proofs.Reading.Formula

/-!
# Precedence of the connectives

A condition whose parentheses are already read is a row of pieces. It is read from left to right:
AND takes the operand before it, OR everything before it. Main statements: two conditions that are
joined by OR read as the disjunction of what they read as, and two that are joined by AND as the
conjunction, unless one of them is a disjunction (`readFrom_joined_or`, `readFrom_joined_and`).
-/

namespace PreparedSql.Reading

/-- A token outside of brackets, or brackets with all that stands in them and with its reading as a
condition. -/
inductive Piece where
  | token (t : Token)
  | brackets (ts : List Token) (reading : Option Formula)

namespace Piece

def tokens : Piece → List Token
  | token t => [t]
  | brackets ts _ => ts

def connective? : Piece → Option Connective
  | token t =>
    if t = connectiveToken .and then some .and else if t = connectiveToken .or then some .or else none
  | brackets .. => none

end Piece

/-- What no predicate contains outside of brackets: clauses, and the connective between AND and OR. -/
def Token.isReserved : Token → Bool
  | comma | opening | closing => true
  | word letters =>
    ["XOR", "SELECT", "FROM", "WHERE", "SET", "VALUES", "GROUP", "HAVING", "ORDER", "LIMIT", "UNION", "INTO", "FOR",
      "LOCK"].any fun keyword => keyword.toList = letters
  | quoted .. | sign _ | placeholder => false

/-- The operand that is being read: its tokens, the reading of the brackets if it consists of
brackets only, and whether it waits for the AND of a BETWEEN. -/
structure Part where
  tokens : List Token := []
  reading : Option Formula := none
  between : Bool := false

namespace Part

def formula? (p : Part) : Option Formula :=
  if p.tokens.isEmpty || p.between then none
  else
    match p.reading with
    | some f => some (.group f)
    | none => some (.predicate p.tokens)

def extend (p : Part) : Piece → Option Part
  | .brackets ts reading =>
    some {
      tokens := p.tokens ++ ts
      reading := if p.tokens.isEmpty then reading else none
      between := p.between }
  | .token t =>
    if t.isReserved then none
    else if t = .keyword "BETWEEN" then
      if p.between then none else some { tokens := p.tokens ++ [t], between := true }
    else some { tokens := p.tokens ++ [t], between := p.between }

def resume (p : Part) : Part :=
  { tokens := p.tokens ++ [connectiveToken .and] }

end Part

/-- What is read so far: the formula before the last OR, the one between that and the last AND, and
an operand. -/
structure Progress where
  alternatives : Option Formula := none
  conjuncts : Option Formula := none
  part : Part := {}

def joined (op : Connective) (before : Option Formula) (f : Formula) : Formula :=
  match before with
  | none => f
  | some g => .join op g f

namespace Progress

def conjunction? (s : Progress) : Option Formula :=
  s.part.formula?.map (joined .and s.conjuncts)

def formula? (s : Progress) : Option Formula :=
  s.conjunction?.map (joined .or s.alternatives)

def step (s : Progress) (p : Piece) : Option Progress :=
  match p.connective? with
  | some .and =>
    if s.part.between then some { s with part := s.part.resume }
    else s.conjunction?.map fun f => { alternatives := s.alternatives, conjuncts := some f }
  | some .or => s.formula?.map fun f => { alternatives := some f }
  | none => (s.part.extend p).map fun part => { s with part }

end Progress

def readFrom (s : Progress) : List Piece → Option Formula
  | [] => s.formula?
  | p :: rest => (s.step p).bind fun next => readFrom next rest

namespace Progress

variable {s s' next : Progress} {p : Piece} {f g : Formula}

/-- What a step can do: go on after a BETWEEN, end a conjunct, end an alternative, extend the
operand. -/
theorem step_cases (stepped : s.step p = some next) :
    (p.connective? = some .and ∧ s.part.between = true ∧ next = { s with part := s.part.resume }) ∨
    (p.connective? = some .and ∧ s.part.between = false ∧
      ∃ f, s.conjunction? = some f ∧ next = { alternatives := s.alternatives, conjuncts := some f }) ∨
    (p.connective? = some .or ∧ ∃ f, s.formula? = some f ∧ next = { alternatives := some f }) ∨
    (p.connective? = none ∧ ∃ part, s.part.extend p = some part ∧ next = { s with part }) := by
  unfold step at stepped
  cases connective : p.connective? with
  | none =>
    rw [connective] at stepped
    obtain ⟨part, extended, rfl⟩ := Option.map_eq_some_iff.1 stepped
    exact .inr (.inr (.inr ⟨rfl, part, extended, rfl⟩))
  | some op =>
    rw [connective] at stepped
    cases op with
    | and =>
      cases between : s.part.between with
      | true =>
        simp only [between, ↓reduceIte, Option.some.injEq] at stepped
        exact .inl ⟨rfl, rfl, stepped.symm⟩
      | false =>
        simp only [between, Bool.false_eq_true, ↓reduceIte] at stepped
        obtain ⟨f, ended, rfl⟩ := Option.map_eq_some_iff.1 stepped
        exact .inr (.inl ⟨rfl, rfl, f, ended, rfl⟩)
    | or =>
      obtain ⟨f, ended, rfl⟩ := Option.map_eq_some_iff.1 stepped
      exact .inr (.inr (.inl ⟨rfl, f, ended, rfl⟩))

theorem between_of_conjunction (ended : s.conjunction? = some f) : s.part.between = false := by
  unfold conjunction? Part.formula? at ended
  cases between : s.part.between with
  | true => simp [between] at ended
  | false => rfl

end Progress

theorem readFrom_append_of_step {xs : List Piece} {s next : Progress} {p : Piece} {f : Formula}
    (ends : ∀ s : Progress, s.formula? = some f → s.step p = some next) (read : readFrom s xs = some f)
    (ys : List Piece) :
    readFrom s (xs ++ p :: ys) = readFrom next ys := by
  induction xs generalizing s with
  | nil => rw [List.nil_append, readFrom, ends s read, Option.bind_some]
  | cons x rest ih =>
    obtain ⟨after, stepped, read⟩ := Option.bind_eq_some_iff.1 read
    rw [List.cons_append, readFrom, stepped, Option.bind_some, ih read]

theorem readFrom_or {s : Progress} {xs : List Piece} {f : Formula} (read : readFrom s xs = some f)
    (ys : List Piece) :
    readFrom s (xs ++ .token (connectiveToken .or) :: ys) = readFrom { alternatives := some f } ys := by
  refine readFrom_append_of_step ?_ read ys
  intro s ended
  have connective : (Piece.token (connectiveToken .or)).connective? = some .or := by decide
  simp [Progress.step, connective, ended]

theorem readFrom_and {s : Progress} {xs : List Piece} {f : Formula} (read : readFrom s xs = some f)
    (conjunctive : f.isOr = false) (ys : List Piece) :
    readFrom s (xs ++ .token (connectiveToken .and) :: ys) = readFrom { conjuncts := some f } ys := by
  refine readFrom_append_of_step ?_ read ys
  intro s ended
  have connective : (Piece.token (connectiveToken .and)).connective? = some .and := by decide
  obtain ⟨g, conjunction, same⟩ := Option.map_eq_some_iff.1 ended
  cases alternatives : s.alternatives with
  | none =>
    rw [alternatives] at same
    cases same
    simp [Progress.step, connective, Progress.between_of_conjunction conjunction, conjunction,
      alternatives, joined]
  | some d =>
    rw [alternatives] at same
    cases same
    cases conjunctive

def Follows (op : Connective) (f : Formula) (before after : Option Formula) : Prop :=
  ∃ g, after = some g ∧ g.Regroups (match before with | none => f | some d => .join op f d)

theorem Follows.joined {op : Connective} {f : Formula} {before after : Option Formula}
    (h : Follows op f before after) (c : Formula) :
    (joined op after c).Regroups (.join op f (joined op before c)) := by
  obtain ⟨g, rfl, same⟩ := h
  cases before with
  | none => exact .join same (.refl c)
  | some d => exact .trans (.join same (.refl c)) (.join_assoc op f d c)

structure AfterOr (f : Formula) (s s' : Progress) : Prop where
  alternatives : Follows .or f s.alternatives s'.alternatives
  conjuncts : s'.conjuncts = s.conjuncts
  part : s'.part = s.part

namespace AfterOr

variable {f g : Formula} {s s' next : Progress}

theorem formula (h : AfterOr f s s') (ended : s.formula? = some g) :
    ∃ g', s'.formula? = some g' ∧ g'.Regroups (.or f g) := by
  obtain ⟨c, conjunction, rfl⟩ := Option.map_eq_some_iff.1 ended
  have same : s'.conjunction? = some c := by
    rw [Progress.conjunction?, h.conjuncts, h.part]
    exact conjunction
  exact ⟨_, by rw [Progress.formula?, same]; rfl, h.alternatives.joined c⟩

theorem step (h : AfterOr f s s') {p : Piece} (stepped : s.step p = some next) :
    ∃ next', s'.step p = some next' ∧ AfterOr f next next' := by
  rcases Progress.step_cases stepped with ⟨connective, between, rfl⟩ |
    ⟨connective, between, c, conjunction, rfl⟩ |
    ⟨connective, g, ended, rfl⟩ | ⟨connective, part, extended, rfl⟩
  · refine ⟨{ s' with part := s.part.resume }, ?_, h.alternatives, h.conjuncts, rfl⟩
    simp [Progress.step, connective, h.part, between]
  · have same : s'.conjunction? = some c := by
      rw [Progress.conjunction?, h.conjuncts, h.part]
      exact conjunction
    refine ⟨{ alternatives := s'.alternatives, conjuncts := some c }, ?_, h.alternatives, rfl, rfl⟩
    simp [Progress.step, connective, h.part, between, same]
  · obtain ⟨g', same, regroups⟩ := h.formula ended
    refine ⟨{ alternatives := some g' }, ?_, ⟨g', rfl, regroups⟩, rfl, rfl⟩
    simp [Progress.step, connective, same]
  · refine ⟨{ s' with part }, ?_, h.alternatives, h.conjuncts, rfl⟩
    simp [Progress.step, connective, h.part, extended]

theorem readFrom (h : AfterOr f s s') {ys : List Piece} (read : readFrom s ys = some g) :
    ∃ g', Reading.readFrom s' ys = some g' ∧ g'.Regroups (.or f g) := by
  induction ys generalizing s s' with
  | nil => exact h.formula read
  | cons p rest ih =>
    obtain ⟨next, stepped, read⟩ := Option.bind_eq_some_iff.1 read
    obtain ⟨next', same, later⟩ := h.step stepped
    obtain ⟨g', others, regroups⟩ := ih later read
    exact ⟨g', by rw [Reading.readFrom, same, Option.bind_some, others], regroups⟩

end AfterOr

structure AfterAnd (f : Formula) (s s' : Progress) : Prop where
  none : s.alternatives = none
  alternatives : s'.alternatives = s.alternatives
  conjuncts : Follows .and f s.conjuncts s'.conjuncts
  part : s'.part = s.part

namespace AfterAnd

variable {f g : Formula} {s s' next : Progress}

theorem conjunction (h : AfterAnd f s s') (ended : s.conjunction? = some g) :
    ∃ g', s'.conjunction? = some g' ∧ g'.Regroups (.and f g) := by
  obtain ⟨c, operand, rfl⟩ := Option.map_eq_some_iff.1 ended
  exact ⟨_, by rw [Progress.conjunction?, h.part, operand]; rfl, h.conjuncts.joined c⟩

theorem formula (h : AfterAnd f s s') (ended : s.formula? = some g) :
    ∃ g', s'.formula? = some g' ∧ g'.Regroups (.and f g) := by
  obtain ⟨c, conjunction, rfl⟩ := Option.map_eq_some_iff.1 ended
  obtain ⟨c', same, regroups⟩ := h.conjunction conjunction
  refine ⟨c', ?_, ?_⟩
  · rw [Progress.formula?, same, h.alternatives, h.none]
    rfl
  · rw [h.none]
    exact regroups

/-- A step goes along, or it is OR. -/
theorem step (h : AfterAnd f s s') {p : Piece} (stepped : s.step p = some next) :
    (∃ next', s'.step p = some next' ∧ AfterAnd f next next') ∨ ∃ d, next.alternatives = some d := by
  rcases Progress.step_cases stepped with ⟨connective, between, rfl⟩ |
    ⟨connective, between, c, conjunction, rfl⟩ |
    ⟨connective, g, ended, rfl⟩ | ⟨connective, part, extended, rfl⟩
  · refine .inl ⟨{ s' with part := s.part.resume }, ?_, h.none, h.alternatives, h.conjuncts, rfl⟩
    simp [Progress.step, connective, h.part, between]
  · obtain ⟨c', same, regroups⟩ := h.conjunction conjunction
    refine .inl ⟨{ alternatives := s'.alternatives, conjuncts := some c' }, ?_, h.none, h.alternatives,
      ⟨c', rfl, regroups⟩, rfl⟩
    simp [Progress.step, connective, h.part, between, same]
  · exact .inr ⟨g, rfl⟩
  · refine .inl ⟨{ s' with part }, ?_, h.none, h.alternatives, h.conjuncts, rfl⟩
    simp [Progress.step, connective, h.part, extended]

end AfterAnd

theorem isOr_of_alternatives {s : Progress} {d g : Formula} {ys : List Piece}
    (alternatives : s.alternatives = some d) (read : readFrom s ys = some g) : g.isOr = true := by
  induction ys generalizing s d with
  | nil =>
    obtain ⟨c, _, same⟩ := Option.map_eq_some_iff.1 read
    rw [alternatives] at same
    cases same
    rfl
  | cons p rest ih =>
    obtain ⟨next, stepped, read⟩ := Option.bind_eq_some_iff.1 read
    have kept : ∃ d', next.alternatives = some d' := by
      rcases Progress.step_cases stepped with ⟨_, _, rfl⟩ | ⟨_, _, c, _, rfl⟩ | ⟨_, d', _, rfl⟩ |
        ⟨_, part, _, rfl⟩
      · exact ⟨d, alternatives⟩
      · exact ⟨d, alternatives⟩
      · exact ⟨d', rfl⟩
      · exact ⟨d, alternatives⟩
    obtain ⟨d', later⟩ := kept
    exact ih later read

theorem AfterAnd.readFrom {f g : Formula} {s s' : Progress} (h : AfterAnd f s s') {ys : List Piece}
    (conjunctive : g.isOr = false) (read : readFrom s ys = some g) :
    ∃ g', Reading.readFrom s' ys = some g' ∧ g'.Regroups (.and f g) := by
  induction ys generalizing s s' with
  | nil => exact h.formula read
  | cons p rest ih =>
    obtain ⟨next, stepped, read⟩ := Option.bind_eq_some_iff.1 read
    rcases h.step stepped with ⟨next', same, later⟩ | ⟨d, alternatives⟩
    · obtain ⟨g', others, regroups⟩ := ih later read
      exact ⟨g', by rw [Reading.readFrom, same, Option.bind_some, others], regroups⟩
    -- An OR outside of brackets would have made a disjunction of the second condition.
    · rw [isOr_of_alternatives alternatives read] at conjunctive
      cases conjunctive

/-- Conditions joined by OR read as the disjunction. -/
theorem readFrom_joined_or {xs ys : List Piece} {f g : Formula} (first : readFrom {} xs = some f)
    (second : readFrom {} ys = some g) :
    ∃ h, readFrom {} (xs ++ .token (connectiveToken .or) :: ys) = some h ∧ h.Regroups (.or f g) := by
  rw [readFrom_or first]
  have start : AfterOr f {} { alternatives := some f } := ⟨⟨f, rfl, .refl f⟩, rfl, rfl⟩
  exact start.readFrom second

/-- Conditions joined by AND read as the conjunction, if neither is a disjunction. -/
theorem readFrom_joined_and {xs ys : List Piece} {f g : Formula} (first : readFrom {} xs = some f)
    (second : readFrom {} ys = some g) (hf : f.isOr = false) (hg : g.isOr = false) :
    ∃ h, readFrom {} (xs ++ .token (connectiveToken .and) :: ys) = some h ∧ h.Regroups (.and f g) := by
  rw [readFrom_and first hf]
  have start : AfterAnd f {} { conjuncts := some f } := ⟨rfl, rfl, ⟨f, rfl, .refl f⟩, rfl⟩
  exact start.readFrom hg second

end PreparedSql.Reading
