import PreparedSql.Proofs.Reading.Precedence

/-!
# Reading a condition

Brackets come first: what stands in parentheses is read on its own, what stands between CASE and END
belongs to one predicate. The tokens are taken from right to left, so that brackets are opened by
their closing sign. Main statements: a text in parentheses reads as a group (`read_enclosed`), and
texts joined by AND or OR read as the formula that joins them, up to its grouping (`read_joined`).
-/

namespace PreparedSql.Reading

inductive Bracket where
  | parentheses
  | caseEnd
  deriving DecidableEq

namespace Bracket

def opening : Bracket → Token
  | parentheses => .opening
  | caseEnd => .keyword "CASE"

def closing : Bracket → Token
  | parentheses => .closing
  | caseEnd => .keyword "END"

def piece (b : Bracket) (inside : List Piece) : Piece :=
  .brackets (b.opening :: inside.flatMap Piece.tokens ++ [b.closing])
    (match b with
    | parentheses => readFrom {} inside
    | caseEnd => none)

end Bracket

def Token.opens? (t : Token) : Option Bracket :=
  [Bracket.parentheses, .caseEnd].find? fun b => t = b.opening

def Token.closes? (t : Token) : Option Bracket :=
  [Bracket.parentheses, .caseEnd].find? fun b => t = b.closing

/-- The pieces so far, at each level of brackets whose opening sign is still to come. -/
inductive Levels where
  | outermost (ps : List Piece)
  | within (ps : List Piece) (b : Bracket) (outer : Levels)

namespace Levels

def prepend (ps : List Piece) : Levels → Levels
  | outermost qs => outermost (ps ++ qs)
  | within qs b outer => within (ps ++ qs) b outer

def step (t : Token) (l : Levels) : Option Levels :=
  match t.closes? with
  | some b => some (within [] b l)
  | none =>
    match t.opens? with
    | none => some (l.prepend [.token t])
    | some b =>
      match l with
      | outermost _ => none
      | within ps b' outer => if b = b' then some (outer.prepend [b.piece ps]) else none

def onto (l : Levels) : Levels → Levels
  | outermost ps => l.prepend ps
  | within ps b outer => within ps b (l.onto outer)

@[simp] theorem prepend_nil (l : Levels) : l.prepend [] = l := by
  cases l <;> rfl

theorem prepend_append (ps qs : List Piece) (l : Levels) :
    l.prepend (ps ++ qs) = (l.prepend qs).prepend ps := by
  cases l <;> simp [prepend]

theorem onto_prepend (l : Levels) (ps : List Piece) (front : Levels) :
    l.onto (front.prepend ps) = (l.onto front).prepend ps := by
  cases front with
  | outermost qs => exact prepend_append ps qs l
  | within qs b outer => rfl

theorem step_onto {t : Token} {front next : Levels} (stepped : front.step t = some next) (l : Levels) :
    (l.onto front).step t = some (l.onto next) := by
  unfold step at stepped ⊢
  cases closes : t.closes? with
  | some b =>
    rw [closes] at stepped
    cases stepped
    rfl
  | none =>
    rw [closes] at stepped
    cases opens : t.opens? with
    | none =>
      rw [opens] at stepped
      cases stepped
      exact congrArg some (onto_prepend l _ front).symm
    | some b =>
      rw [opens] at stepped
      cases front with
      | outermost ps => cases stepped
      | within ps b' outer =>
        dsimp only at stepped ⊢
        split at stepped
        · rename_i same
          cases stepped
          rw [onto, onto_prepend]
          exact if_pos same
        · cases stepped

end Levels

def collect : List Token → Levels → Option Levels
  | [], l => some l
  | t :: rest, l => (collect rest l).bind fun next => next.step t

def pieces (ts : List Token) : Option (List Piece) :=
  match collect ts (.outermost []) with
  | some (.outermost ps) => some ps
  | _ => none

def readTokens (ts : List Token) : Option Formula :=
  (pieces ts).bind (readFrom {})

/-- The formula that the text says, if it is a condition. -/
def read (sql : String) : Option Formula :=
  (tokens sql).bind readTokens

theorem collect_append (xs ys : List Token) (l : Levels) :
    collect (xs ++ ys) l = (collect ys l).bind (collect xs) := by
  induction xs with
  | nil =>
    have same : (collect ys l).bind (collect []) = collect ys l := by cases collect ys l <;> rfl
    exact same.symm
  | cons t rest ih => rw [List.cons_append, collect, ih, Option.bind_assoc]; rfl

theorem collect_onto {ts : List Token} {front next : Levels} (collected : collect ts front = some next)
    (l : Levels) : collect ts (l.onto front) = some (l.onto next) := by
  induction ts generalizing next with
  | nil =>
    cases collected
    rfl
  | cons t rest ih =>
    obtain ⟨inner, others, stepped⟩ := Option.bind_eq_some_iff.1 collected
    rw [collect, ih others]
    exact Levels.step_onto stepped l

/-- Balanced tokens add their pieces to what stands behind them, at any level. -/
theorem collect_of_pieces {ts : List Token} {ps : List Piece} (balanced : pieces ts = some ps)
    (l : Levels) :
    collect ts l = some (l.prepend ps) := by
  unfold pieces at balanced
  split at balanced
  · rename_i collected
    cases balanced
    have onto := collect_onto collected l
    rwa [Levels.onto, Levels.prepend_nil] at onto
  · cases balanced

theorem pieces_append {xs ys : List Token} {ps qs : List Piece} (first : pieces xs = some ps)
    (second : pieces ys = some qs) : pieces (xs ++ ys) = some (ps ++ qs) := by
  rw [pieces, collect_append, collect_of_pieces second, Option.bind_some, collect_of_pieces first]
  simp [Levels.prepend]

theorem pieces_enclosed {ts : List Token} {ps : List Piece} (balanced : pieces ts = some ps) :
    pieces (.opening :: ts ++ [.closing]) = some [Bracket.parentheses.piece ps] := by
  have closed : collect [.closing] (.outermost []) = some (.within [] .parentheses (.outermost [])) := rfl
  rw [pieces, List.cons_append, collect, collect_append, closed, Option.bind_some,
    collect_of_pieces balanced]
  simp [Levels.prepend]
  rfl

theorem readTokens_enclosed {ts : List Token} {f : Formula} (read : readTokens ts = some f) :
    readTokens (.opening :: ts ++ [.closing]) = some (.group f) := by
  obtain ⟨ps, balanced, inside⟩ := Option.bind_eq_some_iff.1 read
  rw [readTokens, pieces_enclosed balanced, Option.bind_some]
  simp [readFrom, Bracket.piece, Progress.step, Piece.connective?, Part.extend, inside, Progress.formula?,
    Progress.conjunction?, Part.formula?, joined]

/-- Two conditions joined by a connective read as what joins them, if AND joins no disjunction. -/
theorem readTokens_joined {xs ys : List Token} {f g : Formula} (op : Connective)
    (first : readTokens xs = some f)
    (second : readTokens ys = some g) (conjunctive : op = .and → f.isOr = false ∧ g.isOr = false) :
    ∃ h, readTokens (xs ++ connectiveToken op :: ys) = some h ∧ h.Regroups (.join op f g) := by
  obtain ⟨ps, balanced, left⟩ := Option.bind_eq_some_iff.1 first
  obtain ⟨qs, balanced', right⟩ := Option.bind_eq_some_iff.1 second
  have keyword : pieces [connectiveToken op] = some [.token (connectiveToken op)] := by cases op <;> rfl
  have all : pieces (xs ++ connectiveToken op :: ys) = some (ps ++ .token (connectiveToken op) :: qs) :=
    pieces_append balanced (pieces_append keyword balanced')
  rw [readTokens, all, Option.bind_some]
  cases op with
  | and =>
    obtain ⟨hf, hg⟩ := conjunctive rfl
    exact readFrom_joined_and left right hf hg
  | or => exact readFrom_joined_or left right

theorem read_enclosed {sql : String} {f : Formula} (inside : read sql = some f) :
    read ("(" ++ sql ++ ")") = some (.group f) := by
  obtain ⟨ts, lexed, said⟩ := Option.bind_eq_some_iff.1 inside
  rw [read, tokens_enclosed lexed, Option.bind_some, readTokens_enclosed said]

/-- Texts that a connective joins read as the formula that it joins, if AND joins no disjunction. -/
theorem read_joined {a b : String} {f g : Formula} (op : Connective) (first : read a = some f)
    (second : read b = some g) (conjunctive : op = .and → f.isOr = false ∧ g.isOr = false) :
    ∃ h, read (a ++ op.keyword ++ b) = some h ∧ h.Regroups (.join op f g) := by
  obtain ⟨xs, lexed, left⟩ := Option.bind_eq_some_iff.1 first
  obtain ⟨ys, lexed', right⟩ := Option.bind_eq_some_iff.1 second
  rw [read, tokens_joined op lexed lexed', Option.bind_some]
  exact readTokens_joined op left right conjunctive

example : read "(`a`=? OR x BETWEEN 1 AND 2) AND CASE WHEN p OR q THEN (1) END" = some
    (.and (.group (.or (.predicate [.quoted .backtick ['a'], .sign '=', .placeholder])
      (.predicate [.keyword "X", .keyword "BETWEEN", .word ['1'], .keyword "AND", .word ['2']])))
      (.predicate [.keyword "CASE", .keyword "WHEN", .keyword "P", .keyword "OR", .keyword "Q", .keyword "THEN",
        .opening, .word ['1'], .closing, .keyword "END"])) := by
  decide

def Token.isPlain : Token → Bool
  | quoted .. | sign _ | placeholder => true
  | word _ | comma | opening | closing => false

theorem pieces_of_plain {ts : List Token} (plain : ∀ t ∈ ts, t.isPlain = true) :
    pieces ts = some (ts.map .token) := by
  induction ts with
  | nil => rfl
  | cons t rest ih =>
    have first : pieces [t] = some [.token t] := by
      have own := plain t List.mem_cons_self
      cases t with
      | quoted | sign | placeholder => rfl
      | word | comma | opening | closing => cases own
    exact pieces_append first (ih fun t member => plain t (List.mem_cons_of_mem _ member))

theorem readFrom_of_plain {front ts : List Token} (plain : ∀ t ∈ ts, t.isPlain = true)
    (filled : front ++ ts ≠ []) :
    readFrom { part := { tokens := front } } (ts.map .token) = some (.predicate (front ++ ts)) := by
  induction ts generalizing front with
  | nil =>
    have begun : front.isEmpty = false := by simpa using filled
    simp [readFrom, Progress.formula?, Progress.conjunction?, Part.formula?, joined, begun]
  | cons t rest ih =>
    have stepped : Progress.step { part := { tokens := front } } (.token t) =
        some { part := { tokens := front ++ [t] } } := by
      have own := plain t List.mem_cons_self
      cases t with
      | quoted | sign | placeholder => rfl
      | word | comma | opening | closing => cases own
    have later := @ih (front ++ [t]) (fun t member => plain t (List.mem_cons_of_mem _ member)) (by simp)
    rw [List.map_cons, readFrom, stepped, Option.bind_some, later]
    simp

theorem readTokens_of_plain {ts : List Token} (plain : ∀ t ∈ ts, t.isPlain = true) (filled : ts ≠ []) :
    readTokens ts = some (.predicate ts) := by
  rw [readTokens, pieces_of_plain plain, Option.bind_some]
  exact @readFrom_of_plain [] ts plain filled

end PreparedSql.Reading
