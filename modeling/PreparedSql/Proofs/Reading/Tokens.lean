import PreparedSql.Expr.Condition

/-!
# Tokens of a text

Texts are read from tokens. Comments, statement ends and the signs that join conditions under
another name are not read, nor is a text that ends inside a quotation. Main statements: spaces,
commas and parentheses end whatever stands before them (`tokensFrom_append`), so texts that they keep
apart have their own tokens (`tokens_apart`, `tokens_intercalate`).
-/

namespace PreparedSql.Reading

open Text

inductive Mark where
  | backtick
  | single
  | double
  deriving DecidableEq

def Mark.sign : Mark → Char
  | backtick => Text.backtick
  | single => Char.ofNat 39
  | double => Char.ofNat 34

def mark? (c : Char) : Option Mark :=
  [Mark.backtick, .single, .double].find? fun mark => mark.sign = c

def backslash : Char := Char.ofNat 92

def isOperatorSign (c : Char) : Bool :=
  "=<>!+-*/%^~&|".toList.contains c

/-- The two signs in a row open a comment or stand for AND or OR. -/
def excludes (first second : Char) : Bool :=
  [('-', '-'), ('/', '*'), ('&', '&'), ('|', '|')].contains (first, second)

def isWordSign (c : Char) : Bool :=
  isWordPart c || c == '.' || c == '@' || 0x80 ≤ c.toNat

def isNumber : List Char → Bool
  | '.' :: c :: _ => c.isDigit
  | c :: _ => c.isDigit
  | [] => false

/-- A keyword may follow the point of a number without a space, so only the letter of an exponent is
read there. -/
def isReadable (letters : List Char) : Bool :=
  !(isNumber letters && letters.contains '.') || letters.all fun c => !c.isAlpha || c.toUpper == 'E'

inductive Token where
  | word (letters : List Char)
  | quoted (mark : Mark) (text : List Char)
  | sign (c : Char)
  | placeholder
  | comma
  | opening
  | closing
  deriving DecidableEq

def Token.keyword (letters : String) : Token :=
  .word letters.toList

inductive State where
  | between
  | sign (last : Char)
  | word (letters : List Char)
  | inside (mark : Mark) (text : List Char)
  | escaped (mark : Mark) (text : List Char)
  | closed (mark : Mark) (text : List Char)

namespace State

def ending : State → Option (List Token)
  | between | sign _ => some []
  | word letters => if isReadable letters then some [.word (letters.map Char.toUpper)] else none
  | inside .. | escaped .. => none
  | closed mark text => some [.quoted mark text]

def start (c : Char) : Option (State × List Token) :=
  if c.isWhitespace then some (between, [])
  else if c = '(' then some (between, [.opening])
  else if c = ')' then some (between, [.closing])
  else if c = ',' then some (between, [.comma])
  else if c = Text.placeholder then some (between, [.placeholder])
  else if isOperatorSign c then some (sign c, [.sign c])
  else if isWordSign c then some (word [c], [])
  else
    match mark? c with
    | some mark => some (inside mark [], [])
    | none => none

def restart (s : State) (c : Char) : Option (State × List Token) :=
  match s.ending, start c with
  | some ts, some (next, more) => some (next, ts ++ more)
  | _, _ => none

def step (s : State) (c : Char) : Option (State × List Token) :=
  match s with
  | between => start c
  | sign last => if excludes last c then none else start c
  | word letters => if isWordSign c then some (word (letters ++ [c]), []) else s.restart c
  | inside mark text =>
    if c = mark.sign then some (closed mark text, [])
    else if c = backslash ∧ mark ≠ .backtick then some (escaped mark (text ++ [c]), [])
    else some (inside mark (text ++ [c]), [])
  | escaped mark text => some (inside mark (text ++ [c]), [])
  | closed mark text => if c = mark.sign then some (inside mark (text ++ [c, c]), []) else s.restart c

end State

def tokensFrom (s : State) : List Char → Option (List Token)
  | [] => s.ending
  | c :: rest =>
    match s.step c with
    | none => none
    | some (next, ts) => (tokensFrom next rest).map (ts ++ ·)

def tokens (sql : String) : Option (List Token) :=
  tokensFrom .between sql.toList

example : tokens "(`a b`>=? or x NOT IN (1.5, 'it''s'))" =
    some [.opening, .quoted .backtick "a b".toList, .sign '>', .sign '=', .placeholder, .keyword "OR", .keyword "X",
      .keyword "NOT", .keyword "IN", .opening, .word ['1', '.', '5'], .comma, .quoted .single "it''s".toList,
      .closing, .closing] := by
  decide

/-- The character ends what stands before it, and is itself the given tokens. -/
structure Ends (d : Char) (ts : List Token) : Prop where
  start : State.start d = some (.between, ts)
  word : isWordSign d = false
  sign : ∀ last, excludes last d = false
  mark : ∀ mark : Mark, d ≠ mark.sign

theorem not_excludes {d : Char} (sign : isOperatorSign d = false) (last : Char) : excludes last d = false := by
  rw [Bool.eq_false_iff]
  intro pair
  simp only [excludes, List.contains_eq_mem, List.mem_cons, Prod.mk.injEq, List.not_mem_nil, or_false,
    decide_eq_true_eq] at pair
  rcases pair with ⟨_, rfl⟩ | ⟨_, rfl⟩ | ⟨_, rfl⟩ | ⟨_, rfl⟩ <;> cases sign

theorem ne_sign_of_mark? {d : Char} (unmarked : mark? d = none) (mark : Mark) : d ≠ mark.sign := by
  have apart := List.find?_eq_none.1 unmarked mark (by cases mark <;> decide)
  rintro rfl
  simp at apart

theorem Ends.of {d : Char} {ts : List Token} (start : State.start d = some (.between, ts))
    (word : isWordSign d = false) (sign : isOperatorSign d = false) (unmarked : mark? d = none) : Ends d ts where
  start := start
  word := word
  sign := not_excludes sign
  mark := ne_sign_of_mark? unmarked

theorem ends_space : Ends ' ' [] :=
  .of rfl rfl rfl rfl

theorem ends_newline : Ends '\n' [] :=
  .of rfl rfl rfl rfl

theorem ends_comma : Ends ',' [.comma] :=
  .of rfl rfl rfl rfl

theorem ends_opening : Ends '(' [.opening] :=
  .of rfl rfl rfl rfl

theorem ends_closing : Ends ')' [.closing] :=
  .of rfl rfl rfl rfl

theorem State.step_of_ends {s : State} {d : Char} {ts more : List Token} (ends : Ends d more)
    (ending : s.ending = some ts) : s.step d = some (.between, ts ++ more) := by
  cases s with
  | between =>
    cases ending
    exact ends.start
  | sign last =>
    cases ending
    simp [step, ends.sign last, ends.start]
  | word letters => simp [step, ends.word, restart, ending, ends.start]
  | inside mark text => cases ending
  | escaped mark text => cases ending
  | closed mark text => simp [step, ends.mark mark, restart, ending, ends.start]

/-- A character that ends what stands before it divides the reading. -/
theorem tokensFrom_append {d : Char} {more : List Token} (ends : Ends d more) {s : State} {xs : List Char}
    {ts : List Token} (read : tokensFrom s xs = some ts) (ys : List Char) :
    tokensFrom s (xs ++ d :: ys) = (tokensFrom .between ys).map (ts ++ more ++ ·) := by
  induction xs generalizing s ts with
  | nil => rw [List.nil_append, tokensFrom, State.step_of_ends ends read]
  | cons c rest ih =>
    rw [List.cons_append, tokensFrom]
    rw [tokensFrom] at read
    cases stepped : s.step c with
    | none =>
      rw [stepped] at read
      cases read
    | some pair =>
      obtain ⟨next, first⟩ := pair
      rw [stepped] at read
      obtain ⟨others, later, rfl⟩ := Option.map_eq_some_iff.1 read
      simp only [ih later, Option.map_map]
      congr 1
      funext ts
      simp

/-- Characters in a row that end what stands before them; together they are the given tokens. -/
inductive Separates : List Char → List Token → Prop where
  | single {d : Char} {ts : List Token} (ends : Ends d ts) : Separates [d] ts
  | cons {d : Char} {ds : List Char} {ts more : List Token} (ends : Ends d ts)
      (others : Separates ds more) : Separates (d :: ds) (ts ++ more)

theorem Separates.tokensFrom {ds : List Char} {more : List Token} (separates : Separates ds more) {s : State}
    {xs : List Char} {ts : List Token} (read : tokensFrom s xs = some ts) (ys : List Char) :
    Reading.tokensFrom s (xs ++ (ds ++ ys)) = (Reading.tokensFrom .between ys).map (ts ++ more ++ ·) := by
  induction separates generalizing s xs ts with
  | single ends => exact tokensFrom_append ends read ys
  | @cons d ds own more ends others ih =>
    have rest := @ih .between [] [] rfl
    rw [List.nil_append, List.nil_append] at rest
    rw [List.cons_append, tokensFrom_append ends read, rest, Option.map_map]
    congr 1
    funext later
    simp

/-- Texts with a separator between them are read each on its own. -/
theorem tokens_apart {a b sep : String} {xs ts ys : List Token} (separates : Separates sep.toList ts)
    (first : tokens a = some xs) (second : tokens b = some ys) :
    tokens (a ++ sep ++ b) = some (xs ++ ts ++ ys) := by
  have apart := separates.tokensFrom first b.toList
  rw [show tokensFrom .between b.toList = some ys from second] at apart
  simpa [tokens] using apart

theorem tokens_space {a b : String} {xs ys : List Token} (first : tokens a = some xs)
    (second : tokens b = some ys) : tokens (a ++ " " ++ b) = some (xs ++ ys) := by
  have separates : Separates " ".toList [] := .single ends_space
  simpa using tokens_apart separates first second

theorem tokens_intercalate {α : Type} {sep : String} {ts : List Token} (separates : Separates sep.toList ts)
    {f : α → String} {g : α → List Token} {items : List α} (each : ∀ a ∈ items, tokens (f a) = some (g a)) :
    tokens (sep.intercalate (items.map f)) = some (ts.intercalate (items.map g)) := by
  induction items with
  | nil => rfl
  | cons a rest ih =>
    obtain ⟨first, others⟩ := List.forall_mem_cons.1 each
    cases rest with
    | nil => simpa using first
    | cons b rest =>
      have apart := tokens_apart separates first (ih others)
      simpa [List.intercalate] using apart

def connectiveToken : Connective → Token
  | .and => .keyword "AND"
  | .or => .keyword "OR"

theorem tokens_joined {a b : String} {xs ys : List Token} (op : Connective) (first : tokens a = some xs)
    (second : tokens b = some ys) :
    tokens (a ++ op.keyword ++ b) = some (xs ++ connectiveToken op :: ys) := by
  have word : ∃ word, op.keyword = " " ++ word ++ " " ∧ tokens word = some [connectiveToken op] := by
    cases op with
    | and => exact ⟨"AND", by decide, by decide⟩
    | or => exact ⟨"OR", by decide, by decide⟩
  obtain ⟨word, spaced, read⟩ := word
  have all : a ++ op.keyword ++ b = a ++ " " ++ (word ++ " " ++ b) := by
    simp [spaced, String.append_assoc]
  rw [all]
  exact tokens_space first (tokens_space read second)

theorem tokens_enclosed {a : String} {xs : List Token} (read : tokens a = some xs) :
    tokens ("(" ++ a ++ ")") = some (.opening :: xs ++ [.closing]) := by
  have closed := tokensFrom_append ends_closing read []
  have opened : tokensFrom .between ('(' :: (a.toList ++ [')'])) =
      (tokensFrom .between (a.toList ++ [')'])).map ([.opening] ++ ·) := rfl
  have all : ("(" ++ a ++ ")").toList = '(' :: (a.toList ++ [')']) := by simp
  rw [tokens, all, opened, closed]
  simp [tokensFrom, State.ending]

/-- The items between the commas, of which there is at least one. -/
def items? {β : Type} (item? : List Token → Option β) (ts : List Token) : Option (List β) :=
  (List.splitOn .comma ts).mapM item?

theorem mapM_written {α β : Type} {item? : List Token → Option β} {write : α → List Token} {value : α → β}
    {items : List α} (read : ∀ a ∈ items, item? (write a) = some (value a)) :
    (items.map write).mapM item? = some (items.map value) := by
  induction items with
  | nil => rfl
  | cons a rest ih =>
    obtain ⟨first, others⟩ := List.forall_mem_cons.1 read
    rw [List.map_cons, List.mapM_cons, first, ih others]
    rfl

/-- Items between commas are read back, if none of them contains a comma. -/
theorem items?_intercalate {α β : Type} {item? : List Token → Option β} {write : α → List Token}
    {value : α → β} {items : List α} (filled : items ≠ [])
    (read : ∀ a ∈ items, item? (write a) = some (value a)) (apart : ∀ a ∈ items, Token.comma ∉ write a) :
    items? item? ([Token.comma].intercalate (items.map write)) = some (items.map value) := by
  have split : List.splitOn .comma ([Token.comma].intercalate (items.map write)) = items.map write := by
    apply List.splitOn_intercalate
    · intro ts member
      obtain ⟨a, listed, rfl⟩ := List.mem_map.1 member
      exact apart a listed
    · simpa using filled
  rw [items?, split, mapM_written read]

theorem State.start_of_isWordSign {c : Char} (sign : isWordSign c = true) :
    start c = some (word [c], []) := by
  have other {d : Char} (apart : isWordSign d = false) : c ≠ d := by
    rintro rfl
    rw [sign] at apart
    cases apart
  have operators : ("=<>!+-*/%^~&|".toList.all fun d => !isWordSign d) = true := by decide
  have space : c ≠ ' ' := other rfl
  have tab : c ≠ '\t' := other rfl
  have ret : c ≠ '\r' := other rfl
  have newline : c ≠ '\n' := other rfl
  have opening : c ≠ '(' := other rfl
  have closing : c ≠ ')' := other rfl
  have comma : c ≠ ',' := other rfl
  have placeholder : c ≠ Text.placeholder := other rfl
  have operator : isOperatorSign c = false := by
    simp only [isOperatorSign, List.contains_eq_mem, decide_eq_false_iff_not]
    intro member
    simpa [sign] using List.all_eq_true.1 operators c member
  simp [start, Char.isWhitespace, space, tab, ret, newline, opening, closing, comma, placeholder,
    operator, sign]

theorem toUpper_of_isDigit {c : Char} (digit : c.isDigit = true) : c.toUpper = c := by
  have small : ¬ ('a'.val ≤ c.val ∧ c.val ≤ 'z'.val) := by
    simp only [Char.isDigit, Bool.and_eq_true, decide_eq_true_eq, UInt32.le_iff_toNat_le] at digit ⊢
    have nine : '9'.val.toNat = 57 := rfl
    have letter : 'a'.val.toNat = 97 := rfl
    omega
  exact dif_neg small

theorem tokensFrom_word {front letters : List Char} (signs : ∀ c ∈ letters, isWordSign c = true) :
    tokensFrom (.word front) letters = (State.word (front ++ letters)).ending := by
  induction letters generalizing front with
  | nil => rw [List.append_nil]; rfl
  | cons c rest ih =>
    obtain ⟨sign, others⟩ := List.forall_mem_cons.1 signs
    have later := @ih (front ++ [c]) others
    rw [tokensFrom]
    simp [State.step, sign, later]

theorem tokens_word {letters : List Char} (filled : letters ≠ [])
    (signs : ∀ c ∈ letters, isWordSign c = true) (readable : isReadable letters = true) :
    tokens (String.ofList letters) = some [.word (letters.map Char.toUpper)] := by
  cases letters with
  | nil => exact absurd rfl filled
  | cons c rest =>
    obtain ⟨sign, others⟩ := List.forall_mem_cons.1 signs
    rw [tokens, String.toList_ofList, tokensFrom, State.step, State.start_of_isWordSign sign]
    have read := @tokensFrom_word [c] rest others
    simp [read, State.ending, readable]

theorem tokens_number (n : Nat) : tokens (toString n) = some [.word (Nat.toDigits 10 n)] := by
  have digits : ∀ c ∈ Nat.toDigits 10 n, c.isDigit = true := by
    intro c member
    exact Nat.isDigit_of_mem_toDigits (by decide) (by decide) member
  have signs : ∀ c ∈ Nat.toDigits 10 n, isWordSign c = true := by
    intro c member
    simp [isWordSign, isWordPart, Char.isAlphanum, digits c member]
  have point : '.' ∉ Nat.toDigits 10 n := fun member => absurd (digits _ member) (by decide)
  have same : (Nat.toDigits 10 n).map Char.toUpper = Nat.toDigits 10 n :=
    (List.map_congr_left fun c member => toUpper_of_isDigit (digits c member)).trans (List.map_id' _)
  have readable : isReadable (Nat.toDigits 10 n) = true := by simp [isReadable, point]
  rw [Nat.toString_eq_ofList_toDigits, tokens_word Nat.toDigits_ne_nil signs readable, same]

theorem tokensFrom_inside {mark : Mark} {text letters : List Char}
    (plain : ∀ c ∈ letters, c ≠ mark.sign ∧ ¬ (c = backslash ∧ mark ≠ .backtick)) (rest : List Char) :
    tokensFrom (.inside mark text) (letters ++ mark.sign :: rest) =
      tokensFrom (.closed mark (text ++ letters)) rest := by
  induction letters generalizing text with
  | nil => simp [tokensFrom, State.step]
  | cons c letters ih =>
    obtain ⟨other, normal⟩ := plain c List.mem_cons_self
    have later := @ih (text ++ [c]) fun d member => plain d (List.mem_cons_of_mem c member)
    rw [List.cons_append, tokensFrom]
    simp [State.step, other, normal, later]

def nameToken (name : Identifier) : Token :=
  .quoted .backtick name.text.toList

theorem tokensFrom_name {s : State} (fresh : s.step backtick = some (.inside .backtick [], []))
    (name : Identifier)
    (rest : List Char) :
    tokensFrom s (name.quoted.toList ++ rest) = tokensFrom (.closed .backtick name.text.toList) rest := by
  have plain : ∀ c ∈ name.text.toList, c ≠ Mark.backtick.sign ∧
    ¬ (c = backslash ∧ Mark.backtick ≠ .backtick) := by
    intro c member
    have part := List.all_eq_true.1 (all_isWordPart_of_isWord name.isWord_text) c member
    refine ⟨?_, by simp⟩
    rintro rfl
    exact absurd part (by decide)
  have whole : name.quoted.toList ++ rest =
    backtick :: (name.text.toList ++ Mark.backtick.sign :: rest) := by
    have sign : "`".toList = [backtick] := by decide
    simp [Identifier.quoted, sign, Mark.sign]
  rw [whole, tokensFrom, fresh]
  simp [tokensFrom_inside plain rest]

/-- A quoted name is one token, whatever the name. -/
theorem tokens_name (name : Identifier) : tokens name.quoted = some [nameToken name] := by
  have fresh : State.between.step backtick = some (.inside .backtick [], []) := rfl
  have read := tokensFrom_name fresh name []
  rwa [List.append_nil] at read

theorem separates_comma : Separates ", ".toList [.comma] :=
  .cons ends_comma (.single ends_space)

/-- The signs that mean the comparison to a reader of SQL. -/
def comparisonTokens : Comparison → List Token
  | .eq => [.sign '=']
  | .ne => [.sign '<', .sign '>']
  | .gt => [.sign '>']
  | .ge => [.sign '>', .sign '=']
  | .lt => [.sign '<']
  | .le => [.sign '<', .sign '=']

def lastSign (op : Comparison) : Char :=
  match op with
  | .eq | .ge | .le => '='
  | .ne | .gt => '>'
  | .lt => '<'

/-- What is written for a comparison are its signs. -/
theorem tokensFrom_comparison (text : List Char) (op : Comparison) (rest : List Char) :
    tokensFrom (.closed .backtick text) (op.symbol.toList ++ rest) =
      (tokensFrom (.sign (lastSign op)) rest).map
        (.quoted .backtick text :: comparisonTokens op ++ ·) := by
  cases op with
  | eq => rfl
  | gt => rfl
  | lt => rfl
  | ne | ge | le => exact Option.map_map _ _ _

theorem tokens_compare_placeholder (name : Identifier) (op : Comparison) :
    tokens (name.quoted ++ op.symbol ++ "?") =
      some (nameToken name :: comparisonTokens op ++ [.placeholder]) := by
  have sign : tokensFrom (.sign (lastSign op)) ['?'] = some [.placeholder] := by cases op <;> rfl
  have all : (name.quoted ++ op.symbol ++ "?").toList =
    name.quoted.toList ++ (op.symbol.toList ++ ['?']) := by simp
  rw [tokens, all, tokensFrom_name rfl, tokensFrom_comparison, sign]
  rfl

theorem tokens_compare_name (name : Identifier) (op : Comparison) (other : Identifier) :
    tokens (name.quoted ++ op.symbol ++ other.quoted) =
      some (nameToken name :: comparisonTokens op ++ [nameToken other]) := by
  have fresh : (State.sign (lastSign op)).step backtick = some (.inside .backtick [], []) := by
    cases op <;> rfl
  have column := tokensFrom_name fresh other []
  have all : (name.quoted ++ op.symbol ++ other.quoted).toList =
      name.quoted.toList ++ (op.symbol.toList ++ (other.quoted.toList ++ [])) := by simp
  rw [tokens, all, tokensFrom_name rfl, tokensFrom_comparison, column]
  rfl

end PreparedSql.Reading
