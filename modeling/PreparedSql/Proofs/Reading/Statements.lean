import PreparedSql.Proofs.Reading.Outlines

/-!
# Reading a statement

A statement is cut at the keywords of its clauses, and each part is read on its own. Main statement: the
text of a query that can be executed reads as the query's outline, so that queries with the same text have
the same outline up to the grouping of equal connectives (`Query.render_unambiguous`).
-/

namespace PreparedSql

open Text

namespace Reading

def clauseWords : List Token :=
  [.keyword "SET", .keyword "WHERE", .keyword "LIMIT"]

def Bare (ts : List Token) : Prop :=
  ∀ k ∈ clauseWords, k ∉ ts

instance (ts : List Token) : Decidable (Bare ts) :=
  inferInstanceAs (Decidable (∀ k ∈ clauseWords, k ∉ ts))

theorem bare_append {xs ys : List Token} (first : Bare xs) (second : Bare ys) : Bare (xs ++ ys) := by
  intro k keyword member
  rcases List.mem_append.1 member with member | member
  · exact first k keyword member
  · exact second k keyword member

theorem not_mem_intercalate {t : Token} (other : t ≠ .comma) {lists : List (List Token)}
    (absent : ∀ ts ∈ lists, t ∉ ts) : t ∉ [Token.comma].intercalate lists := by
  induction lists with
  | nil => simp
  | cons ts rest ih =>
    obtain ⟨first, others⟩ := List.forall_mem_cons.1 absent
    cases rest with
    | nil => simpa using first
    | cons us rest =>
      have later := ih others
      simp only [List.intercalate, List.intersperse_cons_cons, List.flatten_cons] at later ⊢
      simp [first, other, later]

theorem bare_intercalate {lists : List (List Token)} (bare : ∀ ts ∈ lists, Bare ts) :
    Bare ([Token.comma].intercalate lists) := by
  intro k keyword
  refine not_mem_intercalate ?_ fun ts member => bare ts member k keyword
  rintro rfl
  exact absurd keyword (by decide)

def clause (k : Token) : Option (List Token) → List Token
  | none => []
  | some ts => k :: ts

def cut (k : Token) : List Token → List Token × Option (List Token)
  | [] => ([], none)
  | t :: rest => if t = k then ([], some rest) else (t :: (cut k rest).1, (cut k rest).2)

theorem cut_clause {k : Token} {xs : List Token} (absent : k ∉ xs) (after : Option (List Token)) :
    cut k (xs ++ clause k after) = (xs, after) := by
  induction xs with
  | nil =>
    cases after with
    | none => rfl
    | some ts => simp [clause, cut]
  | cons t rest ih =>
    obtain ⟨other, absent⟩ := not_or.1 (mt List.mem_cons.2 absent)
    rw [List.cons_append, cut, if_neg (Ne.symm other), ih absent]

/-- The tokens of a statement before its first clause, and of each clause. -/
structure Layout where
  head : List Token
  assignments : Option (List Token) := none
  condition : Option (List Token) := none
  limit : Option (List Token) := none

namespace Layout

def front (l : Layout) : List Token :=
  l.head ++ clause (.keyword "SET") l.assignments

def unlimited (l : Layout) : List Token :=
  l.front ++ clause (.keyword "WHERE") l.condition

def tokens (l : Layout) : List Token :=
  l.unlimited ++ clause (.keyword "LIMIT") l.limit

def ofTokens (ts : List Token) : Layout :=
  let limit := cut (.keyword "LIMIT") ts
  let condition := cut (.keyword "WHERE") limit.1
  let assignments := cut (.keyword "SET") condition.1
  { head := assignments.1, assignments := assignments.2, condition := condition.2, limit := limit.2 }

structure IsBare (l : Layout) : Prop where
  head : Bare l.head
  assignments : ∀ ts ∈ l.assignments, Bare ts
  condition : ∀ ts ∈ l.condition, Bare ts

theorem not_mem_clause {k k' : Token} (keyword : k ∈ clauseWords) (other : k ≠ k')
    {part : Option (List Token)} (bare : ∀ ts ∈ part, Bare ts) : k ∉ clause k' part := by
  cases part with
  | none => simp [clause]
  | some ts => simp [clause, other, bare ts rfl k keyword]

/-- A layout is found again in its tokens, since no part contains the word of a clause. -/
theorem ofTokens_tokens {l : Layout} (bare : l.IsBare) : ofTokens l.tokens = l := by
  have front {k : Token} (keyword : k ∈ clauseWords) (other : k ≠ .keyword "SET") : k ∉ l.front := by
    simp [Layout.front, bare.head k keyword, not_mem_clause keyword other bare.assignments]
  have unlimited : .keyword "LIMIT" ∉ l.unlimited := by
    have condition : .keyword "LIMIT" ∉ clause (.keyword "WHERE") l.condition :=
      not_mem_clause (by decide) (by decide) bare.condition
    have front : .keyword "LIMIT" ∉ l.front := front (by decide) (by decide)
    simp [Layout.unlimited, front, condition]
  have where' : .keyword "WHERE" ∉ l.front := front (by decide) (by decide)
  have limit : cut (.keyword "LIMIT") l.tokens = (l.unlimited, l.limit) := cut_clause unlimited l.limit
  have condition : cut (.keyword "WHERE") l.unlimited = (l.front, l.condition) :=
    cut_clause where' l.condition
  have assignments : cut (.keyword "SET") l.front = (l.head, l.assignments) :=
    cut_clause (bare.head (.keyword "SET") (by decide)) l.assignments
  simp only [ofTokens, limit, condition, assignments]

end Layout

def name? : List Token → Option String
  | [.quoted .backtick name] => some (String.ofList name)
  | _ => none

def names? (ts : List Token) : Option (List String) :=
  if ts = [] then some [] else items? name? ts

def setting? : List Token → Option Setting
  | [.quoted .backtick target, .sign '=', last] =>
    (source? last).map fun source => (String.ofList target, source)
  | _ => none

def placeholders (count : Nat) : List Token :=
  [Token.comma].intercalate (List.replicate count [.placeholder])

def selectHead? (ts : List Token) : Option Heading :=
  match cut (.keyword "FROM") ts with
  | (names, some [.quoted .backtick table]) =>
    (names? names).map fun columns => { verb := .select, table := String.ofList table, columns }
  | _ => none

def insertHead? : List Token → Option Heading
  | .word into :: .quoted .backtick table :: .opening :: ts =>
    match cut .closing ts with
    | (names, some (.word values :: .opening :: marks)) =>
      (names? names).bind fun columns =>
        if into = "INTO".toList ∧ values = "VALUES".toList ∧
            marks = placeholders columns.length ++ [.closing] then
          some { verb := .insert, table := String.ofList table, columns }
        else none
    | _ => none
  | _ => none

def updateHead? : List Token → Option Heading
  | [.quoted .backtick table] => some { verb := .update, table := String.ofList table }
  | _ => none

def deleteHead? : List Token → Option Heading
  | [.word preposition, .quoted .backtick table] =>
    if preposition = "FROM".toList then some { verb := .delete, table := String.ofList table } else none
  | _ => none

def head? : List Token → Option Heading
  | .word verb :: ts =>
    if verb = "SELECT".toList then selectHead? ts
    else if verb = "INSERT".toList then insertHead? ts
    else if verb = "UPDATE".toList then updateHead? ts
    else if verb = "DELETE".toList then deleteHead? ts
    else none
  | _ => none

theorem head?_select (ts : List Token) : head? (.keyword "SELECT" :: ts) = selectHead? ts := rfl

theorem head?_insert (ts : List Token) : head? (.keyword "INSERT" :: ts) = insertHead? ts := rfl

def condition? (ts : List Token) : Option Sentence :=
  (readTokens ts).bind Formula.sentence?

def Layout.outline? (l : Layout) : Option Outline :=
  match head? l.head, l.assignments.mapM (items? setting?), l.condition.mapM condition? with
  | some heading, some settings, some condition =>
    if ∀ ts ∈ l.limit, ts = [.placeholder] then
      some ⟨heading, settings.getD [], condition, l.limit.isSome⟩
    else none
  | _, _, _ => none

structure Layout.Says (l : Layout) (o : Outline) : Prop where
  heading : head? l.head = some o.toHeading
  settings : ∃ settings, l.assignments.mapM (items? setting?) = some settings ∧ settings.getD [] = o.settings
  condition : l.condition.mapM condition? = some o.condition
  limit : ∀ ts ∈ l.limit, ts = [.placeholder]
  limited : l.limit.isSome = o.limited

theorem Layout.Says.outline? {l : Layout} {o : Outline} (said : l.Says o) : l.outline? = some o := by
  obtain ⟨settings, read, given⟩ := said.settings
  simp only [Layout.outline?, said.heading, read, said.condition, if_pos said.limit, given, said.limited]

/-- WHERE and LIMIT may follow: an update sets something, and nothing else does. -/
def Outline.isOpen (o : Outline) : Bool :=
  match o.verb with
  | .select | .delete => o.settings.isEmpty
  | .update => !o.settings.isEmpty
  | .insert => false

/-- The outline is that of a statement; an insertion has no clauses. -/
def Outline.isComplete (o : Outline) : Bool :=
  o.isOpen || (o.verb == .insert && o.settings.isEmpty && o.condition.isNone && !o.limited)

def readStatement (sql : String) : Option Outline :=
  ((tokens sql).bind fun ts => (Layout.ofTokens ts).outline?).filter Outline.isComplete

variable {M : Model}

def nameTokens (columns : List (Column M)) : List Token :=
  [Token.comma].intercalate (columns.map fun c => [nameToken c.name])

theorem tokens_quotedList (columns : List (Column M)) :
    tokens (Column.quotedList columns) = some (nameTokens columns) :=
  tokens_intercalate separates_comma fun c _ => tokens_name c.name

theorem tokens_placeholders (columns : List (Column M)) :
    tokens (Column.placeholders columns) = some (placeholders columns.length) := by
  have read : tokens "?" = some [.placeholder] := rfl
  have listed := tokens_intercalate separates_comma fun c (_ : c ∈ columns) => read
  rw [Column.placeholders, listed, placeholders, List.map_const']

theorem not_mem_nameTokens {t : Token} (comma : t ≠ .comma) (quoted : ∀ name, t ≠ nameToken name)
    (columns : List (Column M)) : t ∉ nameTokens columns := by
  refine not_mem_intercalate comma fun ts member => ?_
  obtain ⟨c, _, rfl⟩ := List.mem_map.1 member
  simpa using quoted c.name

theorem names?_nameTokens (columns : List (Column M)) :
    names? (nameTokens columns) = some (Column.names columns) := by
  cases columns with
  | nil => rfl
  | cons c rest =>
    have filled : nameTokens (c :: rest) ≠ [] := by
      cases rest <;> simp [nameTokens, List.intercalate]
    rw [names?, if_neg filled]
    refine items?_intercalate (List.cons_ne_nil c rest) ?_ ?_
    · intro c _
      simp [name?, nameToken]
    · intro c _
      simp [nameToken]

theorem bare_nameToken (name : Identifier) : Bare [nameToken name] := by
  simp [Bare, clauseWords, Token.keyword, nameToken]

theorem bare_nameTokens (columns : List (Column M)) : Bare (nameTokens columns) := by
  refine bare_intercalate fun ts member => ?_
  obtain ⟨c, _, rfl⟩ := List.mem_map.1 member
  exact bare_nameToken c.name

theorem bare_placeholders (count : Nat) : Bare (placeholders count) := by
  refine bare_intercalate fun ts member => ?_
  rw [List.eq_of_mem_replicate member]
  decide

structure Heads (sql : String) (head : List Token) (h : Heading) : Prop where
  lexed : tokens sql = some head
  bare : Bare head
  read : head? head = some h

theorem heads_select (t : Table M) (columns : List (Column M)) :
    Heads ("SELECT " ++ Column.quotedList columns ++ " FROM " ++ t.quoted)
      ([.keyword "SELECT"] ++ nameTokens columns ++ [.keyword "FROM"] ++ [nameToken t.name])
      { verb := .select, table := t.name.text, columns := Column.names columns } where
  lexed := by
    have verb : tokens "SELECT" = some [.keyword "SELECT"] := rfl
    have preposition : tokens "FROM" = some [.keyword "FROM"] := rfl
    have front := tokens_space (tokens_space verb (tokens_quotedList columns)) preposition
    simpa [Table.quoted, String.append_assoc] using tokens_space front (tokens_name t.name)
  bare := by
    have verb : Bare [.keyword "SELECT"] := by decide
    have preposition : Bare [.keyword "FROM"] := by decide
    have front := bare_append (bare_append verb (bare_nameTokens columns)) preposition
    exact bare_append front (bare_nameToken t.name)
  read := by
    have absent : .keyword "FROM" ∉ nameTokens columns :=
      not_mem_nameTokens (by decide) (fun name => by simp [nameToken, Token.keyword]) columns
    have split := cut_clause absent (some [nameToken t.name])
    have whole : [.keyword "SELECT"] ++ nameTokens columns ++ [.keyword "FROM"] ++ [nameToken t.name] =
        .keyword "SELECT" :: (nameTokens columns ++ clause (.keyword "FROM") (some [nameToken t.name])) := by
      simp [clause]
    rw [whole, head?_select, selectHead?, split]
    simp [nameToken, names?_nameTokens]

theorem heads_insert (t : Table M) (columns : List (Column M)) :
    Heads ("INSERT INTO " ++ t.quoted ++ " (" ++ Column.quotedList columns ++ ") VALUES (" ++
        Column.placeholders columns ++ ")")
      ([.keyword "INSERT", .keyword "INTO"] ++ [nameToken t.name] ++ [.opening] ++ nameTokens columns ++
        [.closing] ++ [.keyword "VALUES"] ++ [.opening] ++ placeholders columns.length ++ [.closing])
      { verb := .insert, table := t.name.text, columns := Column.names columns } where
  lexed := by
    have verb : tokens "INSERT INTO" = some [.keyword "INSERT", .keyword "INTO"] := rfl
    have values : tokens "VALUES" = some [.keyword "VALUES"] := rfl
    have opening : Separates " (".toList [.opening] := .cons ends_space (.single ends_opening)
    have closing : Separates ")".toList [.closing] := .single ends_closing
    have between : Separates ") ".toList [.closing] := .cons ends_closing (.single ends_space)
    have table := tokens_space verb (tokens_name t.name)
    have names := tokens_apart opening table (tokens_quotedList columns)
    have marks := tokens_apart opening (tokens_apart between names values) (tokens_placeholders columns)
    have all := tokens_apart (b := "") closing marks rfl
    simpa [Table.quoted, String.append_assoc] using all
  bare := by
    have verb : Bare [.keyword "INSERT", .keyword "INTO"] := by decide
    have values : Bare [.keyword "VALUES"] := by decide
    have opening : Bare [.opening] := by decide
    have closing : Bare [.closing] := by decide
    have table := bare_append (bare_append verb (bare_nameToken t.name)) opening
    have names := bare_append (bare_append (bare_append table (bare_nameTokens columns)) closing) values
    exact bare_append (bare_append (bare_append names opening) (bare_placeholders columns.length)) closing
  read := by
    let later : List Token := [.keyword "VALUES", .opening] ++ placeholders columns.length ++ [.closing]
    have absent : .closing ∉ nameTokens columns :=
      not_mem_nameTokens (by decide) (fun name => by simp [nameToken]) columns
    have split := cut_clause absent (some later)
    have length : (Column.names columns).length = columns.length := List.length_map ..
    have whole : [.keyword "INSERT", .keyword "INTO"] ++ [nameToken t.name] ++ [.opening] ++
          nameTokens columns ++ [.closing] ++ [.keyword "VALUES"] ++ [.opening] ++
          placeholders columns.length ++ [.closing] =
        .keyword "INSERT" :: .keyword "INTO" :: nameToken t.name :: .opening ::
          (nameTokens columns ++ clause .closing (some later)) := by
      simp [clause, later]
    rw [whole, head?_insert, Token.keyword, nameToken, insertHead?, split]
    simp [later, Token.keyword, names?_nameTokens, length]

theorem heads_update (t : Table M) :
    Heads ("UPDATE " ++ t.quoted) ([.keyword "UPDATE"] ++ [nameToken t.name])
      { verb := .update, table := t.name.text } where
  lexed := by
    have verb : tokens "UPDATE" = some [.keyword "UPDATE"] := rfl
    simpa [Table.quoted] using tokens_space verb (tokens_name t.name)
  bare := by
    have verb : Bare [.keyword "UPDATE"] := by decide
    exact bare_append verb (bare_nameToken t.name)
  read := by simp [head?, Token.keyword, updateHead?, nameToken]

theorem heads_delete (t : Table M) :
    Heads ("DELETE FROM " ++ t.quoted) ([.keyword "DELETE", .keyword "FROM"] ++ [nameToken t.name])
      { verb := .delete, table := t.name.text } where
  lexed := by
    have verb : tokens "DELETE FROM" = some [.keyword "DELETE", .keyword "FROM"] := rfl
    simpa [Table.quoted] using tokens_space verb (tokens_name t.name)
  bare := by
    have verb : Bare [.keyword "DELETE", .keyword "FROM"] := by decide
    exact bare_append verb (bare_nameToken t.name)
  read := by simp [head?, Token.keyword, deleteHead?, nameToken]

def sourceToken : Option String → Token
  | none => .placeholder
  | some column => .quoted .backtick column.toList

def settingTokens (setting : Setting) : List Token :=
  [.quoted .backtick setting.1.toList, .sign '=', sourceToken setting.2]

def settingsTokens (settings : List Setting) : List Token :=
  [Token.comma].intercalate (settings.map settingTokens)

theorem setting?_settingTokens (setting : Setting) : setting? (settingTokens setting) = some setting := by
  obtain ⟨target, source⟩ := setting
  cases source <;> simp [settingTokens, setting?, sourceToken, source?]

theorem bare_settingsTokens (settings : List Setting) : Bare (settingsTokens settings) := by
  refine bare_intercalate fun ts member => ?_
  obtain ⟨⟨target, source⟩, _, rfl⟩ := List.mem_map.1 member
  cases source <;> simp [Bare, clauseWords, settingTokens, sourceToken, Token.keyword]

theorem items?_settingsTokens {settings : List Setting} (filled : settings ≠ []) :
    items? setting? (settingsTokens settings) = some settings := by
  have read : items? setting? (settingsTokens settings) = some (settings.map id) :=
    items?_intercalate filled (fun setting _ => setting?_settingTokens setting) fun ⟨target, source⟩ _ => by
      cases source <;> simp [settingTokens, sourceToken]
  simpa using read

theorem settingsTokens_append {first others : List Setting} (filled : first ≠ []) (more : others ≠ []) :
    settingsTokens (first ++ others) = settingsTokens first ++ [.comma] ++ settingsTokens others := by
  induction first with
  | nil => exact absurd rfl filled
  | cons setting rest ih =>
    cases rest with
    | nil =>
      cases others with
      | nil => exact absurd rfl more
      | cons other others => simp [settingsTokens, List.intercalate]
    | cons next rest =>
      have later := ih (List.cons_ne_nil next rest)
      simp only [settingsTokens, List.intercalate, List.map_append, List.map_cons, List.cons_append,
        List.intersperse_cons_cons, List.flatten_cons] at later ⊢
      rw [later]
      simp

end Reading

mutual

/-- The text of an assignment has the tokens of its settings, whatever the groups. -/
theorem Assignment.tokens_render {t : Table M} : (a : Assignment M) → {sql : String} →
    a.render t = .ok sql →
    ∃ settings, a.settings? t = some settings ∧ settings ≠ [] ∧
      Reading.tokens sql = some (Reading.settingsTokens settings)
  | .set f operand, sql, rendered => by
    rw [Assignment.render] at rendered
    split at rendered
    · cases rendered
    · rename_i target first
      split at rendered
      · cases rendered
      · rename_i value second
        cases rendered
        obtain ⟨c, found, rfl⟩ := Field.column_of_render first
        rcases Operand.source?_of_render second with ⟨source, rfl⟩ | ⟨c', source, rfl⟩
        · exact ⟨[(c.name.text, none)], by simp [Assignment.settings?, found, source], by simp,
            Reading.tokens_compare_placeholder c.name .eq⟩
        · exact ⟨[(c.name.text, some c'.name.text)], by simp [Assignment.settings?, found, source], by simp,
            Reading.tokens_compare_name c.name .eq c'.name⟩
  | .group members, sql, rendered => members.tokens_render rendered

theorem Assignments.tokens_render {t : Table M} : (as : Assignments M) → {sql : String} →
    as.render t = .ok sql →
    ∃ settings, as.settings? t = some settings ∧ settings ≠ [] ∧
      Reading.tokens sql = some (Reading.settingsTokens settings)
  | .last a, sql, rendered => a.tokens_render rendered
  | .cons a rest, sql, rendered => by
    rw [Assignments.render] at rendered
    split at rendered
    · cases rendered
    · rename_i front first
      split at rendered
      · cases rendered
      · rename_i back others
        cases rendered
        obtain ⟨settings, meant, filled, lexed⟩ := a.tokens_render first
        obtain ⟨more, meant', filled', lexed'⟩ := rest.tokens_render others
        refine ⟨settings ++ more, by simp [Assignments.settings?, meant, meant'], by simp [filled], ?_⟩
        rw [Reading.settingsTokens_append filled filled']
        exact Reading.tokens_apart Reading.separates_comma lexed lexed'

end

namespace Condition

open Reading

theorem bare_enclose (op : Connective) (operand : Condition M) {sql : String}
    (inside : ∃ ts, tokens sql = some ts ∧ Bare ts) :
    ∃ ts, tokens (enclose op operand sql) = some ts ∧ Bare ts := by
  obtain ⟨ts, lexed, bare⟩ := inside
  unfold enclose
  split
  · have opening : Bare [.opening] := by decide
    exact ⟨_, tokens_enclosed lexed, bare_append (bare_append opening bare) (by decide)⟩
  · exact ⟨ts, lexed, bare⟩

/-- No clause begins in the library's own conditions. -/
theorem bare_of_render {t : Table M} {c : Condition M} {sql : String} (own : c.wordings = [])
    (rendered : c.render t = .ok sql) : ∃ ts, tokens sql = some ts ∧ Bare ts := by
  induction c generalizing sql with
  | compare op f operand =>
    rw [render] at rendered
    split at rendered
    · cases rendered
    · rename_i column first
      split at rendered
      · cases rendered
      · rename_i value second
        cases rendered
        obtain ⟨c, _, rfl⟩ := Field.column_of_render first
        have signs : Bare (comparisonTokens op) := by cases op <;> decide
        have front := bare_append (bare_nameToken c.name) signs
        rcases Operand.source?_of_render second with ⟨_, rfl⟩ | ⟨c', _, rfl⟩
        · exact ⟨_, tokens_compare_placeholder c.name op, bare_append front (by decide)⟩
        · exact ⟨_, tokens_compare_name c.name op c'.name, bare_append front (bare_nameToken c'.name)⟩
  | logical op left right ihLeft ihRight =>
    obtain ⟨ownLeft, ownRight⟩ := List.append_eq_nil_iff.1 own
    rw [render] at rendered
    split at rendered
    · cases rendered
    · rename_i a first
      split at rendered
      · cases rendered
      · rename_i b second
        cases rendered
        obtain ⟨xs, lexed, bare⟩ := bare_enclose op left (ihLeft ownLeft first)
        obtain ⟨ys, lexed', bare'⟩ := bare_enclose op right (ihRight ownRight second)
        have word : Bare [connectiveToken op] := by cases op <;> decide
        have all := bare_append bare (bare_append word bare')
        exact ⟨_, tokens_joined op lexed lexed', all⟩
  | written sql slots disjunction => cases own

end Condition

namespace Query

open Reading

/-- The text has the layout, whose parts say an outline like the query's. -/
structure Lays (q : Query M) (sql : String) (l : Layout) (o said : Outline) : Prop where
  lexed : tokens sql = some l.tokens
  bare : l.IsBare
  content : l.Says o
  meant : q.outline? = some said
  alike : o.Alike said

theorem lays_heading {q : Query M} {sql : String} {head : List Token} {h : Heading}
    (heads : Heads sql head h) (meant : q.outline? = some { toHeading := h }) :
    q.Lays sql { head } { toHeading := h } { toHeading := h } where
  lexed := by simpa [Layout.tokens, Layout.unlimited, Layout.front, clause] using heads.lexed
  bare := ⟨heads.bare, by simp, by simp⟩
  content := ⟨heads.read, ⟨none, rfl, rfl⟩, rfl, by simp, rfl⟩
  meant := meant
  alike := .refl _

namespace Lays

variable {q : Query M} {sql : String} {head : List Token} {assignments condition : Option (List Token)}
  {o said : Outline}

theorem assigned (lays : q.Lays sql { head } o said) {a : Assignment M} {more : String}
    (rendered : a.render q.table = .ok more) :
    ∃ ts settings, settings ≠ [] ∧ (Query.assigned q a).Lays (sql ++ " SET " ++ more)
      { head, assignments := some ts } { o with settings } { said with settings } := by
  obtain ⟨settings, meant, filled, lexed⟩ := a.tokens_render rendered
  have word : tokens "SET" = some [.keyword "SET"] := rfl
  have listed := items?_settingsTokens filled
  refine ⟨settingsTokens settings, settings, filled, ?_, ?_, ?_, ?_, ?_⟩
  · have all := tokens_space (tokens_space lays.lexed word) lexed
    simpa [Layout.tokens, Layout.unlimited, Layout.front, clause, String.append_assoc] using all
  · exact ⟨lays.bare.head, by simpa using bare_settingsTokens settings, by simp⟩
  · exact ⟨lays.content.heading, ⟨some settings, by simp [listed], rfl⟩, lays.content.condition,
      lays.content.limit, lays.content.limited⟩
  · simp [outline?, lays.meant, meant]
  · exact ⟨lays.alike.heading, rfl, lays.alike.condition, lays.alike.limited⟩

theorem filtered (lays : q.Lays sql { head, assignments } o said) {c : Condition M} {more : String}
    (own : c.wordings = []) (rendered : c.render q.table = .ok more) :
    ∃ ts s s', (Query.filtered q c).Lays (sql ++ " WHERE " ++ more)
      { head, assignments, condition := some ts } { o with condition := some s }
      { said with condition := some s' } := by
  obtain ⟨ts, lexed, bare⟩ := Condition.bare_of_render own rendered
  obtain ⟨f, s, s', heard, sentence, meant, same⟩ := Condition.exists_sentence own rendered
  have word : tokens "WHERE" = some [.keyword "WHERE"] := rfl
  have condition : condition? ts = some s := by
    rw [Reading.read, lexed, Option.bind_some] at heard
    simp [condition?, heard, sentence]
  refine ⟨ts, s, s', ?_, ?_, ?_, ?_, ?_⟩
  · have all := tokens_space (tokens_space lays.lexed word) lexed
    simpa [Layout.tokens, Layout.unlimited, Layout.front, clause, String.append_assoc] using all
  · exact ⟨lays.bare.head, lays.bare.assignments, by simpa using bare⟩
  · exact ⟨lays.content.heading, lays.content.settings, by simp [condition], lays.content.limit, lays.content.limited⟩
  · simp [outline?, lays.meant, meant]
  · exact ⟨lays.alike.heading, lays.alike.settings, .some same, lays.alike.limited⟩

theorem limited (lays : q.Lays sql { head, assignments, condition } o said) (l : RowLimit) :
    (Query.limited q l).Lays (sql ++ " LIMIT ?") { head, assignments, condition, limit := some [.placeholder] }
      { o with limited := true } { said with limited := true } := by
  have word : tokens "LIMIT ?" = some [.keyword "LIMIT", .placeholder] := rfl
  refine ⟨?_, ?_, ?_, ?_, ?_⟩
  · have all := tokens_space lays.lexed word
    simpa [Layout.tokens, Layout.unlimited, Layout.front, clause, String.append_assoc] using all
  · exact ⟨lays.bare.head, lays.bare.assignments, lays.bare.condition⟩
  · exact ⟨lays.content.heading, lays.content.settings, lays.content.condition, by simp, rfl⟩
  · simp [outline?, lays.meant]
  · exact ⟨lays.alike.heading, lays.alike.settings, lays.alike.condition, rfl⟩

end Lays

theorem Opens.exists_lays {q : Query M} (opens : q.Opens) {sql : String} (rendered : q.render = .ok sql) :
    ∃ head assignments o said, q.Lays sql { head, assignments } o said ∧ o.isOpen = true := by
  cases opens with
  | select t s =>
    cases rendered
    exact ⟨_, none, _, _, lays_heading (heads_select t s.columns) rfl, rfl⟩
  | delete t =>
    cases rendered
    exact ⟨_, none, _, _, lays_heading (heads_delete t) rfl, rfl⟩
  | set t a =>
    rw [render, render] at rendered
    dsimp only at rendered
    split at rendered
    · cases rendered
    · rename_i more assigned
      cases rendered
      have front : (update t).Lays _ _ _ _ := lays_heading (heads_update t) rfl
      obtain ⟨ts, settings, filled, lays⟩ := front.assigned assigned
      exact ⟨_, some ts, _, _, lays, by simp [Outline.isOpen, filled]⟩

theorem Filters.exists_lays {q : Query M} (filters : q.Filters) {sql : String}
    (rendered : q.render = .ok sql) :
    ∃ head assignments condition o said, q.Lays sql { head, assignments, condition } o said ∧
      o.isOpen = true := by
  cases filters with
  | every opens =>
    obtain ⟨head, assignments, o, said, lays, isOpen⟩ := opens.exists_lays rendered
    exact ⟨head, assignments, none, o, said, lays, isOpen⟩
  | @filtered q c opens own =>
    rw [render] at rendered
    split at rendered
    · cases rendered
    · rename_i front first
      split at rendered
      · cases rendered
      · rename_i more last
        cases rendered
        obtain ⟨head, assignments, o, said, lays, isOpen⟩ := opens.exists_lays first
        obtain ⟨ts, s, s', lays⟩ := lays.filtered own last
        exact ⟨head, assignments, some ts, _, _, lays, isOpen⟩

theorem Standard.exists_lays {q : Query M} (standard : q.Standard) {sql : String}
    (rendered : q.render = .ok sql) :
    ∃ l o said, q.Lays sql l o said ∧ o.isComplete = true := by
  cases standard with
  | insert t s record =>
    cases rendered
    exact ⟨_, _, _, lays_heading (heads_insert t s.columns) rfl, rfl⟩
  | unlimited filters =>
    obtain ⟨head, assignments, condition, o, said, lays, isOpen⟩ := filters.exists_lays rendered
    exact ⟨_, o, said, lays, by simp [Outline.isComplete, isOpen]⟩
  | @limited q filters l =>
    rw [render] at rendered
    split at rendered
    · cases rendered
    · rename_i front first
      cases rendered
      obtain ⟨head, assignments, condition, o, said, lays, isOpen⟩ := filters.exists_lays first
      have complete : ({ o with limited := true } : Outline).isOpen = true := isOpen
      exact ⟨_, _, _, lays.limited l, by simp [Outline.isComplete, complete]⟩

/-- The text of a standard query reads as an outline like the query's. -/
theorem Standard.read {q : Query M} (standard : q.Standard) {sql : String} (rendered : q.render = .ok sql) :
    ∃ o said, readStatement sql = some o ∧ q.outline? = some said ∧ o.Alike said := by
  obtain ⟨l, o, said, lays, complete⟩ := standard.exists_lays rendered
  have said' := lays.content.outline?
  have laid := Layout.ofTokens_tokens lays.bare
  exact ⟨o, said, by simp [readStatement, lays.lexed, laid, said', complete], lays.meant, lays.alike⟩

/-- Queries with the same text say the same, and the text reads as what they say. -/
theorem render_unambiguous {q : Query M} (standard : q.Standard) {sql : String}
    (rendered : q.render = .ok sql) :
    (∃ o said, readStatement sql = some o ∧ q.outline? = some said ∧ o.Alike said) ∧
      ∀ {M' : Model} {q' : Query M'}, q'.Standard → q'.render = .ok sql →
        ∃ said said', q.outline? = some said ∧ q'.outline? = some said' ∧ said.Alike said' := by
  obtain ⟨o, said, read, meant, alike⟩ := standard.read rendered
  refine ⟨⟨o, said, read, meant, alike⟩, ?_⟩
  intro M' q' standard' rendered'
  obtain ⟨o', said', read', meant', alike'⟩ := standard'.read rendered'
  cases read.symm.trans read'
  exact ⟨said, said', meant, meant', alike.symm.trans alike'⟩

end Query

example : Reading.readStatement "UPDATE `books` SET `title`=?, `due_at`=`due_at` WHERE `number`<=? LIMIT ?" =
    some {
      verb := .update
      table := "books"
      settings := [("title", none), ("due_at", some "due_at")]
      condition := some (.compare "number" .le none)
      limited := true } := by
  rfl

namespace Shelf

def numbered : Condition book := .compare .ge number (.column number rfl)
def present : Condition book := .compare .ne title (.literal "lost")
def lent : Condition book := .compare .ne due (.literal none)

def wanted : Query book :=
  .limited (.filtered books.select (.logical .and (.logical .and numbered present) lent)) (.fixed 5)

def wantedToo : Query book :=
  .limited (.filtered books.select (.logical .and numbered (.logical .and present lent))) (.var count)

end Shelf

theorem Query.render_unambiguous_wanted :
    ∃ sql, Shelf.wanted.Standard ∧ Shelf.wanted.render = .ok sql ∧
      Shelf.wantedToo.Standard ∧ Shelf.wantedToo.render = .ok sql ∧
      (∃ o said, Reading.readStatement sql = some o ∧ Shelf.wanted.outline? = some said ∧ o.Alike said) ∧
      ∃ said said', Shelf.wanted.outline? = some said ∧ Shelf.wantedToo.outline? = some said' ∧
        said.Alike said' := by
  have standard : Shelf.wanted.Standard := .limited (.filtered (.select _ _) rfl) _
  have standard' : Shelf.wantedToo.Standard := .limited (.filtered (.select _ _) rfl) _
  have rendered : Shelf.wanted.render = .ok _ := rfl
  have rendered' : Shelf.wantedToo.render = .ok _ := rfl
  obtain ⟨read, others⟩ := render_unambiguous standard rendered
  exact ⟨_, standard, rendered, standard', rendered', read, others standard' rendered'⟩

end PreparedSql
