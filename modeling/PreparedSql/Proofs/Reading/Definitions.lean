import PreparedSql.Proofs.Reading.Tokens
import PreparedSql.Proofs.Schema.Declarations

/-!
# Reading a definition

The statement that creates a table is read back from its tokens. Main statement: for a table that is built
from declarations it reads as the table's name and, for each declaration in its order, the name, the type
and the constraint words that the declaration asks for, so that tables with the same text agree in these
(`Table.read_schema`).
-/

namespace PreparedSql

open Text

namespace Reading

def tagTokens : Tag → List Token
  | .nullable => [.keyword "NULL"]
  | .notNull => [.keyword "NOT", .keyword "NULL"]
  | .primaryKey => [.keyword "PRIMARY", .keyword "KEY"]
  | .autoIncrement => [.keyword "AUTO_INCREMENT"]
  | .unique => [.keyword "UNIQUE"]

/-- The tags whose words follow, each at most once and in the order of the list, up to the end. -/
def readTags : List Tag → List Token → Option (List Tag)
  | [], ts => if ts = [] then some [] else none
  | tag :: rest, ts =>
    if tagTokens tag <+: ts then (readTags rest (ts.drop (tagTokens tag).length)).map (tag :: ·)
    else readTags rest ts

def typeWord : Kind → String
  | .boolean => "BOOLEAN"
  | .tinyInt | .tinyIntUnsigned => "TINYINT"
  | .smallInt | .smallIntUnsigned => "SMALLINT"
  | .integer | .integerUnsigned => "INTEGER"
  | .bigInt | .bigIntUnsigned => "BIGINT"
  | .text => "TEXT"
  | .dateTime => "DATETIME"

def kinds : List Kind :=
  [.boolean, .tinyInt, .tinyIntUnsigned, .smallInt, .smallIntUnsigned, .integer, .integerUnsigned, .bigInt,
    .bigIntUnsigned, .text, .dateTime]

def kind? (letters : List Char) (unsigned : Bool) : Option Kind :=
  kinds.find? fun k => (typeWord k).toList = letters ∧ k.isUnsigned = unsigned

def size? (digits : List Char) : Option Nat :=
  if digits.all Char.isDigit ∧ 0 < Nat.ofDigitChars 10 digits 0 then some (Nat.ofDigitChars 10 digits 0)
  else none

def readType : List Token → Option (ColumnType × List Token)
  | .word letters :: .opening :: .word digits :: .closing :: rest =>
    if letters = "VARCHAR".toList then (size? digits).map fun size => (.varchar size, rest) else none
  | .word letters :: .word sign :: rest =>
    if sign = "UNSIGNED".toList then (kind? letters true).map fun k => (.kind k, rest)
    else (kind? letters false).map fun k => (.kind k, .word sign :: rest)
  | [.word letters] => (kind? letters false).map fun k => (.kind k, [])
  | _ => none

def readColumn : List Token → Option ColumnDefinition
  | .quoted .backtick name :: ts =>
    match readType ts with
    | some (type, rest) => (readTags Tag.written rest).map fun flags => ⟨String.ofList name, type, flags⟩
    | none => none
  | _ => none

def readDefinition (sql : String) : Option TableDefinition :=
  match tokens sql with
  | some (.word create :: .word table :: .quoted .backtick name :: .opening :: body) =>
    if create = "CREATE".toList ∧ table = "TABLE".toList ∧ body.getLast? = some .closing then
      (items? readColumn body.dropLast).map fun columns => ⟨String.ofList name, columns⟩
    else none
  | _ => none

def kindTokens (k : Kind) : List Token :=
  .keyword (typeWord k) :: if k.isUnsigned then [.keyword "UNSIGNED"] else []

def typeTokens : ColumnType → List Token
  | .kind k => kindTokens k
  | .varchar size => [.keyword "VARCHAR", .opening, .word (Nat.toDigits 10 size), .closing]

def columnTokens (d : ColumnDefinition) : List Token :=
  .quoted .backtick d.name.toList :: typeTokens d.type ++ d.flags.flatMap tagTokens

def definitionTokens (d : TableDefinition) : List Token :=
  [.keyword "CREATE", .keyword "TABLE", .quoted .backtick d.name.toList, .opening] ++
    [Token.comma].intercalate (d.columns.map columnTokens) ++ [.closing]

theorem tokens_keyword (tag : Tag) : tokens tag.keyword = some (tagTokens tag) := by
  cases tag <;> rfl

theorem tokens_sqlType (k : Kind) : tokens k.sqlType = some (kindTokens k) := by
  cases k <;> rfl

theorem tokens_varchar (size : Nat) :
    tokens ("VARCHAR(" ++ toString size ++ ")") = some (typeTokens (.varchar size)) := by
  have word : tokens "VARCHAR" = some [.keyword "VARCHAR"] := rfl
  have opening : Separates "(".toList [.opening] := .single ends_opening
  have closing : Separates ")".toList [.closing] := .single ends_closing
  have inside := tokens_apart opening word (tokens_number size)
  have all := tokens_apart (b := "") closing inside rfl
  simpa [typeTokens] using all

variable {M : Model}

theorem tokens_typeText (c : Column M) : tokens c.typeText = some (typeTokens c.definition.type) := by
  unfold Column.typeText Column.definition
  cases c.width with
  | none => exact tokens_sqlType c.kind
  | some size => exact tokens_varchar size

theorem intercalate_nil {α : Type} (lists : List (List α)) : ([] : List α).intercalate lists = lists.flatten := by
  induction lists with
  | nil => rfl
  | cons list rest ih =>
    cases rest with
    | nil => simp
    | cons next rest => simpa [List.intercalate] using ih

theorem tokens_constraints (c : Constraints) :
    tokens c.sql = some (c.writtenTags.flatMap tagTokens) := by
  have space : Separates " ".toList [] := .single ends_space
  have listed := tokens_intercalate space fun tag (_ : tag ∈ c.writtenTags) => tokens_keyword tag
  rw [Constraints.sql, listed, intercalate_nil]
  rfl

theorem tokens_column (c : Column M) : tokens c.schema = some (columnTokens c.definition) := by
  have front := tokens_space (tokens_name c.name) (tokens_typeText c)
  have flags := tokens_constraints c.constraints
  have parts : columnTokens c.definition =
      [nameToken c.name] ++ typeTokens c.definition.type ++ c.constraints.writtenTags.flatMap tagTokens := rfl
  rw [parts]
  unfold Column.schema Column.quoted
  split
  · rename_i none
    rw [none] at flags
    have none : [] = c.constraints.writtenTags.flatMap tagTokens := Option.some.inj flags
    rw [← none, List.append_nil, String.append_empty]
    exact front
  · have all := tokens_space front flags
    simpa [String.append_assoc] using all

theorem separates_lines : Separates ",\n".toList [.comma] :=
  .cons ends_comma (.single ends_newline)

/-- The text of a definition has the tokens that its grammar asks for. -/
theorem tokens_schema (t : Table M) : tokens t.schema = some (definitionTokens t.definition) := by
  have create : tokens "CREATE TABLE" = some [.keyword "CREATE", .keyword "TABLE"] := rfl
  have opening : Separates " (\n".toList [.opening] :=
    .cons ends_space (.cons ends_opening (.single ends_newline))
  have closing : Separates "\n)".toList [.closing] := .cons ends_newline (.single ends_closing)
  have indented : ∀ c ∈ t.columns, tokens ("  " ++ c.schema) = some (columnTokens c.definition) := by
    intro c _
    have indent : tokens " " = some [] := rfl
    simpa [String.append_assoc] using tokens_space indent (tokens_column c)
  have columns := tokens_intercalate separates_lines indented
  have front := tokens_space create (tokens_name t.name)
  have body := tokens_apart opening front columns
  have all := tokens_apart (b := "") closing body rfl
  unfold Table.schema Table.quoted
  simpa [definitionTokens, Table.definition, nameToken, Function.comp_def, String.append_assoc] using all

theorem not_tagTokens_prefix {tag : Tag} {flags : List Tag} (other : tag ∉ flags) :
    ¬ tagTokens tag <+: flags.flatMap tagTokens := by
  cases flags with
  | nil => cases tag <;> simp [tagTokens]
  | cons flag rest =>
    have apart : tag ≠ flag := List.ne_of_not_mem_cons other
    cases tag <;> cases flag <;>
      first
      | exact absurd rfl apart
      | simp [tagTokens, Token.keyword, List.cons_prefix_cons]

theorem readTags_flatMap {flags tags : List Tag} (sublist : flags.Sublist tags) (distinct : tags.Nodup) :
    readTags tags (flags.flatMap tagTokens) = some flags := by
  induction sublist with
  | slnil => rfl
  | @cons flags tags tag sublist ih =>
    obtain ⟨absent, distinct⟩ := List.nodup_cons.1 distinct
    have skipped := not_tagTokens_prefix fun member => absent (sublist.subset member)
    rw [readTags, if_neg skipped, ih distinct]
  | @cons_cons flags tags tag sublist ih =>
    obtain ⟨_, distinct⟩ := List.nodup_cons.1 distinct
    rw [List.flatMap_cons, readTags, if_pos (List.prefix_append ..), List.drop_left, ih distinct]
    rfl

theorem kind?_typeWord (k : Kind) : kind? (typeWord k).toList k.isUnsigned = some k := by
  cases k <;> rfl

theorem size?_toDigits {size : Nat} (positive : 0 < size) : size? (Nat.toDigits 10 size) = some size := by
  have digits : (Nat.toDigits 10 size).all Char.isDigit = true := by
    rw [List.all_eq_true]
    intro c member
    exact Nat.isDigit_of_mem_toDigits (by decide) (by decide) member
  simp [size?, digits, Nat.ofDigitChars_ten_toDigits, positive]

def EndsType (ts : List Token) : Prop :=
  ∀ t ∈ ts.head?, ∃ letters, t = .word letters ∧ letters ≠ "UNSIGNED".toList

theorem endsType_flags (flags : List Tag) : EndsType (flags.flatMap tagTokens) := by
  cases flags with
  | nil => simp [EndsType]
  | cons tag rest => cases tag <;> simp [EndsType, tagTokens, Token.keyword]

theorem readType_kind (k : Kind) {rest : List Token} (ends : EndsType rest) :
    readType (kindTokens k ++ rest) = some (.kind k, rest) := by
  have found := kind?_typeWord k
  unfold kindTokens
  cases unsigned : k.isUnsigned with
  | true =>
    rw [unsigned] at found
    simp [readType, Token.keyword, found]
  | false =>
    rw [unsigned] at found
    cases rest with
    | nil => simp [readType, Token.keyword, found]
    | cons t rest =>
      obtain ⟨letters, rfl, other⟩ := ends t rfl
      have word : readType ([.keyword (typeWord k)] ++ .word letters :: rest) =
          (kind? (typeWord k).toList false).map fun k => (.kind k, .word letters :: rest) :=
        if_neg other
      simpa [found] using word

theorem readType_varchar {size : Nat} (positive : 0 < size) (rest : List Token) :
    readType (typeTokens (.varchar size) ++ rest) = some (.varchar size, rest) := by
  simp [typeTokens, readType, Token.keyword, size?_toDigits positive]

/-- A width is not 0, and the flags stand in their order. -/
structure IsWritten (d : ColumnDefinition) : Prop where
  sized : ∀ size, d.type = .varchar size → 0 < size
  ordered : d.flags.Sublist Tag.written

theorem readColumn_columnTokens {d : ColumnDefinition} (written : IsWritten d) :
    readColumn (columnTokens d) = some d := by
  have flags := readTags_flatMap written.ordered (by decide)
  have type : readType (typeTokens d.type ++ d.flags.flatMap tagTokens) =
      some (d.type, d.flags.flatMap tagTokens) := by
    cases declared : d.type with
    | kind k => exact readType_kind k (endsType_flags d.flags)
    | varchar size => exact readType_varchar (written.sized size declared) _
  simp [columnTokens, readColumn, type, flags]

theorem comma_not_mem_columnTokens (d : ColumnDefinition) : Token.comma ∉ columnTokens d := by
  have flags : ∀ tag : Tag, Token.comma ∉ tagTokens tag := by
    intro tag
    cases tag <;> decide
  have type : Token.comma ∉ typeTokens d.type := by
    cases d.type with
    | kind k => cases k <;> decide
    | varchar size => simp [typeTokens, Token.keyword]
  simp [columnTokens, type, flags]

theorem readDefinition_of_tokens {sql : String} {d : TableDefinition} (filled : d.columns ≠ [])
    (written : ∀ c ∈ d.columns, IsWritten c) (lexed : tokens sql = some (definitionTokens d)) :
    readDefinition sql = some d := by
  have columns : items? readColumn ([Token.comma].intercalate (d.columns.map columnTokens)) =
      some (d.columns.map id) :=
    items?_intercalate filled (fun c member => readColumn_columnTokens (written c member))
      fun c _ => comma_not_mem_columnTokens c
  simp [readDefinition, lexed, definitionTokens, Token.keyword, columns]

theorem isWritten_definition (c : Column M) : IsWritten c.definition := by
  constructor
  · intro size typed
    unfold Column.definition at typed
    cases width : c.width with
    | none =>
      rw [width] at typed
      cases typed
    | some n =>
      rw [width] at typed
      cases typed
      exact c.width_pos size width
  · rw [Column.definition, Constraints.writtenTags_eq]
    exact List.filter_sublist

/-- The text that creates a table reads as the table's definition. -/
theorem read_definition (t : Table M) : readDefinition t.schema = some t.definition := by
  refine readDefinition_of_tokens ?_ ?_ (tokens_schema t)
  · simpa [Table.definition] using t.columns_ne_nil
  · intro d member
    obtain ⟨c, _, rfl⟩ := List.mem_map.1 member
    exact isWritten_definition c

end Reading

namespace Table

open Reading

/-- The text of a definition says what was declared, and nothing less than that. -/
theorem read_schema {name : String} {declarations : List (ColumnDecl M)} {t : Table M}
    (built : declare name declarations = .ok t) :
    readDefinition t.schema = some ⟨name, declarations.map ColumnDecl.definition⟩ ∧
      ∀ {M' : Model} {name' : String} {declarations' : List (ColumnDecl M')} {t' : Table M'},
        declare name' declarations' = .ok t' → t'.schema = t.schema →
        name' = name ∧ declarations'.map ColumnDecl.definition = declarations.map ColumnDecl.definition := by
  have read := read_definition t
  rw [definition_of_declare built] at read
  refine ⟨read, ?_⟩
  intro M' name' declarations' t' built' same
  have read' := read_definition t'
  rw [definition_of_declare built', same, read, Option.some.injEq, TableDefinition.mk.injEq] at read'
  exact ⟨read'.1.symm, read'.2.symm⟩

end Table

namespace Shelf

def declared : List (ColumnDecl book) :=
  [.column "number" number [.primaryKey, .autoIncrement], .varchar "title" 80 title rfl [.unique],
    .column "due_at" due []]

def declaredFully : List (ColumnDecl book) :=
  [.column "number" number [.autoIncrement, .notNull, .primaryKey],
    .varchar "title" 80 title rfl [.notNull, .unique], .column "due_at" due [.nullable]]

end Shelf

example : (Table.declare "books" Shelf.declared).map Table.schema =
    .ok ("CREATE TABLE `books` (\n  `number` INTEGER UNSIGNED NOT NULL PRIMARY KEY AUTO_INCREMENT,\n" ++
      "  `title` VARCHAR(80) UNIQUE NOT NULL,\n  `due_at` DATETIME\n)") := by
  rfl

theorem Table.read_schema_declared :
    ∃ t t', declare "books" Shelf.declared = .ok t ∧ declare "books" Shelf.declaredFully = .ok t' ∧
      t'.schema = t.schema ∧
      Reading.readDefinition t.schema = some ⟨"books", Shelf.declared.map ColumnDecl.definition⟩ ∧
      Shelf.declaredFully.map ColumnDecl.definition = Shelf.declared.map ColumnDecl.definition := by
  have built : declare "books" Shelf.declared = .ok _ := rfl
  have built' : declare "books" Shelf.declaredFully = .ok _ := rfl
  obtain ⟨read, determined⟩ := read_schema built
  exact ⟨_, _, built, built', rfl, read, (determined built' rfl).2⟩

end PreparedSql
