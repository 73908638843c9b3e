/-!
# Names of tables and columns

A name is a plain ASCII word, so it is never escaped: quoting puts it between two backticks, and no quoted
name holds a placeholder.
-/

namespace PreparedSql.Text

def isWordStart (c : Char) : Bool :=
  c.isAlpha || c == '_'

def isWordPart (c : Char) : Bool :=
  c.isAlphanum || c == '_' || c == '$'

def isWord : List Char → Bool
  | [] => false
  | c :: rest => isWordStart c && rest.all isWordPart

theorem isWordPart_of_isWordStart {c : Char} (h : isWordStart c = true) : isWordPart c = true := by
  simp only [isWordStart, isWordPart, Char.isAlphanum, Bool.or_eq_true] at h ⊢
  rcases h with h | h
  · exact .inl (.inl (.inl h))
  · exact .inl (.inr h)

theorem all_isWordPart_of_isWord {cs : List Char} (h : isWord cs = true) :
    cs.all isWordPart = true := by
  cases cs with
  | nil => rfl
  | cons c rest =>
    simp only [isWord, Bool.and_eq_true] at h
    simp [isWordPart_of_isWordStart h.1, h.2]

def backtick : Char := Char.ofNat 96

def placeholder : Char := '?'

/-- Occurrences of the placeholder sign, wherever they stand in the text. -/
def placeholderCount (sql : String) : Nat :=
  sql.toList.count placeholder

@[simp] theorem placeholderCount_append (a b : String) :
    placeholderCount (a ++ b) = placeholderCount a + placeholderCount b := by
  simp [placeholderCount, List.count_append]

structure Identifier where
  text : String
  isWord_text : isWord text.toList = true
  deriving DecidableEq

def Identifier.ofString? (text : String) : Option Identifier :=
  if h : isWord text.toList = true then some ⟨text, h⟩ else none

theorem Identifier.ofString?_eq_some_iff {text : String} {name : Identifier} :
    ofString? text = some name ↔ name.text = text := by
  unfold ofString?
  split
  · simp only [Option.some.injEq]
    exact ⟨fun h => h ▸ rfl, fun h => by cases name; simp_all⟩
  · rename_i h
    simp only [reduceCtorEq, false_iff]
    exact fun e => h (e ▸ name.isWord_text)

theorem Identifier.ofString?_eq_none_iff {text : String} :
    ofString? text = none ↔ isWord text.toList = false := by
  unfold ofString?
  split <;> simp_all

def Identifier.quoted (name : Identifier) : String :=
  "`" ++ name.text ++ "`"

end PreparedSql.Text
