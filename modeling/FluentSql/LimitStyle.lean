/-
# FluentSql.LimitStyle — where the row limit of a SELECT is written.

A style is used by its word and shown by its label.
-/

namespace FluentSql

/-- Where the row limit is written. -/
inductive LimitStyle where
  /-- At the end of the statement. -/
  | limit
  /-- Behind the word SELECT. -/
  | top
  deriving Repr, DecidableEq, Inhabited

namespace LimitStyle

/-- The word for a style. -/
def word : LimitStyle → String
  | .limit => "limit"
  | .top => "top"

/-- The name of a style. -/
def memberName : LimitStyle → String
  | .limit => "LIMIT"
  | .top => "TOP_N"

/-- The text that shows a style. -/
def label (s : LimitStyle) : String := "LimitStyle." ++ s.memberName

/-- The style of a word. -/
def ofWord? (word : String) : Option LimitStyle :=
  if word == "limit" then some .limit else if word == "top" then some .top else none

theorem ofWord?_word (s : LimitStyle) : ofWord? s.word = some s := by cases s <;> decide

end LimitStyle

end FluentSql
