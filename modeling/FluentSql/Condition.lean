import FluentSql.Placeholders
import FluentSql.Query
/-
# FluentSql.Condition — how conditions are written.

A condition compares a column with a value, asks whether it is among several, tests it without a
value, or asks for any of several groups of comparisons. Its columns are quoted already.
-/

namespace FluentSql

/-- A comparison inside a group. -/
structure Comparison where
  /-- The column as it is written. -/
  column : String
  operator : String
  value : Value
  deriving Repr, Inhabited

/-- The words of a comparison inside a group. -/
def Comparison.words (c : Comparison) : List String := [c.column, c.operator ++ " ?"]

namespace Fragment

/-- A column, an operator and one placeholder. -/
def comparison (column operator : String) (values : List Value) : Fragment :=
  ⟨.text (column ++ " " ++ operator ++ " ?"), values⟩

/-- A column, an operator and a list of right-hand sides. -/
def membership (column operator : String) (candidates : Placeholders) : Fragment :=
  ⟨.text (column ++ " " ++ operator ++ " (" ++ candidates.text ++ ")"), candidates.bound⟩

/-- A column and an operator without a value. -/
def check (column operator : String) : Fragment := ⟨.text (column ++ " " ++ operator), []⟩

/-- The words of a group: its comparisons with AND between them. -/
def groupWords (group : List Comparison) : List String :=
  ["AND"].intercalate (group.map Comparison.words)

/-- Any of several groups of comparisons that hold together. -/
def anyOf (groups : List (List Comparison)) : Fragment where
  text := .text (" ".intercalate
    (["(("] ++ [") OR ("].intercalate (groups.map groupWords) ++ ["))"]))
  values := groups.flatten.map (·.value)

end Fragment

end FluentSql
