import FluentSql.Value.Text
/-
# FluentSql.Placeholders — the right-hand sides of written fields.

Every field becomes a placeholder that binds its value, except the inlined ones: those are written
into the statement as their plain text.
-/

namespace FluentSql

/-- The right-hand side of one field. -/
inductive Term where
  /-- A placeholder with the value that it binds. -/
  | bound (v : Value)
  /-- A text in the statement. -/
  | inlined (text : String)
  deriving Repr, Inhabited

namespace Term

/-- How the right-hand side is written. -/
def text : Term → String
  | .bound _ => "?"
  | .inlined text => text

/-- The value that the right-hand side binds. -/
def value? : Term → Option Value
  | .bound v => some v
  | .inlined _ => none

end Term

/-- Right-hand sides, separated by commas, and the values that their placeholders bind. -/
structure Placeholders where
  text : String
  bound : List Value
  deriving Repr, Inhabited

/-- The right-hand sides together. -/
def Placeholders.ofTerms (terms : List Term) : Placeholders where
  text := ", ".intercalate (terms.map Term.text)
  bound := terms.filterMap Term.value?

end FluentSql
