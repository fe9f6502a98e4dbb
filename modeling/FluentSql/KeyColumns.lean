import FluentSql.Value
/-
# FluentSql.KeyColumns — the columns that identify a row.

A table has one key column, or an ordered list of them. The difference stays visible for a list of
one column: such a key is compound and its value is a mapping. Columns are texts as a rule; a key that
a caller put together may hold anything, which shows when the key is used.
-/

namespace FluentSql

/-- The key of a table. -/
inductive KeyColumns where
  | single (column : Value)
  | compound (columns : List Value)
  deriving Repr, Inhabited

namespace KeyColumns

/-- The columns of the key, in order. -/
def columns : KeyColumns → List Value
  | .single column => [column]
  | .compound columns => columns

/-- The key that a value stands for: a list is compound. -/
def ofValue : Value → KeyColumns
  | .list columns => .compound columns
  | column => .single column

end KeyColumns

end FluentSql
