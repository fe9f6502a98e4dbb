import FluentSql.Changes
import FluentSql.Placeholders
import FluentSql.Rendering
import FluentSql.Sql
/-
# FluentSql.Changes.Write — the statements that write a row.

INSERT and UPDATE write the dirty fields in order. A field's right-hand side is a placeholder, or its
text if the field is inlined. UPDATE and DELETE find the row by its key columns, whose values bind
after all others. The names of fields and key columns are given as they are written.
-/

namespace FluentSql.Changes

/-- The right-hand side of a dirty field. -/
def term (c : Changes) (e : Value × Value) : Term :=
  if c.isInlined e.1 then .inlined e.2.display else .bound e.2

/-- The right-hand sides of the dirty fields. -/
def terms (c : Changes) : List Term := c.dirty.map c.term

/-- The right-hand sides of the dirty fields, separated by commas. -/
def placeholders (c : Changes) : Placeholders := .ofTerms c.terms

/-- The condition that the key columns have given values. -/
def keyCondition (keyColumns : List String) : String :=
  "WHERE " ++ " AND ".intercalate (keyColumns.map (· ++ " = ?"))

/-- The INSERT of the dirty fields. The columns to return are written if the dialect returns them. -/
def insert (r : Rendering) (table : String) (fields : List String) (returning : String)
    (c : Changes) : Sql where
  text := .text (" ".intercalate
    (["INSERT INTO", r.quote table, "(" ++ ", ".intercalate fields ++ ")", "VALUES",
      "(" ++ c.placeholders.text ++ ")"] ++
      if r.dialect.returnsIds then ["RETURNING " ++ returning] else []))
  params := .positional c.placeholders.bound

/-- One assignment of an UPDATE. -/
def assignment (field : String) (t : Term) : String := field ++ " = " ++ t.text

/-- The UPDATE of the dirty fields in the row with the given key. -/
def update (r : Rendering) (table : String) (fields keyColumns : List String)
    (keyValues : List Value) (c : Changes) : Sql where
  text := .text (" ".intercalate
    ["UPDATE " ++ r.quote table ++ " SET", ", ".intercalate (fields.zipWith assignment c.terms),
      keyCondition keyColumns])
  params := .positional (c.boundValues ++ keyValues)

/-- The DELETE of the row with the given key. -/
def delete (r : Rendering) (table : String) (keyColumns : List String) (keyValues : List Value) :
    Sql where
  text := .text (" ".intercalate ["DELETE FROM", r.quote table, keyCondition keyColumns])
  params := .positional keyValues

end FluentSql.Changes
