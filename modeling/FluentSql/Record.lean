import FluentSql.Changes
import FluentSql.KeyColumns
import FluentSql.Query
/-
# FluentSql.Record — a row of a table, and the query that reads such rows.

A record belongs to a table and a connection. It holds a query that builder calls extend, and a row
with its edits.
-/

namespace FluentSql

/-- A record. -/
structure Record where
  connection : String
  query : Query
  changes : Changes := {}
  /-- The key of this record only, in place of the one that is configured. -/
  ownKey : Option KeyColumns := none
  deriving Repr, Inhabited

namespace Record

/-- The table of a record. -/
def table (r : Record) : String := r.query.table

/-- A record without data. -/
def onTable (table connection : String) : Record := { connection, query := { table } }

/-- How a record with the given data is shown to people. -/
def label (r : Record) (data : Value) : String :=
  "<Record " ++ Text.quoted r.table ++ " " ++ data.quoted ++ ">"

end Record

end FluentSql
