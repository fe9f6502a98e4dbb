import FluentSql.Dialect
import FluentSql.Identifier
/-
# FluentSql.Rendering — how the statements of a connection are written.

The dialect of the connection, with the identifier mark and the limit style that are in force: those
that were configured, or else those of the dialect.
-/

namespace FluentSql

/-- How statements are written. -/
structure Rendering where
  dialect : Dialect
  mark : String
  limitStyle : LimitStyle
  deriving Repr, Inhabited

namespace Rendering

/-- The way a dialect writes statements by itself. -/
def ofDialect (dialect : Dialect) : Rendering := ⟨dialect, dialect.quoteMark, dialect.limitStyle⟩

/-- A quoted name. -/
def quote (r : Rendering) (name : String) : String := Identifier.quoteName r.mark name

end Rendering

end FluentSql
