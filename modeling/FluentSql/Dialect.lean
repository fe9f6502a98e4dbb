import FluentSql.Entries
import FluentSql.Failure
import FluentSql.LimitStyle
import FluentSql.Text.LowerCase
/-
# FluentSql.Dialect — what differs between databases, and the table of dialects.

A dialect fixes the mark around identifiers, where and with which words the row window is written,
and whether an INSERT returns the generated key columns. Dialects are looked up by the name that a
driver reports, without regard to case. A name that is not in the table gets the generic dialect.

A specification may lack the name or the mark; it can stand in the table, but no dialect can be made
of it.
-/

namespace FluentSql

/-- A dialect. -/
structure Dialect where
  name : String
  /-- How the dialect is shown to people. -/
  label : String
  /-- The mark around the parts of identifiers. -/
  quoteMark : String
  limitStyle : LimitStyle := .limit
  limitKeyword : String := "LIMIT"
  offsetKeyword : String := "OFFSET"
  /-- Whether an INSERT ends with the key columns to return. -/
  returnsIds : Bool := false
  /-- The driver names that it was made for. -/
  driverNames : List String := []
  deriving Repr, DecidableEq, Inhabited

/-- The dialect of a driver that nobody knows. -/
def Dialect.generic (driverName : String) : Dialect where
  name := driverName
  label := "GenericDialect(" ++ Text.quoted driverName ++ ")"
  quoteMark := "\x60"

/-- A dialect that was made for a connection. Each has a number of its own. -/
structure MadeDialect where
  number : Nat
  dialect : Dialect
  deriving Repr, Inhabited

/-- A description of a dialect that may be incomplete. -/
structure DialectSpec where
  /-- The word for the dialect in its label. -/
  kind : String
  name : Option String := none
  quoteMark : Option String := none
  limitStyle : LimitStyle := .limit
  limitKeyword : String := "LIMIT"
  offsetKeyword : String := "OFFSET"
  returnsIds : Bool := false
  /-- The driver names that it is registered under if no others are given. -/
  driverNames : List String := []
  deriving Repr, Inhabited

/-- The dialect of a complete description. -/
def DialectSpec.dialect? (spec : DialectSpec) : Except Failure Dialect :=
  match spec.name, spec.quoteMark with
  | some name, some quoteMark =>
    .ok {
      name, quoteMark
      label := spec.kind ++ "()"
      limitStyle := spec.limitStyle
      limitKeyword := spec.limitKeyword
      offsetKeyword := spec.offsetKeyword
      returnsIds := spec.returnsIds
      driverNames := spec.driverNames }
  | _, _ => .error .incompleteDialect

/-- Descriptions of dialects by driver name, in lower case. -/
abbrev Dialects := Entries String DialectSpec

namespace Dialects

/-- Registers a description under the names given, or else under its own driver names. -/
def register (names : List String) (spec : DialectSpec) (dialects : Dialects) : Dialects :=
  (if names.isEmpty then spec.driverNames else names).foldl
    (fun acc name => Entries.put (Text.lower name) spec acc) dialects

/-- The dialect for a driver name. -/
def create (driverName : String) (dialects : Dialects) : Except Failure Dialect :=
  match Entries.get? (Text.lower driverName) dialects with
  | some spec => spec.dialect?
  | none => .ok (.generic driverName)

/-- The registered driver names in code point order. -/
def names (dialects : Dialects) : List String := (Entries.keys dialects).mergeSort (· ≤ ·)

/-- The descriptions that are there from the start. -/
def standardSpecs : List DialectSpec := [
  { kind := "MySQLDialect", name := some "mysql", quoteMark := some "\x60"
    driverNames := ["mysql", "mariadb"] },
  { kind := "SQLiteDialect", name := some "sqlite", quoteMark := some "\x60"
    driverNames := ["sqlite", "sqlite2", "sqlite3"] },
  { kind := "PostgresDialect", name := some "postgres", quoteMark := some "\x22"
    returnsIds := true, driverNames := ["pgsql", "postgres", "postgresql"] },
  { kind := "SQLServerDialect", name := some "sqlserver", quoteMark := some "\x22"
    limitStyle := .top, driverNames := ["sqlsrv", "dblib", "mssql"] },
  { kind := "SybaseDialect", name := some "sybase", quoteMark := some "\x22"
    driverNames := ["sybase"] },
  { kind := "FirebirdDialect", name := some "firebird", quoteMark := some "\x22"
    limitKeyword := "ROWS", offsetKeyword := "TO", driverNames := ["firebird"] }]

/-- The table that is there from the start. -/
def standard : Dialects := standardSpecs.foldl (fun acc spec => register [] spec acc) []

end Dialects

end FluentSql
