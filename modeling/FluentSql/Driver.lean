import FluentSql.ParamStyle
import FluentSql.Value.Key
/-
# FluentSql.Driver — how statements reach a database.

A driver sends statements over a link to a database outside. A native driver passes everything on as
it is. The other two adapt the interface of a library: the SQLite driver binds a tuple or a mapping,
the toolkit driver restyles the placeholders for the connection.

An executed statement knows how its rows arrive: as they are to be given, as bare values to be matched
with the columns of the statement, or not at all.
-/

namespace FluentSql

/-- A connection to a database outside, by number. -/
structure Link where
  id : Nat
  deriving Repr, DecidableEq, Inhabited

/-- The kinds of drivers. -/
inductive DriverKind where
  /-- A driver of the caller that reports this dialect. -/
  | native (dialectName : String)
  | sqlite
  /-- A connection of the toolkit with its dialect and its placeholder style. -/
  | toolkit (dialectName paramStyle : String)
  deriving Repr, DecidableEq, Inhabited

namespace DriverKind

/-- The name under which the dialect is looked up. -/
def dialectName : DriverKind → String
  | .native name => name
  | .sqlite => "sqlite"
  | .toolkit name _ => name

end DriverKind

/-- A driver. -/
structure Driver where
  kind : DriverKind
  link : Link
  deriving Repr, DecidableEq, Inhabited

/-- What a database answers to a statement. -/
structure Reply where
  /-- The number under which rows are fetched. -/
  cursor : Nat
  columns : Option (List String)
  rowcount : Int
  lastRowId : Value
  deriving Repr, Inhabited

/-- How the rows of a statement arrive. -/
inductive RowShape where
  | nothing
  | whole
  | positional (columns : List String)
  deriving Repr, DecidableEq, Inhabited

/-- An executed statement. -/
structure Statement where
  cursor : Nat
  shape : RowShape
  rowcount : Int
  /-- The last row number, where the statement itself reports it. -/
  lastRowId : Option Value
  deriving Repr, Inhabited

namespace DriverKind

/-- How rows arrive under a reply. -/
def rowShape : DriverKind → Option (List String) → RowShape
  | .native _, _ => .whole
  | _, none => .nothing
  | .sqlite, some [] => .nothing
  | _, some columns => .positional columns

/-- The statement that a reply belongs to. -/
def statement (kind : DriverKind) (reply : Reply) : Statement where
  cursor := reply.cursor
  shape := kind.rowShape reply.columns
  rowcount := reply.rowcount
  lastRowId := match kind with | .toolkit _ _ => some reply.lastRowId | _ => none

end DriverKind

/-- The row of values in the order of their columns. Of several columns of one name the last value
counts. -/
def RowShape.rowOf (columns : List String) (items : List Value) : Row :=
  Entries.ofPairs ((columns.map .text).zip items)

end FluentSql
