import FluentSql.Value.Text
/-
# FluentSql.Failure — why an operation fails.

Every failure is a cause with the data that belongs to it; the wording of a cause is given by one
function. The causes fall into four groups: wrong settings, records and queries that cannot be turned
into SQL, failures of the database that pass through unchanged, and values of the wrong shape.
-/

namespace FluentSql

/-- What needs the database toolkit that is not installed. -/
inductive ToolkitUse where
  /-- Opening an address. -/
  | opening (address : Value)
  /-- Wrapping a connection that is already open. -/
  | wrapping
  deriving Repr, Inhabited

/-- The cause of a failure. -/
inductive Failure where
  /-- No option has this key, whose plain text stands beside it. -/
  | unknownOption (key : Value) (keyText connection : String)
  /-- The option does not accept the value. -/
  | invalidOption (key connection : String)
  /-- A write needs key columns that are null. -/
  | nullId (table : String) (columns : List Value)
  /-- A join constraint is neither a text nor a triple. -/
  | joinConstraint (constraint : Value)
  /-- The database toolkit is not installed. -/
  | missingToolkit (use : ToolkitUse)
  /-- The database or a caller's function reported an error. -/
  | database (message : String)
  /-- The value cannot be gone through item by item. -/
  | notIterable
  /-- The value has no length, items or members to look into. -/
  | notContainer
  /-- The value cannot be looked up by. -/
  | notKey
  /-- The arguments do not fit the operation. -/
  | badArguments
  /-- An index is not an integer. -/
  | badIndex
  /-- A dialect lacks its name or its quote character. -/
  | incompleteDialect
  /-- The object has no such member. -/
  | noMember
  /-- A part of an identifier is not a text. -/
  | notText
  /-- A value that should name its fields does not. -/
  | notMapping
  /-- The index lies outside the sequence. -/
  | outOfRange
  /-- A mapping has no entry of the name. -/
  | noEntry
  /-- The value is of the right kind but cannot be meant: a step of zero, or a number that is no
  byte, or a sequence that is no pair. -/
  | badValue
  /-- A number that refuses to be compared was compared with a number. -/
  | incomparable
  /-- An index is larger than any sequence. -/
  | tooLarge
  /-- Values lie inside one another, or calls lead to one another, without an end in sight. -/
  | tooDeep
  deriving Repr, Inhabited

namespace Failure

/-- The text of the failures that have one. -/
def message : Failure → String
  | .unknownOption _ keyText _ => "Unknown configuration option '" ++ keyText ++ "'."
  | .invalidOption key _ => "Invalid value for configuration option '" ++ key ++ "'"
  | .nullId table columns =>
    if 1 < columns.length then
      "Primary key ID contains null value(s) for table '" ++ table ++ "' (columns: " ++
        ", ".intercalate (columns.filterMap Value.asText?) ++ ")."
    else "Primary key ID missing from row or is null for table '" ++ table ++ "'."
  | .joinConstraint constraint =>
    "Join constraint must be a string or a (first_column, operator, second_column) triple, got " ++
      constraint.quoted ++ "."
  | .missingToolkit use =>
    let purpose :=
      match use with
      | .opening address => "to open connection string " ++ address.quoted
      | .wrapping => "for SQLAlchemyDriver"
    "SQLAlchemy is required " ++ purpose ++
      ". Install it with: pip install \"chainql[sqlalchemy]\""
  | .database message => message
  | _ => ""

/-- The values that a failure tells of. -/
def told : Failure → List Value
  | .unknownOption key _ _ => [key]
  | .nullId _ columns => columns
  | _ => []

/-- The failure of a write whose key has null columns. Naming several columns takes texts. -/
def ofNullColumns (table : String) (columns : List Value) : Failure :=
  if 1 < columns.length && columns.any (fun column => column.asText?.isNone) then .badArguments
  else .nullId table columns

end Failure

end FluentSql
