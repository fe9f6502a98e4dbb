import FluentSql.Aggregate
import FluentSql.Record.Build
/-
# FluentSql.Record.Read — reading rows and aggregates.

Every read compiles the query, gets the rows through the cache, and returns to the default result
columns. A row becomes a record of its own that has the row as its saved data and nothing of the
query. Reading one row sets the limit to one.
-/

namespace FluentSql.Record

variable {E : Environment}

/-- The rows of the query. -/
def rows : Record.Action E (List Value) := do
  let sql ← compileSelect
  let r ← current
  let rows ← inWorld (Connection.read r.connection sql.text sql.params.toValue (.text r.table))
  changeQuery Query.resetColumns
  return rows

/-- The record of a row. -/
def ofRow (row : Value) : Record.Action E Record := do
  let r ← current
  -- Making a record looks for the driver, which is opened if it is not.
  discard <| inWorld (Connection.driver r.connection)
  let row ← inWorld (rowOf row)
  return { onTable r.table r.connection with changes := .ofRow row, ownKey := r.ownKey }

/-- The records of all rows. -/
def findMany : Record.Action E (List Record) := do
  let rows ← rows
  rows.mapM ofRow

/-- The record of the first row, if there is one. An id that is not null becomes a condition. -/
def findOne (id : Value) : Record.Action E (Option Record) := do
  if !id.isNull then
    keyIs .whereClause id
  build (.limit (.int 1))
  match ← rows with
  | [] => return none
  | row :: _ => return some (← ofRow row)

/-- Whether reading many rows of the record gives a result set. -/
def givesResultSet : Record.Action E Bool := do
  return (← inWorld (Connection.settings (← current).connection)).returnResultSets

/-- The aggregates. -/
inductive Aggregation where
  | count
  | max
  | min
  | avg
  | sum
  deriving Repr, DecidableEq

/-- The name of the column that holds the aggregate. -/
def Aggregation.column : Aggregation → String
  | .count => "count"
  | .max => "max"
  | .min => "min"
  | .avg => "avg"
  | .sum => "sum"

/-- The SQL function of the aggregate. -/
def Aggregation.function : Aggregation → String
  | .count => "COUNT"
  | .max => "MAX"
  | .min => "MIN"
  | .avg => "AVG"
  | .sum => "SUM"

/-- The argument of an aggregate: all rows, or a quoted column. -/
def aggregateArgument (column : Value) : Record.Action E String := do
  match column with
  | .text "*" => return "*"
  | column => quote column

/-- A value that an aggregate gave, as a number. -/
def coerced (v : Value) : Record.Action E Value := do
  match v with
  | .ref _ => return v
  | v => return Aggregate.coerce v

/-- The aggregate of a column, as a number. The result columns are replaced for the one read and put
back afterwards, whether it failed or not. -/
def aggregate (aggregation : Aggregation) (column : Value) : Record.Action E Value := do
  let argument ← aggregateArgument column
  let saved := (← current).query
  -- Without the default columns nothing but the aggregate is selected.
  changeQuery fun q => { q with columns := [], usesDefaultColumns := false }
  selectExpr (.text (aggregation.function ++ "(" ++ argument ++ ")")) (.text aggregation.column)
  let found ← (findOne .null).andThenAlways fun s =>
    { s with record.query.columns := saved.columns
             record.query.usesDefaultColumns := saved.usesDefaultColumns }
  match found with
  | none => return .int 0
  | some r => coerced (.ofOption (Entries.get? (.text aggregation.column) r.changes.data))

end FluentSql.Record
