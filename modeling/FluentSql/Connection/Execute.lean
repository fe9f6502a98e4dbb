import FluentSql.Connection.Drivers
import FluentSql.Connection.Statement
/-
# FluentSql.Connection.Execute — executing statements and fetching their rows.

A statement that the database accepted becomes the last one of the session and, if the connection
logs, goes into the log with its parameters filled in. A statement that failed leaves no trace here.

The rows of a native driver are whatever it hands out; those of the other drivers are mappings.
-/

namespace FluentSql.Connection

open Session (current change outside inHeap callHook)

variable {E : Environment}

/-- Sends a statement over a driver. -/
def send (driver : Driver) (sql params : Value) : Action E Statement := do
  let (text, sent) ← inHeap (prepare driver.kind sql params)
  -- Nothing is kept of a statement that fails here.
  let reply ← outside (E.execute driver.link text sent)
  match driver.kind with
  | .native _ => pure ()
  | _ => change fun s => { s with
      lastRowIds := (driver.link, reply.lastRowId) :: s.lastRowIds.filter (·.1 != driver.link) }
  return driver.kind.statement reply

/-- Logs an executed statement if the connection logs. -/
def logQuery (connection : String) (sql params : Value) : Action E Unit := do
  let settings ← settings connection
  if settings.logging then
    discard <| driver connection
    let text ← inHeap (forDisplay sql params)
    change fun s => { s with log := s.log.record connection text }
    match settings.logger with
    | some hook => discard <| callHook hook (.log text)
    | none => pure ()

/-- Executes a statement on a connection. -/
def execute (connection : String) (sql params : Value) : Action E Statement := do
  let driver ← driver connection
  let statement ← send driver sql params
  -- The database has accepted the statement, also if logging it fails.
  change fun s => { s with lastStatement := some statement }
  logQuery connection sql params
  return statement

/-- The next rows of a statement, all that are left or at most as many as given. -/
def fetch (statement : Statement) (count : Option Nat) : Action E (List Value) := do
  match statement.shape with
  | .nothing => return []
  | .whole => outside (E.fetch statement.cursor count)
  | .positional columns =>
    (← outside (E.fetch statement.cursor count)).mapM fun arrived => do
      return .map (RowShape.rowOf columns (← inHeap (Heap.items arrived)))

/-- The next row of a statement. -/
def fetchRow (statement : Statement) : Action E (Option Value) := do
  return (← fetch statement (some 1)).head?

/-- The rows that are left of a statement. -/
def fetchAll (statement : Statement) : Action E (List Value) := fetch statement none

/-- The number that a driver reports for its last insertion. -/
def lastInsertId (driver : Driver) : Action E Value := do
  match driver.kind with
  | .native _ => outside (E.insertId driver.link)
  | _ => return (← current).lastRowId driver.link

end FluentSql.Connection
