import FluentSql.Object.Method
/-
# FluentSql.Proofs.Operation — what can be asked of a connection.

A connection is configured, gets drivers, makes records, and lets them read and write. Everything that is
asked of it by its name, or of a record that belongs to it, is an operation.
-/

namespace FluentSql

/-- What can be asked of a connection. -/
inductive Operation where
  /-- Sets options, or one option. -/
  | configure (key : Value) (value : Option Value)
  /-- The value of an option. -/
  | setting (key : Value)
  /-- The values of all options. -/
  | allSettings
  /-- Registers a driver, or forgets the one that is registered. -/
  | setDriver (driver : Option Driver)
  | driver
  /-- How statements are written. -/
  | rendering
  | quote (identifier : Value)
  /-- A new record of a table. -/
  | forTable (table : String)
  /-- A call of the record that the heap keeps under a number. -/
  | call (number : Nat) (call : Record.Call)
  | execute (sql params : Value)
  | clearCache (table : Value)
  /-- The statements in the log. -/
  | queryLog
  | lastQuery
  deriving Repr, Inhabited

namespace Operation

variable {E : Environment}

/-- What an operation gives. -/
inductive Answer where
  | nothing
  | value (v : Value)
  | driver (d : Driver)
  | rendering (r : Rendering)
  | statement (s : Statement)
  deriving Inhabited

/-- Calls the record that the heap keeps under a number, which has to be one of the connection. -/
def callRecord (connection : String) (number : Nat) (asked : Record.Call) : Action E Value := do
  match (← get).heap.cell? number with
  | some (.record r) =>
    if r.connection = connection then
      Object.shareOutcome (.ref number) (← Record.act number r (Record.perform asked))
    else throw .noMember
  | _ => throw .noMember

/-- A new record of a table. The driver is looked for, and opened if it is not. -/
def newRecord (connection table : String) : Action E Value := do
  discard <| Connection.driver connection
  Object.newRecord (.onTable table connection)

/-- Does what is asked of a connection. -/
def perform (connection : String) : Operation → Action E Answer
  | .configure key value => do
    Connection.configure connection key value
    return .nothing
  | .setting key => do return .value (← Connection.setting connection key)
  | .allSettings => do return .value (← Connection.allSettings connection)
  | .setDriver (some d) => do
    Connection.registerDriver connection d
    return .nothing
  | .setDriver none => do
    Connection.forgetDriver connection
    return .nothing
  | .driver => do return .driver (← Connection.driver connection)
  | .rendering => do return .rendering (← Connection.rendering connection)
  | .quote identifier => do return .value (.text (← Connection.quote connection identifier))
  | .forTable table => do return .value (← newRecord connection table)
  | .call number asked => do return .value (← callRecord connection number asked)
  | .execute sql params => do return .statement (← Connection.execute connection sql params)
  | .clearCache table => do
    Connection.clearCache table connection
    return .nothing
  | .queryLog => do return .value (.list ((← Session.current).log.of connection))
  | .lastQuery => do return .value ((← Session.current).log.lastOf connection)

end Operation

end FluentSql
