import FluentSql.Connection.Settings
import FluentSql.Rendering
/-
# FluentSql.Connection.Drivers — which driver a connection has, and how its statements are written.

A driver is registered by the caller, or opened from the connection string when it is first needed.
Registering one finds its dialect, and fills in the identifier mark and the limit style if they are
not configured. An empty mark counts as none where identifiers are quoted.
-/

namespace FluentSql.Connection

open Session (current change outside inHeap)

variable {E : Environment}

/-- Makes the dialect for a driver of a connection. -/
def makeDialect (connection : String) (driver : Driver) : Action E MadeDialect := do
  let s ← current
  let dialect ← s.knownDialects.create driver.kind.dialectName
  let made := ⟨s.dialectCount, dialect⟩
  change fun s => { s with
    dialects := Entries.put connection made s.dialects
    dialectCount := s.dialectCount + 1 }
  return made

/-- Registers a driver for a connection. -/
def registerDriver (connection : String) (driver : Driver) : Action E Unit := do
  -- The dialect of an earlier driver is not that of this one.
  change fun s => { s with
    dialects := Entries.erase connection s.dialects
    drivers := Entries.put connection driver s.drivers }
  let dialect := (← makeDialect connection driver).dialect
  let settings ← settings connection
  putSettings connection { settings with
    quoteMark := settings.quoteMark <|> some dialect.quoteMark
    limitStyle := settings.limitStyle <|> some dialect.limitStyle }

/-- Forgets the driver of a connection. -/
def forgetDriver (connection : String) : Action E Unit :=
  change fun s => { s with
    dialects := Entries.erase connection s.dialects
    drivers := Entries.erase connection s.drivers }

/-- The driver of a connection, opened from its connection string if it has none. -/
def driver (connection : String) : Action E Driver := do
  match Entries.get? connection (← current).drivers with
  | some driver => return driver
  | none =>
    let opening := Opening.ofString (← settings connection).connectionString
    let driver := opening.driver (← outside (E.connect opening))
    registerDriver connection driver
    return driver

/-- The dialect that was made for a connection; it is made now if there is none. -/
def madeDialect (connection : String) : Action E MadeDialect := do
  match Entries.get? connection (← current).dialects with
  | some made => return made
  | none => do makeDialect connection (← driver connection)

/-- The dialect of a connection. -/
def dialect (connection : String) : Action E Dialect := do
  return (← madeDialect connection).dialect

/-- The identifier mark of a connection: the one configured, or else that of its dialect. -/
def quoteMark (connection : String) : Action E String := do
  if (← settings connection).quoteMark.isNone then
    discard <| driver connection
  -- Looking for the driver may have filled the mark in, so the settings are read again.
  match (← settings connection).quoteMark with
  | some mark => if mark.isEmpty then return (← dialect connection).quoteMark else return mark
  | none => return (← dialect connection).quoteMark

/-- A quoted identifier or list of identifiers. -/
def quote (connection : String) (identifier : Value) : Action E String := do
  let mark ← quoteMark connection
  Identifier.quote? mark (← inHeap (Heap.identifier identifier))

/-- How the statements of a connection are written. -/
def rendering (connection : String) : Action E Rendering := do
  let dialect ← dialect connection
  let mark ← quoteMark connection
  return ⟨dialect, mark, (← settings connection).limitStyle.getD dialect.limitStyle⟩

end FluentSql.Connection
