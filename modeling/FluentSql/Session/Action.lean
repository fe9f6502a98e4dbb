import FluentSql.Environment
/-
# FluentSql.Session.Action — what changes a session.

An action works on a world: a session with its heap, and what lies outside. Failing does not undo what
it did before.
-/

namespace FluentSql

/-- A computation over a world that may fail. -/
abbrev Action (E : Environment) (α : Type) := Step (World E.State) α

namespace Session

variable {E : Environment}

/-- The state of the session. -/
def current : Action E Session := do return (← get).session

/-- Changes the state of the session. -/
def change (f : Session → Session) : Action E Unit :=
  modify fun w => { w with session := f w.session }

/-- Does something with the heap. -/
def inHeap {α : Type} (step : Step Heap α) : Action E α :=
  Step.onPart World.heap (fun h w => { w with heap := h }) step

/-- Lets something happen outside. -/
def outside {α : Type} (transition : E.State → Except Failure α × E.State) : Action E α :=
  Step.onPart World.outside (fun s w => { w with outside := s }) (.ofTransition transition)

/-- Calls a function of the caller. -/
def callHook (hook : Hook) (call : HookCall) : Action E Value := E.call hook call

/-- Forgets the settings of all connections. -/
def resetSettings : Action E Unit := change forgetSettings

/-- Returns to the state of a new session; the known dialects stay. -/
def reset : Action E Unit :=
  change fun s => { s.forgetSettings with
    drivers := [], dialects := [], chosenStores := [], memory := []
    log := {}, lastStatement := none }

/-- Forgets all drivers. -/
def resetDrivers : Action E Unit := change fun s => { s with drivers := [], dialects := [] }

/-- The connections that have a driver, in the order in which they got one. -/
def connectionNames : Action E (List String) := do return Entries.keys (← current).drivers

/-- Adds a dialect to those that drivers are matched with. -/
def registerDialect (names : List String) (spec : DialectSpec) : Action E Unit :=
  change fun s => { s with knownDialects := s.knownDialects.register names spec }

end Session

end FluentSql
