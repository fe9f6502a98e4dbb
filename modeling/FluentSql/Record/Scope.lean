import FluentSql.Connection.Reads
/-
# FluentSql.Record.Scope — a record that acts in a world.

What a record does, it does in a world: it may open its connection, execute statements and use the
cache, and it looks at values through the heap. If the heap keeps the record, everything that happens
in the world meets the record as it is then, and what happens to it there happens to the record that
acts.
-/

namespace FluentSql.Record

/-- A record and the world that it acts in. -/
structure Scope (E : Environment) where
  record : Record
  world : World E.State
  /-- The number under which the heap keeps the record, if it does. -/
  number : Option Nat := none

/-- What a record does. -/
abbrev Action (E : Environment) (α : Type) := Step (Scope E) α

namespace Scope

variable {E : Environment}

/-- The world with the record in its place in the heap. -/
def published (s : Scope E) : World E.State :=
  match s.number with
  | some id => { s.world with heap := s.world.heap.replace id (.record s.record) }
  | none => s.world

/-- The scope in a world, with the record that the heap keeps there. -/
def renewed (world : World E.State) (s : Scope E) : Scope E :=
  match s.number.bind world.heap.cell? with
  | some (.record record) => { s with world, record }
  | _ => { s with world }

end Scope

variable {E : Environment}

/-- Lets the record that the heap keeps under a number do something. -/
def act {α : Type} (id : Nat) (r : Record) (action : Record.Action E α) : FluentSql.Action E α :=
  Step.onPart (fun world => { record := r, world, number := some id })
    (fun scope _ => scope.published) action

/-- The record itself. -/
def current : Record.Action E Record := do return (← get).record

/-- Changes the record. -/
def change (f : Record → Record) : Record.Action E Unit :=
  modify fun s => { s with record := f s.record }

/-- Changes the query of the record. -/
def changeQuery (f : Query → Query) : Record.Action E Unit :=
  change fun r => { r with query := f r.query }

/-- Changes the row of the record. -/
def changeRow (f : Changes → Changes) : Record.Action E Unit :=
  change fun r => { r with changes := f r.changes }

/-- Does something in the world. -/
def inWorld {α : Type} (action : FluentSql.Action E α) : Record.Action E α :=
  Step.onPart Scope.published Scope.renewed action

/-- Does something with the heap. -/
def inHeap {α : Type} (step : Step Heap α) : Record.Action E α := inWorld (Session.inHeap step)

/-- The heap. -/
def heap : Record.Action E Heap := do return (← get).published.heap

/-- The plain text of a value. -/
def displayed (v : Value) : Record.Action E String := do return ((← heap).settle v).display

/-- A quoted identifier or list of identifiers. -/
def quote (identifier : Value) : Record.Action E String := do
  inWorld (Connection.quote (← current).connection identifier)

/-- How the statements of the record are written. -/
def rendering : Record.Action E Rendering := do
  inWorld (Connection.rendering (← current).connection)

end FluentSql.Record
