import FluentSql.Record.Method
/-
# FluentSql.Object — what references lead to, as things that can be used.

An object is used through the value that refers to it. What it gives is kept in the heap where it can
be changed or held by several, and is a value otherwise.
-/

namespace FluentSql.Object

variable {E : Environment}

/-- The heap. -/
def heap : Action E Heap := do return (← get).heap

/-- The cell that a value refers to. -/
def cell? (v : Value) : Action E (Option Cell) := do
  match v with
  | .ref id => return (← heap).cell? id
  | _ => return none

/-- Keeps a new record. -/
def newRecord (r : Record) : Action E Value := Session.inHeap (Heap.add (.record r))

/-- Hands a value out. -/
def share (v : Value) : Action E Value := Session.inHeap (Heap.share v)

/-- The number and the items of the list behind an object, if there is one. -/
def listBehind? (object : Value) : Action E (Option (Nat × List Value)) := do
  match object, ← cell? object with
  | .ref id, some (.list items) => return some (id, items)
  | _, some (.resultSet list) => return some (list, (← heap).listItems list)
  | _, _ => return none

end FluentSql.Object
