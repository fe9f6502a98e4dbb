import FluentSql.Script.Outside
/-
# FluentSql.Script.Stage — the state that the steps of a script share.

A script keeps results under names. A name stands for a value; what can be changed lives in the heap,
so a change shows through every name that leads to it.
-/

namespace FluentSql.Script

/-- The state of a script. -/
structure Stage where
  world : World Outside
  names : Entries String Value := []

/-- A step of a script. -/
abbrev Scene (α : Type) := Step Stage α

namespace Scene

/-- Does something in the world. -/
def inWorld {α : Type} (action : Action Outside.environment α) : Scene α :=
  Step.onPart Stage.world (fun w s => { s with world := w }) action

/-- Does something with the heap. -/
def inHeap {α : Type} (step : Step Heap α) : Scene α := inWorld (Session.inHeap step)

/-- The heap. -/
def heap : Scene Heap := do return (← get).world.heap

/-- The session. -/
def session : Scene Session := do return (← get).world.session

/-- Changes what lies outside. -/
def changeOutside {α : Type} (f : Outside → α × Outside) : Scene α :=
  inWorld <| Session.outside fun o =>
    let (result, o) := f o
    (.ok result, o)

/-- Refers to a new cell. -/
def newCell (cell : Cell) : Scene Value := inHeap (Heap.add cell)

/-- Gives a value out. -/
def share (v : Value) : Scene Value := inHeap (Heap.share v)

end Scene

end FluentSql.Script
