import FluentSql.Changes.Edit
import FluentSql.Heap.Share
import FluentSql.Record.Write
import FluentSql.Value.Order
/-
# FluentSql.Script.Edits — scripts that only edit a row.

Such a script has a row of its own, without a table or a connection. Every value that it writes is a
thing of its own, so that a not-a-number is a field apart from every other. A step that names a field
that cannot be one, or data that are no row, fails and changes nothing.
-/

namespace FluentSql.Script

open Changes (Edit)

/-- A step that edits a row. -/
inductive EditStep where
  | set (field value : Value) (asSql : Bool)
  | unset (field : Value)
  | hydrate (data : Value)
  | forceAllDirty
  | markClean
  | setNew (isNew : Bool)
  deriving Repr, Inhabited

namespace EditStep

/-- A field that a step names. -/
def field (field : Value) : Step Heap Value := do
  let field ← Heap.share field
  Heap.requireKey field
  return field

/-- The operation that a step stands for. -/
def edit : EditStep → Step Heap Edit
  | .set name value asSql => do return .set (← field name) (← Heap.share value) asSql
  | .unset name => do return .unset (← field name)
  | .hydrate data => do return .hydrate (← Heap.row (← Heap.share data))
  | .forceAllDirty => return .forceAllDirty
  | .markClean => return .markClean
  | .setNew isNew => return .setNew isNew

end EditStep

/-- What is told about a row, with everything in place. -/
structure ChangesReport where
  data : Row
  dirty : Row
  /-- The inlined fields in order. -/
  inlined : List Value
  isNew : Bool
  bound : List Value
  hasChanges : Bool
  deriving Repr, Inhabited

/-- A row with everything in place. -/
def settledRow (h : Heap) (row : Row) : Row := row.map fun e => (h.settle e.1, h.settle e.2)

/-- The report on a row; there is none if the inlined fields have no order. -/
def reportChanges (h : Heap) (c : Changes) : Except Failure ChangesReport := do
  let inlined ← Value.sorted? (h.settleAll c.inlined)
  .ok {
    data := settledRow h c.data
    dirty := settledRow h c.dirty
    inlined
    isNew := c.isNew
    bound := h.settleAll c.boundValues
    hasChanges := c.hasChanges }

/-- The row that data stand for; data that count as empty are no fields. -/
def startingRow (data : Value) : Step Heap Row := do
  let data ← Heap.share data
  if (← get).isTrue data then Heap.row data else return []

/-- Runs the steps on a row with the given data: what is told after each of them. -/
def trackEdits (data : Value) (steps : List EditStep) :
    Step Heap (List (Except Failure ChangesReport)) := do
  let row ← startingRow data
  let edits ← steps.mapM fun step => step.edit.attempt
  let h ← get
  return (Changes.outcomes edits (.ofRow row)).map fun outcome => outcome.bind (reportChanges h)

/-- The statements that write a row that was empty before the steps. -/
def writeEdits (rendering : Rendering) (table : String) (steps : List EditStep)
    (keyColumns keyValues : Value) : Step Heap (Sql × Sql × Sql) := do
  let changes := Changes.applyAll {} (← steps.mapM EditStep.edit)
  let keyColumns ← Heap.share keyColumns
  let keyValues ← Heap.share keyValues
  let changes := changes.mapInlined (← get).settle
  Record.writes rendering table changes keyColumns keyValues

end FluentSql.Script
