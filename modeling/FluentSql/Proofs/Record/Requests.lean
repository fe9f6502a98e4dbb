import FluentSql.Record.Read
import FluentSql.Record.Write
/-
# FluentSql.Proofs.Record.Requests — the statements that records send.

Everything that a record asks of its database is a statement, which is written first and sent then. Here
the first part stands by itself for each of the four ways of asking, so that what is written can be told
from what happens to it.
-/

namespace FluentSql

/-- The ways in which a record asks for something: it reads the rows of its query or deletes them, and it
saves or deletes its own row. -/
inductive Request where
  | rows
  | deleteMany
  | save
  | delete

namespace Record

variable {E : Environment}

/-- The statement that a save sends, with the key columns, if it sends any. -/
def pendingWrite : Record.Action E (Option (List Value × Sql)) := do
  let rendering ← rendering
  let keyColumns := (← key).columns
  let changes := (← current).changes
  if changes.isNew then
    return some (keyColumns, ← insertion rendering keyColumns)
  else if changes.hasChanges then
    return some (keyColumns, ← updating rendering keyColumns)
  else return none

/-- The DELETE of the row of the record. -/
def deletion : Record.Action E Sql := do
  let rendering ← rendering
  let keyColumns := (← key).columns
  let values ← keyValues
  let columns ← inHeap (quotedAll rendering keyColumns)
  return Changes.delete rendering (← current).table columns values

/-- The DELETE of the rows that the query selects. -/
def deletionOfMany : Record.Action E Sql := do
  let rendering ← rendering
  (← current).query.deleteMany rendering

/-- The statement that a request sends, if it sends any. -/
def statement : Request → Record.Action E (Option Sql)
  | .rows => some <$> compileSelect
  | .deleteMany => some <$> deletionOfMany
  | .save => Option.map (·.2) <$> pendingWrite
  | .delete => some <$> deletion

/-- Saving sends the statement and tidies up after it. -/
theorem save_eq :
    (save : Record.Action E Unit) = (do
      match ← pendingWrite with
      | some (keyColumns, sql) => saveWith keyColumns sql
      | none => pure ()) := by
  simp only [save, pendingWrite, bind_assoc]
  congr 1; funext rendering
  congr 1; funext keyColumns
  congr 1; funext record
  split
  · simp
  · split <;> simp

/-- What a save does after its statement was executed. -/
def finishSave (keyColumns : List Value) (statement : Statement) : Record.Action E Unit := do
  if (← current).changes.isNew then
    changeRow fun c => { c with isNew := false }
    if (← nullKeyCount) ≠ 0 then
      fillKey keyColumns statement
  changeRow Changes.markClean

theorem saveWith_eq (keyColumns : List Value) (sql : Sql) :
    (saveWith keyColumns sql : Record.Action E Unit) = executeWrite sql >>= finishSave keyColumns := rfl

theorem delete_eq :
    (delete : Record.Action E Unit) = (do discard <| executeWrite (← deletion)) := by
  simp only [delete, deletion, bind_assoc, pure_bind]

theorem deleteMany_eq :
    (deleteMany : Record.Action E Unit) = (do discard <| executeWrite (← deletionOfMany)) := by
  simp only [deleteMany, deletionOfMany, bind_assoc]

end Record

end FluentSql
