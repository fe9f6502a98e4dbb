import FluentSql.Changes.Write
import FluentSql.Record.Build
/-
# FluentSql.Record.Write — saving and deleting rows.

A new record is inserted, another one updated if anything was edited. The record stops being new as
soon as its INSERT has gone through; if part of its key is still null then, the key comes from the
returned row on dialects that return one, and otherwise from the driver. At the end all edits are
forgotten.
-/

namespace FluentSql.Record

variable {E : Environment}

/-- Clears the cache of the connection if it is configured so. -/
def autoClearCache : Record.Action E Unit := do
  let r ← current
  if (← inWorld (Connection.settings r.connection)).cachingAutoClear then
    inWorld (Connection.clearCache (.text r.table) r.connection)

/-- Executes a write and clears the cache if it is configured so. -/
def executeWrite (sql : Sql) : Record.Action E Statement := do
  let statement ← inWorld (Connection.execute (← current).connection sql.text sql.params.toValue)
  autoClearCache
  return statement

/-- Adds the fields of a row to the data, or those of a sequence of pairs one by one. -/
def addFields (row : Value) : Record.Action E Unit := do
  let add (fields : Row) : Record.Action E Unit :=
    changeRow fun c => { c with data := Entries.putAll c.data fields }
  match (← heap).entries? row with
  | some fields => add fields
  | none =>
    let pairs ← inHeap (Heap.items row)
    pairs.forM fun pair => do add [← inHeap (Heap.pair pair)]

/-- Fills in the key that the database made. -/
def fillKey (keyColumns : List Value) (statement : Statement) : Record.Action E Unit := do
  let connection := (← current).connection
  if (← inWorld (Connection.dialect connection)).returnsIds then
    match ← inWorld (Connection.fetchRow statement) with
    | some row => addFields row
    | none => pure ()
  else
    let driver ← inWorld (Connection.driver connection)
    let id ← inWorld (Connection.lastInsertId driver)
    match keyColumns with
    | [] => throw .outOfRange
    | column :: _ =>
      -- The driver knows one number only, which goes to the first column of the key.
      inHeap (Heap.requireKey column)
      changeRow fun c => { c with data := Entries.put column id c.data }

/-- The changes with the text of the inlined fields in place. -/
def readyChanges : Record.Action E Changes := do
  return (← current).changes.mapInlined (← heap).settle

/-- Fields or key columns as they are written. -/
def quotedAll (rendering : Rendering) (names : List Value) : Step Heap (List String) :=
  names.mapM fun name => do Identifier.quote? rendering.mark (← Heap.identifier name)

/-- The key columns that an INSERT returns, if its dialect returns any. -/
def returnedColumns (rendering : Rendering) (keyColumns : List Value) : Step Heap String := do
  if rendering.dialect.returnsIds then
    Identifier.quote? rendering.mark (.list ((← get).settleAll keyColumns))
  else return ""

/-- The INSERT of the record. -/
def insertion (rendering : Rendering) (keyColumns : List Value) : Record.Action E Sql := do
  let changes ← readyChanges
  let fields ← inHeap (quotedAll rendering (Entries.keys changes.dirty))
  let returning ← inHeap (returnedColumns rendering keyColumns)
  return changes.insert rendering (← current).table fields returning

/-- The UPDATE of the row of the record. -/
def updating (rendering : Rendering) (keyColumns : List Value) : Record.Action E Sql := do
  let values ← keyValues
  let changes ← readyChanges
  let fields ← inHeap (quotedAll rendering (Entries.keys changes.dirty))
  let columns ← inHeap (quotedAll rendering keyColumns)
  return changes.update rendering (← current).table fields columns values

/-- Executes a write of the record and forgets its edits. A new record is an old one then, and gets
what is missing of its key. -/
def saveWith (keyColumns : List Value) (sql : Sql) : Record.Action E Unit := do
  let statement ← executeWrite sql
  if (← current).changes.isNew then
    -- The row is in the database now, whatever happens while its key is looked for.
    changeRow fun c => { c with isNew := false }
    if (← nullKeyCount) ≠ 0 then
      fillKey keyColumns statement
  changeRow Changes.markClean

/-- A statement with everything in place that its parameters refer to. -/
def settledSql (sql : Sql) : Step Heap Sql := do
  return { sql with params := (← get).settleParams sql.params }

/-- The three statements that write a row, made one after the other. Key columns and values may come
as any sequences; a sequence that can be gone through only once has nothing left for the next. -/
def writes (rendering : Rendering) (table : String) (changes : Changes)
    (keyColumns keyValues : Value) : Step Heap (Sql × Sql × Sql) := do
  let fields ← quotedAll rendering (Entries.keys changes.dirty)
  let returning ←
    if rendering.dialect.returnsIds then returnedColumns rendering (← Heap.items keyColumns)
    else pure ""
  let insert := changes.insert rendering table fields returning
  let columns ← quotedAll rendering (← Heap.items keyColumns)
  let update := changes.update rendering table fields columns (← Heap.items keyValues)
  -- The key is gone through once more, which may find nothing left of it.
  let columns ← quotedAll rendering (← Heap.items keyColumns)
  let delete := Changes.delete rendering table columns (← Heap.items keyValues)
  return (← settledSql insert, ← settledSql update, ← settledSql delete)

/-- Saves the record; one that is not new and not edited is left alone. -/
def save : Record.Action E Unit := do
  let rendering ← rendering
  let keyColumns := (← key).columns
  let changes := (← current).changes
  if changes.isNew then
    saveWith keyColumns (← insertion rendering keyColumns)
  else if changes.hasChanges then
    saveWith keyColumns (← updating rendering keyColumns)

/-- Deletes the row of the record. -/
def delete : Record.Action E Unit := do
  let rendering ← rendering
  let keyColumns := (← key).columns
  let values ← keyValues
  let columns ← inHeap (quotedAll rendering keyColumns)
  discard <| executeWrite (Changes.delete rendering (← current).table columns values)

/-- Deletes the rows that the query selects. -/
def deleteMany : Record.Action E Unit := do
  let rendering ← rendering
  discard <| executeWrite (← (← current).query.deleteMany rendering)

end FluentSql.Record
