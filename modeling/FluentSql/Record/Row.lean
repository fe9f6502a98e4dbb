import FluentSql.Record.Scope
/-
# FluentSql.Record.Row — the row of a record and its key.

Fields are written and removed by name. Several fields at once come as a mapping; whole rows come as a
mapping or as pairs. The key of a record is its own, or else the one that is configured for its table.
-/

namespace FluentSql.Record

variable {E : Environment}

/-! ## Editing -/

/-- The row that some data stand for; data that count as empty are no fields. -/
def rowOf (data : Value) : FluentSql.Action E Row := do
  if ← Connection.isTrue data then Session.inHeap (Heap.row data) else return []

/-- A record with data that count as saved. -/
def ofData (table connection : String) (data : Value) : FluentSql.Action E Record := do
  let row ← rowOf data
  return { onTable table connection with changes := .ofRow row }

/-- Replaces the data and leaves the edits. -/
def hydrate (data : Value) : Record.Action E Unit := do
  let row ← inWorld (rowOf data)
  changeRow (·.hydrate row)

/-- Marks the record as new. Data that are given replace those of the record, and all of them count
as edited. -/
def create (data : Value) : Record.Action E Unit := do
  changeRow fun c => { c with isNew := true }
  match data with
  | .null => pure ()
  | data =>
    hydrate data
    changeRow Changes.forceAllDirty

/-- Writes one field, or the fields of a mapping, as values to bind or as SQL text. -/
def write (key value : Value) (asSql : Bool) : Record.Action E Unit := do
  match (← heap).entries? key with
  | some entries => changeRow (·.setAll entries asSql)
  | none =>
    inHeap (Heap.requireKey key)
    changeRow (·.set key value asSql)

/-- Removes a field with its edits. -/
def remove (key : Value) : Record.Action E Unit := do
  inHeap (Heap.requireKey key)
  changeRow (·.unset key)

/-! ## Looking at it -/

/-- The fields of a row in some columns, each column once; those that are not there are null. -/
def fieldsIn (row : Row) (columns : Value) : Step Heap Row := do
  let fields ← Heap.forItems columns fun column => do
    return (column, .ofOption (← Heap.entryOf? column row))
  return Entries.ofPairs fields

/-- The value of a field in a row, which is null if there is none, or the values of several fields. -/
def valueIn (row : Row) (key : Value) : Step Heap Value := do
  if key.asText?.isSome then return .ofOption (Entries.get? key row)
  else return .map (← fieldsIn row key)

/-- The value of a field of the record, or the values of several. -/
def valueAt (key : Value) : Record.Action E Value := do
  inHeap (valueIn (← current).changes.data key)

/-- The data, or those of them whose fields are among some names. -/
def dataAt (names : List Value) : Record.Action E Row := do
  let data := (← current).changes.data
  if names.isEmpty then return data
  inHeap (data.filterM fun e => Heap.contains e.1 (.tuple names))

/-! ## The key -/

/-- Sets the key of this record only: a column, a sequence of columns, or null for none. -/
def useKey (key : Value) : Record.Action E Unit := do
  match key, key.asText? with
  | .null, _ => change fun r => { r with ownKey := none }
  | key, some _ => change fun r => { r with ownKey := some (.single key) }
  | key, none =>
    let columns ← inHeap (Heap.items key)
    change fun r => { r with ownKey := some (.compound columns) }

/-- The key of the record: its own, or else the one that is configured for its table. -/
def key : Record.Action E KeyColumns := do
  let r ← current
  match r.ownKey with
  | some key => return key
  | none => return (← inWorld (Connection.settings r.connection)).keyOf (← heap) r.table

/-- The value of the key: that of its column, or a mapping of its columns. -/
def keyValue : Record.Action E Value := do
  match ← key with
  | .compound columns => valueAt (.list columns)
  | .single column => valueAt column

/-- The keys of the null entries. -/
def nullKeys (entries : Row) : List Value := (entries.filter fun e => e.2.isNull).map (·.1)

/-- Fails because key columns are null. -/
def refuseNull {α : Type} (columns : List Value) : Record.Action E α := do
  throw (Failure.ofNullColumns (← current).table columns)

/-- The value of the key, no part of which may be null. A mapping has its entries as parts. -/
def presentKeyValue : Record.Action E Value := do
  let value ← keyValue
  match (← heap).entries? value with
  | some entries => if !(nullKeys entries).isEmpty then refuseNull (nullKeys entries)
  | none => if value.isNull then refuseNull (← key).columns
  return value

/-- How many parts of the key are null. -/
def nullKeyCount : Record.Action E Nat := do
  let value ← keyValue
  match (← heap).entries? value with
  | some entries => return (nullKeys entries).length
  | none => return if value.isNull then 1 else 0

/-- The values of the key columns, none of which may be null. -/
def keyValues : Record.Action E (List Value) := do
  let value ← presentKeyValue
  match (← heap).entries? value with
  | some entries => return Entries.values entries
  | none => return [value]

end FluentSql.Record
