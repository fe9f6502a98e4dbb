import FluentSql.Script.Stage
/-
# FluentSql.Script.Report — what is told about the result of a step.

A record is told by its view: its table and connection, its data, which of them are dirty, and the
SELECT that it stands for. Compiling that SELECT may open the connection of the record. Everything
that a value refers to is told in its place.
-/

namespace FluentSql.Script

mutual

/-- What is told about an object. -/
inductive Report where
  | value (v : Value)
  | record (view : View)
  /-- The record that a method was called on and gave back. -/
  | itself (view : View)
  | resultSet (items : List Report)
  | list (items : List Report)
  | fields (entries : List (Report × Report))
  | statement (rowcount : Int)
  | driver (dialectName kind : String)
  | cache (kind : String)
  | sql (text params : Report)
  | dialect (d : Dialect)
  | callable

/-- What is told about a record. -/
structure View where
  table : String
  connection : String
  isNew : Bool
  data : List (Report × Report)
  /-- The dirty fields among the data. -/
  dirty : List Report
  /-- The SELECT of the record with its parameters, or why there is none. -/
  select : Except Failure (Report × Report)

end

instance : Inhabited Report := ⟨.callable⟩

namespace Scene

/-- The word for a kind of driver. -/
def driverKindWord : DriverKind → String
  | .native _ => "MockDriver"
  | .sqlite => "SQLiteDriver"
  | .toolkit _ _ => "SQLAlchemyDriver"

/-- The word for a kind of cache. -/
def cacheKindWord : CacheRef → String
  | .hooks _ _ => "CallbackCacheStore"
  | _ => "InMemoryCacheStore"

mutual

/-- The report on a value, by the reports on what it refers to. -/
def reportWith (known : Nat → Scene Report) : Value → Scene Report
  | .list items => do return .list (← reportAll known items)
  | .tuple items => do return .list (← reportAll known items)
  | .tupleAt _ items => do return .list (← reportAll known items)
  | .stream items => do return .list (← reportAll known items)
  | .map entries => do return .fields (← reportEntries known entries)
  | .ref id => known id
  | v => return .value v

/-- The reports on several values. -/
def reportAll (known : Nat → Scene Report) : List Value → Scene (List Report)
  | [] => return []
  | v :: rest => do return (← reportWith known v) :: (← reportAll known rest)

/-- The reports on keys with their values. -/
def reportEntries (known : Nat → Scene Report) :
    List (Value × Value) → Scene (List (Report × Report))
  | [] => return []
  | (key, v) :: rest => do
    return (← reportWith known key, ← reportWith known v) :: (← reportEntries known rest)

end

/-- The view of a record. -/
def viewWith (known : Nat → Scene Report) (id : Nat) (r : Record) : Scene View := do
  let select ← match ← (inWorld (Record.act id r Record.compileSelect)).attempt with
    | .error failure => pure (.error failure)
    | .ok sql => do
      pure (.ok (← reportWith known sql.text, ← reportWith known sql.params.toValue))
  let data ← reportEntries known r.changes.data
  let dirty ← reportAll known
    ((Entries.keys r.changes.data).filter fun field => r.changes.isDirty field)
  return {
    table := r.table
    connection := r.connection
    isNew := r.changes.isNew
    data, dirty, select }

/-- The report on a cell. -/
def reportCell (known : Nat → Scene Report) (id : Nat) : Cell → Scene Report
  | .scalar v => return .value v
  | .list items => do return .list (← reportAll known items)
  | .tuple items => do return .list (← reportAll known items)
  | .map entries => do return .fields (← reportEntries known entries)
  | .stream rest => do return .list (← reportAll known rest)
  | .record r => do return .record (← viewWith known id r)
  | .resultSet list => do return .resultSet (← reportAll known ((← heap).listItems list))
  | .sql text params => do return .sql (← reportWith known text) (← reportWith known params)
  | .driver d => return .driver d.kind.dialectName (driverKindWord d.kind)
  | .statement s => return .statement s.rowcount
  | .dialect d => return .dialect d.dialect
  | .cache c => return .cache (cacheKindWord c)
  | .function _ => return .callable
  | .method _ _ => return .callable

/-- The report on what a number refers to, as deep as given. -/
def reportRef : (depth : Nat) → (id : Nat) → Scene Report
  | 0, _ => return .value .null
  | depth + 1, id => do
    match (← heap).cell? id with
    | some cell => reportCell (reportRef depth) id cell
    | none => return .value .null

/-- The report on a value. -/
def report (v : Value) : Scene Report := do reportWith (reportRef (← heap).size) v

/-- The report on the result of a call; a record that gave itself back is told apart. -/
def reportCall (target result : Value) : Scene Report := do
  match target, result, ← report result with
  | .ref id, .ref id', .record view => return if id == id' then .itself view else .record view
  | _, _, told => return told

end Scene

end FluentSql.Script
