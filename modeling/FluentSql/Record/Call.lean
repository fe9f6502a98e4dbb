import FluentSql.Record.Read
import FluentSql.Record.Write
/-
# FluentSql.Record.Call — everything that a record can be asked for.

A call extends the query, edits the row, reads, writes, or looks at the record. Calls of the first
two kinds give the record itself back, so they can be chained.
-/

namespace FluentSql.Record

/-- A call of a record. -/
inductive Call where
  | build (call : BuilderCall)
  | create (data : Value)
  | hydrate (data : Value)
  | forceAllDirty
  | useKey (key : Value)
  | write (key value : Value) (asSql : Bool)
  | findOne (id : Value)
  | findMany
  | findResultSet
  | findArray
  | aggregate (aggregation : Aggregation) (column : Value)
  | compileSelect
  | valueAt (key : Value)
  | dataAt (names : List Value)
  | isDirty (key : Value)
  | isNew
  /-- The value of the key, which may not be null if the flag counts as true. -/
  | keyValue (disallowNull : Value)
  | nullKeyCount
  | save
  | delete
  | deleteMany
  deriving Repr, Inhabited

/-- What a call gives. -/
inductive Outcome where
  /-- The record that was called. -/
  | itself
  | value (v : Value)
  /-- Another record, or none. -/
  | record (r : Option Record)
  | records (rs : List Record)
  | resultSet (rs : List Record)
  | sql (s : Sql)
  deriving Inhabited

variable {E : Environment}

/-- Makes a call. -/
def perform : Call → Record.Action E Outcome
  | .build call => do build call; return .itself
  | .create data => do create data; return .itself
  | .hydrate data => do hydrate data; return .itself
  | .forceAllDirty => do changeRow Changes.forceAllDirty; return .itself
  | .useKey key => do useKey key; return .itself
  | .write key value asSql => do write key value asSql; return .itself
  | .findOne id => do return .record (← findOne id)
  | .findMany => do
    if ← givesResultSet then return .resultSet (← findMany) else return .records (← findMany)
  | .findResultSet => do return .resultSet (← findMany)
  | .findArray => do return .value (.list (← rows))
  | .aggregate aggregation column => do return .value (← aggregate aggregation column)
  | .compileSelect => do return .sql (← compileSelect)
  | .valueAt key => do return .value (← valueAt key)
  | .dataAt names => do return .value (.map (← dataAt names))
  | .isDirty key => do return .value (.bool (← inHeap (Heap.hasKey key (← current).changes.dirty)))
  | .isNew => do return .value (.bool (← current).changes.isNew)
  | .keyValue disallowNull => do
    if ← inWorld (Connection.isTrue disallowNull) then return .value (← presentKeyValue)
    else return .value (← keyValue)
  | .nullKeyCount => do return .value (.int (← nullKeyCount))
  | .save => do save; return .value (.bool true)
  | .delete => do delete; return .value (.bool true)
  | .deleteMany => do deleteMany; return .value (.bool true)

end FluentSql.Record
