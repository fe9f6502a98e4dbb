import FluentSql.Value
/-
# FluentSql.Hook — functions of the caller.

A caller can configure functions that log statements or take over operations of the cache. A session
knows them by number only, and calls them with values.
-/

namespace FluentSql

/-- A function of the caller, by the number under which the heap keeps it. -/
structure Hook where
  id : Nat
  deriving Repr, DecidableEq, Inhabited

/-- A call of a caller's function. -/
inductive HookCall where
  | log (query : Value)
  | createKey (query params table connection : Value)
  | checkCache (key table connection : Value)
  | storeResult (key rows table connection : Value)
  | clearCache (table connection : Value)
  deriving Repr, Inhabited

/-- The values that a call is about. -/
def HookCall.arguments : HookCall → List Value
  | .log query => [query]
  | .createKey query params table connection => [query, params, table, connection]
  | .checkCache key table connection => [key, table, connection]
  | .storeResult key rows table connection => [key, rows, table, connection]
  | .clearCache table connection => [table, connection]

end FluentSql
