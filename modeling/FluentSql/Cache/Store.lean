import FluentSql.Value.Key
/-
# FluentSql.Cache.Store — rows kept in memory.

Every connection has entries of its own: the rows of a read under its key. Nothing is ever dropped
but by clearing a connection. A cache that a session uses is one of its stores, or the functions of a
caller over the built-in store.
-/

namespace FluentSql

namespace Cache

/-- The entries of a connection. -/
abbrev Shelf := Entries Value Value

/-- Kept rows by connection and key. -/
abbrev Store := Entries Value Shelf

namespace Store

/-- The entries of a connection. -/
def shelf (connection : Value) (store : Store) : Shelf :=
  (Entries.get? connection store).getD []

/-- What is kept under a key. -/
def get? (key connection : Value) (store : Store) : Option Value :=
  Entries.get? key (store.shelf connection)

/-- Makes sure that a connection has entries, if only none. -/
def prepare (connection : Value) (store : Store) : Store :=
  Entries.put connection (store.shelf connection) store

/-- Keeps something under a key. -/
def put (key kept connection : Value) (store : Store) : Store :=
  Entries.put connection (Entries.put key kept (store.shelf connection)) store

/-- Drops the entries of a connection. -/
def clear (connection : Value) (store : Store) : Store := Entries.erase connection store

/-- How many reads are kept. -/
def size (store : Store) : Nat := store.foldl (fun count e => count + e.2.length) 0

theorem get?_put_self (key kept connection : Value) (store : Store) :
    (store.put key kept connection).get? key connection = some kept := by
  simp [get?, put, shelf]

end Store

end Cache

/-- Where the reads of a connection are kept. -/
inductive CacheRef where
  | builtin
  /-- A store that a caller made. -/
  | given (id : Nat)
  /-- The functions configured for a connection, over the built-in store. The settings of a session
  are those of its current era, or of an earlier one if they were forgotten since. -/
  | hooks (connection : String) (era : Nat)
  deriving Repr, DecidableEq, Inhabited

end FluentSql
