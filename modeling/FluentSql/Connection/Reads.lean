import FluentSql.Cache.Key
import FluentSql.Connection.Execute
import FluentSql.Connection.Stores
/-
# FluentSql.Connection.Reads — reading rows through the cache.

A caller's function takes the place of the operation of a cache that it is configured for; clearing
clears the built-in store first.

With caching on, a read is looked up before it is executed and kept afterwards. Rows that nobody
found are told apart from no rows: a read that gave no rows is found again. What is kept and what is
given are copies of one another, unless a caller asks the cache itself: then both share what is kept.
-/

namespace FluentSql.Connection

open Session (current change outside inHeap callHook)

variable {E : Environment}

/-- The function that is configured for an operation of a cache, if any. -/
def hookOf (cache : CacheRef) (select : Settings → Option Hook) : Action E (Option Hook) := do
  match cache with
  | .hooks connection era => return select ((← current).settingsIn era connection)
  | _ => return none

/-- The key of a read. -/
def cacheKey (cache : CacheRef) (query params table connection : Value) : Action E Value := do
  match ← hookOf cache Settings.createKey with
  | some hook => callHook hook (.createKey query params table connection)
  | none =>
    let params ← inHeap (Heap.params params)
    let h := (← get).heap
    return .text (Cache.key E.digest (h.settle query).display (Heap.settleParams h params))

/-- What is kept under a key; nothing is null. -/
def lookUp (cache : CacheRef) (key table connection : Value) : Action E Value := do
  match ← hookOf cache Settings.checkCache with
  | some hook => callHook hook (.checkCache key table connection)
  | none =>
    inHeap (do Heap.requireKey connection; Heap.requireKey key)
    return .ofOption ((← store cache).get? key connection)

/-- Keeps rows under a key. The connection gets its entries before the key is looked at. -/
def keep (cache : CacheRef) (key rows table connection : Value) : Action E Unit := do
  match ← hookOf cache Settings.storeResult with
  | some hook => discard <| callHook hook (.storeResult key rows table connection)
  | none =>
    inHeap (Heap.requireKey connection)
    putStore cache ((← store cache).prepare connection)
    inHeap (Heap.requireKey key)
    putStore cache ((← store cache).put key rows connection)

/-- What is kept under a key, shared with the caller from now on. -/
def lend (cache : CacheRef) (key table connection : Value) : Action E Value := do
  match ← lookUp cache key table connection with
  | .null => return .null
  | found =>
    let shared ← inHeap (Heap.share found)
    if (← hookOf cache Settings.checkCache).isNone then
      putStore cache ((← store cache).put key shared connection)
    return shared

/-- Drops what is kept for a connection. Where nothing is kept at all, nobody looks at it. -/
def clear (cache : CacheRef) (table connection : Value) : Action E Unit := do
  let kept ← store cache
  if !kept.isEmpty then inHeap (Heap.requireKey connection)
  putStore cache (kept.clear connection)
  match ← hookOf cache Settings.clearCache with
  | some hook => discard <| callHook hook (.clearCache table connection)
  | none => pure ()

/-- Fails if a list or a mapping keeps the reads of a connection: it can be cleared, but not for a
connection. -/
def refuseContainer (connection : String) : Action E Unit := do
  match Entries.get? connection (← current).chosenStores with
  | none => pure ()
  | some chosen =>
    match (← get).heap.content chosen with
    | .list _ | .map _ => throw .badArguments
    | _ => pure ()

/-- Drops what is kept for a connection in its own cache. -/
def clearCache (table : Value) (connection : String) : Action E Unit := do
  refuseContainer connection
  clear (← cacheOf connection) table (.text connection)

/-- The rows of a statement that is executed now. -/
def readFresh (connection : String) (sql params : Value) : Action E (List Value) := do
  fetchAll (← execute connection sql params)

/-- A copy of a row. -/
def copyOfRow (row : Value) : Action E Value := do return .map (← inHeap (Heap.row row))

/-- The rows of a read, from the cache if they are there. -/
def read (connection : String) (sql params table : Value) : Action E (List Value) := do
  if (← settings connection).caching then
    let cache ← cacheOf connection
    let key ← cacheKey cache sql params table (.text connection)
    match ← lookUp cache key table (.text connection) with
    | .null =>
      let rows ← readFresh connection sql params
      keep cache key (.list (← rows.mapM copyOfRow)) table (.text connection)
      return rows
    | found => inHeap (Heap.forItems found fun row => do return .map (← Heap.row row))
  else readFresh connection sql params

end FluentSql.Connection
