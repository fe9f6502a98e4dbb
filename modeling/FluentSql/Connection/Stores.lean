import FluentSql.Connection.Settings
/-
# FluentSql.Connection.Stores — what keeps the reads of a connection.

The reads of a connection are kept by what was chosen for it, or by the caller's functions over the
built-in store if any of them is configured, or else by the built-in store. Anything can be chosen;
that it is no cache shows when it is used as one.

A store counts as true, and has a length, by the reads that it keeps.
-/

namespace FluentSql.Connection

open Session (current change inHeap)

variable {E : Environment}

/-- Where the reads of a connection are kept that has no other store. -/
def defaultCache (connection : String) : Action E CacheRef := do
  let s ← current
  if (s.settingsOf connection).hasCacheHooks then return .hooks connection s.era
  else return .builtin

/-- The cache that a value refers to. -/
def cacheBehind? (v : Value) : Action E (Option CacheRef) := do
  match v with
  | .ref id =>
    match (← get).heap.cell? id with
    | some (.cache c) => return some c
    | _ => return none
  | _ => return none

/-- What keeps the reads of a connection. -/
def keeper (connection : String) : Action E Value := do
  match Entries.get? connection (← current).chosenStores with
  | some chosen => return chosen
  | none => do inHeap (Heap.shareCache (← defaultCache connection))

/-- The cache of a connection. -/
def cacheOf (connection : String) : Action E CacheRef := do
  match Entries.get? connection (← current).chosenStores with
  | none => defaultCache connection
  | some chosen =>
    -- Anything may have been chosen, and it shows now whether it is a cache.
    match ← cacheBehind? chosen with
    | some cache => return cache
    | none => throw .noMember

/-- Chooses what keeps the reads of a connection; null goes back to the default. -/
def chooseStore (connection : String) (store : Value) : Action E Unit :=
  change fun s => { s with
    chosenStores := match store with
      | .null => Entries.erase connection s.chosenStores
      | store => Entries.put connection store s.chosenStores }

/-- Makes an empty store. -/
def newStore : Action E Value := do
  let s ← current
  change fun s => { s with givenStores := s.givenStores ++ [[]] }
  inHeap (Heap.shareCache (.given s.givenStores.length))

/-- The store behind a cache. -/
def store (cache : CacheRef) : Action E Cache.Store := do
  let s ← current
  match cache with
  | .given id => return s.givenStores.getD id []
  | _ => return s.memory

/-- Replaces the store behind a cache. -/
def putStore (cache : CacheRef) (store : Cache.Store) : Action E Unit :=
  match cache with
  | .given id => change fun s => { s with givenStores := s.givenStores.set id store }
  | _ => change fun s => { s with memory := store }

/-- How many items a value has, or how many reads it keeps. -/
def length (v : Value) : Action E Nat := do
  match ← cacheBehind? v with
  | some (.hooks _ _) => throw .notContainer
  | some cache => return (← store cache).size
  | none => (← get).heap.length? v

/-- Whether a value counts as true. -/
def isTrue (v : Value) : Action E Bool := do
  match ← cacheBehind? v with
  | some (.hooks _ _) => return true
  | some cache => return (← store cache).size ≠ 0
  | none => return (← get).heap.isTrue v

end FluentSql.Connection
