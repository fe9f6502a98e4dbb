import FluentSql.Arguments
import FluentSql.Heap.Share
import FluentSql.Heap.Walk
import FluentSql.Slice
/-
# FluentSql.Object.Container — the methods of lists and mappings.

A list is changed in place, item by item or as a whole, and so is a mapping. Looking for an item
compares it with one after the other and stops at the first that is equal. Arguments are given by
position; only the fields that update a mapping may be given by name.
-/

namespace FluentSql.Object.Container

/-! ## Lists -/

/-- An index as a list takes it. -/
def listIndex? (index : Value) : Except Failure Int := do
  let n ← Slice.index? index
  if Slice.isBeyond n then .error .tooLarge else .ok n

/-- The place of the first item from a place on that is equal to a given one. -/
def placeOf (item : Value) (start stop : Nat) (items : List Value) : Step Heap Nat := do
  let sought := (← get).seek item ((items.take stop).drop start)
  if ← sought.2 then return start + sought.1 - 1 else throw .badValue

/-- How many items are equal to a given one. -/
def countEqual (item : Value) (items : List Value) : Step Heap Nat := do
  let h ← get
  return (← items.filterM fun v => (h.equal? v item : Except Failure Bool)).length

/-- A bound of a search in a list. -/
def searchBound (length : Nat) (bound : Value) : Except Failure Nat := do
  .ok (Slice.clamp length false (← Slice.index? bound)).toNat

/-- The methods of lists. -/
def listMethods : List String :=
  ["append", "pop", "extend", "insert", "remove", "index", "count", "clear", "reverse", "copy"]

/-- Calls a method of the list of a number. -/
def callList (id : Nat) (items : List Value) (method : String) (arguments : List Value) :
    Step Heap Value := do
  let replaceBy (changed : List Value) : Step Heap Value := do
    Heap.put id (.list changed)
    return .null
  match method, arguments with
  | "append", [item] => replaceBy (items ++ [item])
  | "pop", [] => popAt (-1)
  | "pop", [index] => popAt (← listIndex? index)
  | "extend", [more] => do replaceBy (items ++ (← Heap.items more))
  | "insert", [index, item] => do
    let place := (Slice.clamp items.length false (← listIndex? index)).toNat
    replaceBy (items.take place ++ item :: items.drop place)
  | "remove", [item] => do
    replaceBy (Slice.dropAt [← placeOf item 0 items.length items] items)
  | "index", [item] => do return .int (← placeOf item 0 items.length items)
  | "index", [item, start] => do
    return .int (← placeOf item (← searchBound items.length start) items.length items)
  | "index", [item, start, stop] => do
    let start ← searchBound items.length start
    return .int (← placeOf item start (← searchBound items.length stop) items)
  | "count", [item] => do return .int (← countEqual item items)
  | "clear", [] => replaceBy []
  | "reverse", [] => replaceBy items.reverse
  | "copy", [] => return .list items
  | _, _ => throw (if listMethods.contains method then .badArguments else .noMember)
where
  popAt (index : Int) : Step Heap Value := do
    let place ← Slice.position? items.length index
    Heap.put id (.list (Slice.dropAt [place] items))
    return items.getD place .null

/-! ## Mappings -/

/-- The methods of mappings. -/
def mapMethods : List String :=
  ["get", "pop", "popitem", "setdefault", "update", "clear", "copy"]

/-- Writes the fields that a mapping, or a sequence of pairs, stands for into a mapping. -/
def updateMap (id : Nat) (fields : Value) : Step Heap Unit := do
  let write (written : Row) : Step Heap Unit := do
    let entries := ((← get).entries? (.ref id)).getD []
    Heap.put id (.map (Entries.putAll entries written))
  match (← get).entries? fields with
  | some written => write written
  | none =>
    discard <| Heap.forItems fields fun item => do write [← Heap.pair item]

/-- Calls a method of the mapping of a number. -/
def callMap (id : Nat) (entries : Row) (method : String) (arguments : Arguments Value) :
    Step Heap Value := do
  let replaceBy (changed : Row) : Step Heap Unit := Heap.put id (.map changed)
  match method, arguments.positional, arguments.named with
  | "get", [key], [] => do return .ofOption (← Heap.entryOf? key entries)
  | "get", [key, missing], [] => do return (← Heap.entryOf? key entries).getD missing
  | "pop", [key], [] => do
    if entries.isEmpty then throw .noEntry
    match ← Heap.entryOf? key entries with
    | some v =>
      replaceBy (Entries.erase key entries)
      return v
    | none => throw .noEntry
  | "pop", [key, missing], [] => do
    if entries.isEmpty then return missing
    let found ← Heap.entryOf? key entries
    replaceBy (Entries.erase key entries)
    return found.getD missing
  | "popitem", [], [] =>
    match entries.getLast? with
    | some (key, v) =>
      replaceBy entries.dropLast
      return .tuple [key, v]
    | none => throw .noEntry
  | "setdefault", key :: missing, [] => do
    if 1 < missing.length then throw .badArguments
    match ← Heap.entryOf? key entries with
    | some v => return v
    | none =>
      let v := missing.headD .null
      replaceBy (Entries.put key v entries)
      return v
  | "update", fields, named => do
    if 1 < fields.length then throw .badArguments
    fields.forM (updateMap id)
    updateMap id (.ofNamed named)
    return .null
  | "clear", [], [] =>
    replaceBy []
    return .null
  | "copy", [], [] => return .map entries
  | _, _, _ => throw (if mapMethods.contains method then .badArguments else .noMember)

end FluentSql.Object.Container
