import FluentSql.Heap.Equality
import FluentSql.Sql
/-
# FluentSql.Heap.Walk — going through values.

A stream gives each of its items once: going through it takes them away, and going through a part of
it leaves the rest. Everything else can be gone through again and again.
-/

namespace FluentSql.Heap

/-- Drops the first items of a stream; other values keep theirs. -/
def skip (v : Value) (count : Nat) : Step Heap Unit := do
  match v with
  | .ref id =>
    match (← get).cell? id with
    | some (.stream rest) => put id (.stream (rest.drop count))
    | _ => pure ()
  | _ => pure ()

/-- The items of a value, all of them taken. -/
def items (v : Value) : Step Heap (List Value) := do
  let all ← (← get).items? v
  skip v all.length
  return all

/-- Does something for each item in order, which is taken before. -/
def forItems {α : Type} (v : Value) (f : Value → Step Heap α) : Step Heap (List α) := do
  (← (← get).items? v).mapM fun item => do
    skip v 1
    f item

/-- The items of a value up to the first that passes a test, and this one, all of them taken. -/
def itemsThrough (isLast : Value → Bool) (v : Value) : Step Heap (List Value) := do
  let all ← (← get).items? v
  let count := (all.takeWhile fun item => !isLast item).length + 1
  skip v count
  return all.take count

/-- Fails unless the value can be looked up by. -/
def requireKey (v : Value) : Step Heap Unit := do
  if !(← get).isKey v then throw .notKey

/-- The value under a key, which has to be one that can be looked up by. -/
def entryOf? (key : Value) (entries : Row) : Step Heap (Option Value) := do
  requireKey key
  return Entries.get? key entries

/-- Whether there is an entry under a key, which has to be one that can be looked up by. -/
def hasKey (key : Value) (entries : Row) : Step Heap Bool := do
  return (← entryOf? key entries).isSome

/-- Whether an item is among several that a value holds. The items that were looked at are taken. -/
def isAmong (item holder : Value) (items : List Value) : Step Heap Bool := do
  let sought := (← get).seek item items
  -- They are taken also if the comparison with the last of them failed.
  skip holder sought.1
  sought.2

/-- Whether a value holds an item. A stream is gone through up to the item. -/
def contains (item holder : Value) : Step Heap Bool := do
  let h ← get
  match h.content holder with
  | .text s => return Text.occursIn (← (h.content item).text?).toList s.toList
  | .style s => return Text.occursIn (← (h.content item).text?).toList s.word.toList
  | .bytes bs => Value.bytesHold? bs (h.content item)
  | .map entries => hasKey item entries
  | .list items | .tuple items | .stream items => isAmong item holder items
  | .ref id =>
    match h.cell? id with
    | some (.record r) => hasKey item r.changes.data
    | some (.resultSet list) => isAmong item holder (h.listItems list)
    | _ => throw .notContainer
  | _ => throw .notContainer

/-- A value as it is quoted: a name, or a list that is gone through up to what is no name. -/
def identifier (v : Value) : Step Heap Value := do
  let h ← get
  if v.asText?.isSome || !h.isIterable v then return h.settle v
  -- The first item that is no name makes quoting fail, and nobody takes the items behind it.
  return .list (h.settleAll (← itemsThrough (fun item => item.asText?.isNone) v))

/-- The parameters of a statement: a mapping binds by name, anything else by position. -/
def params (v : Value) : Step Heap Params := do
  match (← get).entries? v with
  | some entries => return .named entries
  | none => return .positional (← items v)

/-- The parameters with everything in place. -/
def settleParams (h : Heap) : Params → Params
  | .named entries => .named (entries.map fun e => (h.settle e.1, h.settle e.2))
  | .positional values => .positional (h.settleAll values)

/-- The key and the value that a pair stands for. -/
def pair (v : Value) : Step Heap (Value × Value) := do
  match ← items v with
  | [key, value] =>
    requireKey key
    return (key, value)
  | _ => throw .badValue

/-- The keys and values that a mapping, or a sequence of pairs, stands for. -/
def row (v : Value) : Step Heap Row := do
  match (← get).entries? v with
  | some entries => return entries
  | none => return Entries.ofPairs (← forItems v pair)

end FluentSql.Heap
