import FluentSql.Heap
import FluentSql.Value.Shape
/-
# FluentSql.Heap.View — looking at values through a heap.

Looking changes nothing. A value can be opened by one level (`content`), or settled: everything that
it refers to is put in its place, so that what is left needs no heap (`settle`). Things that are
known by identity are settled to what shows them.

References may lead round in circles. A cell that is met inside itself is settled to a mark, so that
following references ends when every cell was met once.
-/

namespace FluentSql.Heap

/-! ## One level -/

/-- The value with a shared list, tuple, mapping, stream or scalar in place of the reference to it. -/
def content (h : Heap) (v : Value) : Value :=
  match v with
  | .ref id =>
    match h.cell? id with
    | some (.scalar w) => w
    | some (.list items) => .list items
    | some (.map entries) => .map entries
    | some (.stream rest) => .stream rest
    | _ => v
  | .tupleAt _ items => .tuple items
  | v => v

/-- The items of a list, shared or not. -/
def listItems (h : Heap) (id : Nat) : List Value :=
  match h.cell? id with
  | some (.list items) => items
  | _ => []

/-- The items of a value, in order: a record has its fields, a result set its records. -/
def items? (h : Heap) (v : Value) : Except Failure (List Value) :=
  match h.content v with
  | .ref id =>
    match h.cell? id with
    | some (.record r) => .ok (Entries.keys r.changes.data)
    | some (.resultSet list) => .ok (h.listItems list)
    | _ => .error .notIterable
  | w => w.items?

/-- Whether the items of a value can be gone through. -/
def isIterable (h : Heap) (v : Value) : Bool := (h.items? v).toOption.isSome

/-- How many items a value has, unless it is a store. -/
def length? (h : Heap) (v : Value) : Except Failure Nat :=
  match h.content v with
  | .ref id =>
    match h.cell? id with
    | some (.record r) => .ok r.changes.data.length
    | some (.resultSet list) => .ok (h.listItems list).length
    | _ => .error .notContainer
  | w => w.length?

/-- The entries of a mapping. -/
def entries? (h : Heap) (v : Value) : Option Row :=
  match h.content v with
  | .map entries => some entries
  | _ => none

/-- The items of a list or tuple, or else the value as the only item. -/
def asItems (h : Heap) (v : Value) : List Value :=
  match h.content v with
  | .list items => items
  | .tuple items => items
  | _ => [v]

/-- Whether the value can be looked up by: it is no list, mapping or statement and holds none. -/
def isKey (h : Heap) (v : Value) : Bool :=
  v.isKey fun id =>
    match h.cell? id with
    | some (.list _) | some (.map _) | some (.sql _ _) => false
    | some (.scalar w) => w.isKey fun _ => true
    | _ => true

/-- Whether the value counts as true, unless it is a store. -/
def isTrue (h : Heap) (v : Value) : Bool :=
  match h.content v with
  | .ref id =>
    match h.cell? id with
    | some (.resultSet list) => !(h.listItems list).isEmpty
    | _ => true
  | w => !w.isEmpty

/-! ## All levels -/

/-- What shows a statement. -/
def sqlLabel (text params : Value) : String :=
  "CompiledSQL(sql=" ++ text.quoted ++ ", params=" ++ params.quoted ++ ")"

/-- What shows a result set. -/
def resultSetLabel (count : Nat) : String :=
  "<ResultSet of " ++ Number.integerText count ++ " record(s)>"

/-- The kind of things that a method of a cell belongs to, as it is shown with the method. -/
def methodHome : Cell → String
  | .record _ => "Record."
  | .resultSet _ => "ResultSet."
  | .sql _ _ => "CompiledSQL."
  | _ => ""

/-- What shows a method, by what shows its owner. -/
def methodLabel (h : Heap) (known : Nat → Value) (owner : Option Nat) (name : String) : String :=
  match owner with
  | some id =>
    "<bound method " ++ ((h.cell? id).map methodHome).getD "" ++ name ++ " of " ++
      (known id).quoted ++ ">"
  | none => ""

/-- What a cell is settled to, by what is known of the cells that it refers to. -/
def settleCell (h : Heap) (known : Nat → Value) : Cell → Value
  | .scalar v => v
  | .list items => .list (Value.fillAll known items)
  | .tuple items => .tuple (Value.fillAll known items)
  | .map entries => .map (Value.fillEntries known entries)
  | .stream rest => .stream (Value.fillAll known rest)
  | .record r => .object (r.label (.map (Value.fillEntries known r.changes.data)))
  | .resultSet list => .object (resultSetLabel (h.listItems list).length)
  | .sql text params => .object (sqlLabel (text.fill known) (params.fill known))
  | .dialect d => .object d.dialect.label
  | .method owner name => .object (h.methodLabel known owner name)
  | _ => .object ""

/-- Whether a mark stands for the cell inside itself. A method is shown with its owner, wherever it
is met. -/
def isMarkedInside : Cell → Bool
  | .method _ _ => false
  | _ => true

/-- What stands for a cell inside itself. -/
def innerMark : Cell → Value
  | .list _ => .object "[...]"
  | .tuple _ => .object "(...)"
  | .map _ => .object "\x7b...\x7d"
  | .record r => .object (r.label (.object "\x7b...\x7d"))
  | _ => .object "..."

/-- What a reference is settled to, as deep as given, inside the cells of the given numbers. -/
def known (h : Heap) : (depth : Nat) → (around : List Nat) → (id : Nat) → Value
  | 0, _, _ => .object ""
  | depth + 1, around, id =>
    match h.cell? id with
    | some cell =>
      -- The cell is being settled already, so a mark stands for it.
      if isMarkedInside cell && around.contains id then innerMark cell
      else h.settleCell (h.known depth (id :: around)) cell
    | none => .object ""

/-- How deep references may lead before a cell is met inside itself: there may be a method before
each cell, and no method belongs to a method. -/
def greatestDepth (h : Heap) : Nat := 2 * (h.size + 1)

/-- The value with everything in place that it refers to. -/
def settle (h : Heap) (v : Value) : Value := v.fill (h.known h.greatestDepth [])

/-- Values with everything in place. -/
def settleAll (h : Heap) (values : List Value) : List Value := values.map h.settle

/-- A value that refers to nothing is settled already. -/
theorem settle_eq_self (h : Heap) {v : Value} (hv : v.isClosed = true) : h.settle v = v :=
  Value.fill_eq_self _ v hv

end FluentSql.Heap
