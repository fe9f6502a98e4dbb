import FluentSql.Object
import FluentSql.Slice
/-
# FluentSql.Object.Item — looking into objects.

Records and mappings are looked into by key, lists and result sets by position. Texts, bytes and
tuples can be looked into but not changed.
-/

namespace FluentSql.Object

variable {E : Environment}

/-- The entry of a key, which has to be a value that can be looked up by. -/
def entry (key : Value) (entries : Row) : Action E Value := do
  match ← Session.inHeap (Heap.entryOf? key entries) with
  | some v => return v
  | none => throw .noEntry

/-- The place of an item among several. -/
def place (index : Value) (items : List Value) : Except Failure Nat := do
  Slice.position? items.length (← Slice.index? index)

/-- The items of a text, of bytes or of a tuple. -/
def sequence : Value → Except Failure (List Value)
  | .text s => (Value.text s).items?
  | .style s => (Value.style s).items?
  | .bytes bs => (Value.bytes bs).items?
  | .tuple items | .tupleAt _ items => .ok items
  | _ => .error .notContainer

/-- An item of an object. -/
def getItem (object index : Value) : Action E Value := do
  match object, ← cell? object, ← listBehind? object with
  | .ref id, some (.record r), _ => Record.act id r (Record.valueAt index)
  | _, some (.map entries), _ => entry index entries
  | _, _, some (_, items) => return items.getD (← place index items) .null
  | object, _, _ =>
    let items ← sequence object
    return items.getD (← place index items) .null

/-- Whether an object is looked into by position before it shows that it cannot be changed. -/
def isPositional (object : Value) : Action E Bool := do
  match object, ← cell? object with
  | _, some (.sql _ _) | _, some (.driver _) | _, some (.statement _) | _, some (.dialect _)
  | _, some (.cache _) => return true
  | object, _ => return (sequence object).toOption.isSome

/-- Fails because an object has no items that could be changed. -/
def refuseChange {α : Type} (object index : Value) : Action E α := do
  match index with
  | .int n => throw (if Slice.isBeyond n && (← isPositional object) then .outOfRange else .notContainer)
  | _ => throw .notContainer

/-- Writes an item of an object. -/
def setItem (object index item : Value) : Action E Unit := do
  match object, ← cell? object, ← listBehind? object with
  | .ref id, some (.record r), _ => Record.act id r (Record.write index item false)
  | .ref id, some (.map entries), _ =>
    Session.inHeap (do
      Heap.requireKey index
      Heap.put id (.map (Entries.put index item entries)))
  | _, _, some (list, items) =>
    Session.inHeap (Heap.put list (.list (items.set (← place index items) item)))
  | _, _, _ => refuseChange object index

/-- Removes an item of an object. -/
def deleteItem (object index : Value) : Action E Unit := do
  match object, ← cell? object, ← listBehind? object with
  | .ref id, some (.record r), _ => Record.act id r (Record.remove index)
  | .ref id, some (.map entries), _ =>
    discard <| entry index entries
    Session.inHeap (Heap.put id (.map (Entries.erase index entries)))
  | _, _, some (list, items) =>
    Session.inHeap (Heap.put list (.list (Slice.dropAt [← place index items] items)))
  | _, _, _ => refuseChange object index

/-- The byte that a number stands for. -/
def byte? : Value → Option UInt8
  | .int n => some (UInt8.ofNat n.toNat)
  | _ => none

/-- A value of the kind of another with the given items. -/
def ofKind (object : Value) (items : List Value) : Value :=
  match object with
  | .tuple _ | .tupleAt _ _ => .tuple items
  | .bytes _ => .bytes (items.filterMap byte?)
  | _ => .text ("".intercalate (items.map Value.display))

/-- Whether the slice of everything is the object itself; that of a limit style is only its word. -/
def isOwnSlice : Value → Bool
  | .style _ => false
  | _ => true

/-- The items of an object at the positions of a slice. What cannot be changed is itself its slice of
everything. -/
def getSlice (object : Value) (bounds : List Value) : Action E Value := do
  match ← listBehind? object with
  | some (_, items) => return .list (Slice.takeAt (← Slice.ofValues? items.length bounds) items)
  | none =>
    let items ← sequence object
    let positions ← Slice.ofValues? items.length bounds
    if isOwnSlice object && Slice.isStepwise bounds && positions == List.range items.length then
      return object
    else return ofKind object (Slice.takeAt positions items)

/-- Removes the items at the positions of a slice. -/
def deleteSlice (object : Value) (bounds : List Value) : Action E Unit := do
  match ← listBehind? object with
  | some (list, items) =>
    let positions ← Slice.ofValues? items.length bounds
    Session.inHeap (Heap.put list (.list (Slice.dropAt positions items)))
  | none => throw .notContainer

end FluentSql.Object
