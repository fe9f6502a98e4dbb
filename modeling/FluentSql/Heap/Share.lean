import FluentSql.Heap.View
/-
# FluentSql.Heap.Share — handing values out.

A list, tuple or mapping that is known by content gets cells of its own, and so does everything inside
it, before several can hold it. Numbers that are equal to nothing get a cell each, which tells them apart.
-/

namespace FluentSql.Heap

/-- A value that is equal to nothing. -/
def isIncomparable : Value → Bool
  | .float .nan => true
  | .decimal (.nan _ _ _) => true
  | _ => false

mutual

/-- The value with a reference to a new cell in place of each list, tuple, mapping or stream. -/
def share : Value → Step Heap Value
  | .list items => do add (.list (← shareAll items))
  | .tuple items => do addTuple (← shareAll items)
  | .map entries => do add (.map (← shareEntries entries))
  | .stream items => do add (.stream (← shareAll items))
  | v => do if isIncomparable v then add (.scalar v) else return v

/-- Shares several values. -/
def shareAll : List Value → Step Heap (List Value)
  | [] => return []
  | v :: rest => do return (← share v) :: (← shareAll rest)

/-- Shares the values under keys. Keys are not shared: nobody can change them. -/
def shareEntries : List (Value × Value) → Step Heap Row
  | [] => return []
  | (key, v) :: rest => do return (key, ← share v) :: (← shareEntries rest)

end

/-- Refers to a driver. -/
def shareDriver (d : Driver) : Step Heap Value :=
  intern (fun cell => match cell with | .driver d' => d'.link == d.link | _ => false) (.driver d)

/-- Refers to a statement. -/
def shareStatement (s : Statement) : Step Heap Value :=
  intern (fun cell => match cell with | .statement s' => s'.cursor == s.cursor | _ => false)
    (.statement s)

/-- Refers to the dialect of a connection. -/
def shareDialect (d : MadeDialect) : Step Heap Value :=
  intern (fun cell => match cell with | .dialect d' => d'.number == d.number | _ => false) (.dialect d)

/-- Refers to a method. It is the same thing for as long as its owner is. -/
def shareMethod (owner : Option Nat) (name : String) : Step Heap Value :=
  intern
    (fun cell => match cell with
      | .method owner' name' => owner' == owner && name' == name
      | _ => false)
    (.method owner name)

/-- Refers to a cache. A cache of functions is a new thing every time. -/
def shareCache (c : CacheRef) : Step Heap Value :=
  match c with
  | .hooks _ _ => add (.cache c)
  | c => intern (fun cell => match cell with | .cache c' => c' == c | _ => false) (.cache c)

/-- Refers to a new result set of records. -/
def shareResultSet (records : List Value) : Step Heap Value := do
  match ← add (.list records) with
  | .ref list => add (.resultSet list)
  | v => return v

end FluentSql.Heap
