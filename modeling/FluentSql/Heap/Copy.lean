import FluentSql.Heap.View
/-
# FluentSql.Heap.Copy — copies all the way down.

Lists, tuples and mappings are copied with everything inside them, and a compiled statement becomes a
mapping of its parts. All else stays what it is. There is no copy of what lies inside itself.
-/

namespace FluentSql.Heap

/-- How deep values may lie inside one another to be copied. -/
def copyableDepth : Nat := 255

/-- The copy of a value, looking as deep as given. -/
def copyWithin? (h : Heap) : (depth : Nat) → Value → Except Failure Value
  | 0, _ => .error .badValue
  | depth + 1, v =>
    let copy := h.copyWithin? depth
    let copyEntry := fun (e : Value × Value) => do Except.ok (← copy e.1, ← copy e.2)
    match h.content v with
    | .list items => do .ok (.list (← items.mapM copy))
    | .tuple items => do .ok (.tuple (← items.mapM copy))
    | .map entries => do .ok (.map (← entries.mapM copyEntry))
    | .ref id =>
      match h.cell? id with
      | some (.sql text params) => do
        .ok (.ofNamed [("sql", ← copy text), ("params", ← copy params)])
      | _ => .ok v
    | _ => .ok v

/-- The copy of a value. -/
def copy? (h : Heap) (v : Value) : Except Failure Value := h.copyWithin? copyableDepth v

end FluentSql.Heap
