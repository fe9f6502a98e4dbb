import FluentSql.Script.Stage
/-
# FluentSql.Script.Operand — the values that a script is written with.

An operand stands for a value in which results that were kept can be named. Every list and mapping
that a script writes is a thing of its own, which can be changed and held by several from then on.
-/

namespace FluentSql.Script

/-- A value of a script. -/
inductive Operand where
  | value (v : Value)
  | name (s : String)
  | list (items : List Operand)
  | tuple (items : List Operand)
  | stream (items : List Operand)
  | fields (entries : List (String × Operand))
  deriving Inhabited

namespace Scene

/-- The value of a name. -/
def named (name : String) : Scene Value := do
  match Entries.get? name (← get).names with
  | some v => return v
  | none => throw .badArguments

mutual

/-- The value that an operand stands for. -/
def resolve : Operand → Scene Value
  | .value v => share v
  | .name s => named s
  | .list items => do newCell (.list (← resolveAll items))
  | .tuple items => do inHeap (Heap.addTuple (← resolveAll items))
  | .stream items => do newCell (.stream (← resolveAll items))
  | .fields entries => do newCell (.map (Value.keyedByText (← resolveEntries entries)))

/-- The values that operands stand for. -/
def resolveAll : List Operand → Scene (List Value)
  | [] => return []
  | operand :: rest => do return (← resolve operand) :: (← resolveAll rest)

/-- The values that named operands stand for. -/
def resolveEntries : List (String × Operand) → Scene (Entries String Value)
  | [] => return []
  | (name, operand) :: rest => do return (name, ← resolve operand) :: (← resolveEntries rest)

end

mutual

/-- The value that an operand stands for, by content: only what is named is shared. -/
def resolveContent : Operand → Scene Value
  | .value v => return v
  | .name s => named s
  | .list items => do return .list (← resolveContents items)
  | .tuple items => do return .tuple (← resolveContents items)
  | .stream items => do return .stream (← resolveContents items)
  | .fields entries => do return .ofNamed (← resolveContentEntries entries)

/-- The values that operands stand for, by content. -/
def resolveContents : List Operand → Scene (List Value)
  | [] => return []
  | operand :: rest => do return (← resolveContent operand) :: (← resolveContents rest)

/-- The values that named operands stand for, by content. -/
def resolveContentEntries : List (String × Operand) → Scene (Entries String Value)
  | [] => return []
  | (name, operand) :: rest => do
    return (name, ← resolveContent operand) :: (← resolveContentEntries rest)

end

/-- A row as a database hands it out: its values are shared, the row itself is not. -/
def resolveRow (operand : Operand) : Scene Value := do
  match operand with
  | .fields entries => return .ofNamed (← resolveEntries entries)
  | .list items => return .list (← resolveAll items)
  | operand => resolve operand

/-- The arguments that operands stand for. Of several arguments of one name the last counts. -/
def resolveArguments (arguments : Arguments Operand) : Scene (Arguments Value) := do
  let positional ← resolveAll arguments.positional
  return { positional, named := Entries.ofPairs (← resolveEntries arguments.named) }

/-- The only operand of a step. -/
def single (operands : List Operand) : Scene Value := do
  match operands with
  | [operand] => resolve operand
  | _ => throw .badArguments

/-- An operand that may be missing. -/
def singleOr (missing : Value) (operands : List Operand) : Scene Value := do
  match operands with
  | [] => return missing
  | operands => single operands

end Scene

end FluentSql.Script
