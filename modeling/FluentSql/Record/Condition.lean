import FluentSql.Condition
import FluentSql.Record.Row
/-
# FluentSql.Record.Condition — adding conditions to the query of a record.

A call may ask for any number of conditions. Each is added as soon as it is written, so those before
a mistake stay. Identifiers are quoted when a condition is written; a call that quotes none needs no
connection. Once the query has a join, a column that does not name its table gets the name of the
query's own in a comparison.
-/

namespace FluentSql

/-- A call that adds conditions. -/
inductive ConditionCall where
  /-- A condition as it is written. -/
  | verbatim (text values : Value)
  /-- A comparison of a column, or of each column of a mapping. -/
  | compare (operator : String) (column value : Value)
  /-- Membership of a column, or of each column of a mapping. Candidates whose name or position is
  among the inlined ones are written as their text. -/
  | among (operator : String) (column values inlined : Value)
  /-- A test of a column, or of each column of a sequence. -/
  | check (operator : String) (column : Value)
  /-- Any of several groups of comparisons holds. -/
  | anyOf (groups operator : Value)
  deriving Repr, Inhabited

namespace Record

variable {E : Environment}

/-- Adds a condition. -/
def addCondition (kind : ConditionKind) (fragment : Fragment) : Record.Action E Unit :=
  changeQuery (·.addCondition kind fragment)

/-- The columns and values that a call names: all entries of a mapping, or one column. -/
def columnsWith (column value : Value) : Record.Action E (List (Value × Value)) := do
  return ((← heap).entries? column).getD [(column, value)]

/-! ## Comparisons -/

/-- The column as it is written in a comparison. -/
def qualified (column : Value) : Record.Action E Value := do
  let q := (← current).query
  if q.joins.isEmpty then return column
  if ← inHeap (Heap.contains (.text ".") column) then return column
  return .text ((← displayed q.source) ++ "." ++ (← displayed column))

/-- Adds a comparison for each of several columns with its value. The items of a list or tuple count
as several values. -/
def compareAll (kind : ConditionKind) (operator : String) (pairs : List (Value × Value)) :
    Record.Action E Unit :=
  pairs.forM fun (column, value) => do
    let quoted ← quote (← qualified column)
    addCondition kind (.comparison quoted operator ((← heap).asItems value))

/-! ## Membership -/

/-- The values that go into a statement with their names or positions: the entries of a mapping, or
the items of a sequence. -/
def fieldsOf (values : Value) : Step Heap (List (Value × Value)) := do
  match (← get).entries? values with
  | some entries => return entries
  | none => return (← Heap.items values).mapIdx fun k item => (.int k, item)

/-- The candidates of a membership condition. Texts, bytes and what cannot be gone through are the
only candidate. -/
def candidates (values : Value) : Step Heap (List (Value × Value)) := do
  let h ← get
  match h.content values with
  | .text _ | .style _ | .bytes _ => return [(.int 0, values)]
  | _ => if h.isIterable values then fieldsOf values else return [(.int 0, values)]

/-- The right-hand sides of fields. Those whose name or position is among the inlined ones are written
as their text. -/
def placeholders (inlined : Value) (fields : List (Value × Value)) : Step Heap Placeholders := do
  return .ofTerms (← fields.mapM fun (key, value) => do
    if ← Heap.contains key inlined then return .inlined ((← get).settle value).display
    else return .bound value)

/-- Adds a membership condition for each of several columns with its candidates. -/
def amongAll (kind : ConditionKind) (operator : String) (inlined : Value)
    (pairs : List (Value × Value)) : Record.Action E Unit :=
  pairs.forM fun (column, values) => do
    -- The candidates are written before the column is quoted, and may fail first.
    let written ← inHeap (do placeholders inlined (← candidates values))
    addCondition kind (.membership (← quote column) operator written)

/-! ## Tests -/

/-- The columns that a test names: one, or those of a sequence. -/
def testedColumns (column : Value) : Record.Action E (List Value) := do
  if column.asText?.isSome then return [column] else inHeap (Heap.items column)

/-! ## Groups -/

/-- The operator for a column of a group: one for all, or that of a mapping with equality for the
rest. -/
def operatorFor (operator column : Value) : Record.Action E String := do
  let h ← heap
  match h.content operator with
  | .text s => return s
  | .style s => displayed (.style s)
  | .map entries =>
    match ← inHeap (Heap.entryOf? column entries) with
    | some operator => displayed operator
    | none => return "="
  | .ref id =>
    match h.cell? id with
    | some (.record _) | some (.cache _) => throw .badArguments
    | _ => throw .notMapping
  | _ => throw .notMapping

/-- One comparison of a group. -/
def groupComparison (operator : Value) (pair : Value × Value) : Record.Action E Comparison := do
  let word ← operatorFor operator pair.1
  return { column := ← quote pair.1, operator := word, value := pair.2 }

/-- The columns and values of a group, which has to be a mapping. -/
def groupEntries (group : Value) : Record.Action E (List (Value × Value)) := do
  match (← heap).entries? group with
  | some entries => return entries
  | none => throw .notMapping

/-- Adds the condition that any of several groups holds. -/
def anyOfGroups (kind : ConditionKind) (groups : List (List (Value × Value))) :
    Record.Action E Unit := do
  let written ← groups.mapM fun group => group.mapM (groupComparison (.text "="))
  addCondition kind (.anyOf written)

/-! ## All calls -/

/-- Makes a call that adds conditions. -/
def condition (kind : ConditionKind) : ConditionCall → Record.Action E Unit
  | .verbatim text values => do
    addCondition kind ⟨.ofValue text, (← heap).asItems values⟩
  | .compare operator column value => do
    compareAll kind operator (← columnsWith column value)
  | .among operator column values inlined => do
    if ((← heap).entries? column).isNone then inHeap (Heap.requireKey column)
    amongAll kind operator inlined (← columnsWith column values)
  | .check operator column => do
    (← testedColumns column).forM fun column => do
      addCondition kind (.check (← quote column) operator)
  | .anyOf groups operator => do
    let all ← (← heap).items? groups
    let written ← all.mapM fun group => do
      -- Groups from a stream are taken from it one by one, up to a group that fails.
      inHeap (Heap.skip groups 1)
      (← groupEntries group).mapM (groupComparison operator)
    addCondition kind (.anyOf written)

end Record

end FluentSql
