import FluentSql.Query.Select
import FluentSql.Record.Condition
/-
# FluentSql.Record.Build — builder calls.

A builder call adds one thing to the query of a record, or several of one kind. Identifiers are
quoted when the call is made, except the alias of the table, which is quoted when a statement is
written. Columns, tables and aliases may be given as lists, which are quoted item by item.
-/

namespace FluentSql

/-- The kinds of joins. -/
inductive JoinKind where
  | plain
  | inner
  | leftOuter
  | rightOuter
  | fullOuter
  deriving Repr, DecidableEq

/-- The words of a join. -/
def JoinKind.words : JoinKind → String
  | .plain => "JOIN"
  | .inner => "INNER JOIN"
  | .leftOuter => "LEFT OUTER JOIN"
  | .rightOuter => "RIGHT OUTER JOIN"
  | .fullOuter => "FULL OUTER JOIN"

/-- A builder call. An alias that is null is none. -/
inductive BuilderCall where
  | select (column asName : Value)
  | selectExpr (text asName : Value)
  | selectMany (columns : List Value)
  | selectManyExpr (texts : List Value)
  | distinct
  | tableAlias (asName : Value)
  | join (kind : JoinKind) (table constraint asName : Value)
  | rawJoin (table constraint asName params : Value)
  | condition (kind : ConditionKind) (call : ConditionCall)
  /-- Membership of a column, or of each column of a mapping. Fields that were edited as SQL text are
  inlined where they are candidates. -/
  | among (kind : ConditionKind) (operator : String) (column values : Value)
  /-- The key has a given value. -/
  | keyIs (kind : ConditionKind) (id : Value)
  /-- The key has one of the given values. -/
  | keyIn (ids : Value)
  | groupBy (column : Value)
  | groupByExpr (text : Value)
  | orderBy (column : Value) (descending : Bool)
  | orderByExpr (text : Value)
  | limit (n : Value)
  | offset (n : Value)
  /-- A statement in place of everything else. -/
  | raw (text params : Value)
  deriving Repr, Inhabited

namespace Record

variable {E : Environment}

/-! ## Result columns -/

/-- Adds a result column under an alias. -/
def addNamed (column : String) (asName : Value) : Record.Action E Unit := do
  let quoted ← quote asName
  changeQuery (·.addColumn (column ++ " AS " ++ quoted))

/-- Adds a column to the result. -/
def select (column asName : Value) : Record.Action E Unit := do
  let quoted ← quote column
  if asName.isNull then changeQuery (·.addColumn quoted) else addNamed quoted asName

/-- Adds an expression to the result. -/
def selectExpr (text asName : Value) : Record.Action E Unit := do
  if asName.isNull then changeQuery (·.addColumn (.ofValue text))
  else addNamed (← displayed text) asName

/-- The columns that an argument names, with their aliases: a text is a column, a mapping goes from
aliases to columns, and a sequence holds columns. -/
def columnsOf (argument : Value) : Step Heap (List (Value × Value)) := do
  match argument.asText?, (← get).entries? argument with
  | some _, _ => return [(argument, .null)]
  | none, some entries => return entries.map fun e => (e.2, e.1)
  | none, none => return (← Heap.items argument).map fun column => (column, .null)

/-- The columns that several arguments name. -/
def allColumnsOf (arguments : List Value) : Record.Action E (List (Value × Value)) := do
  return (← inHeap (arguments.mapM columnsOf)).flatten

/-! ## Joins -/

/-- The constraint of a join: a text as it is, or two columns with an operator between them. -/
def joinConstraint (constraint : Value) : Record.Action E String := do
  if constraint.asText?.isSome then return constraint.display
  -- What has no length cannot be a triple, even if there are three items to go through.
  if (← inWorld (Connection.length constraint)) ≠ 3 then
    throw (.joinConstraint ((← heap).settle constraint))
  match ← inHeap (Heap.items constraint) with
  | [first, operator, second] =>
    let first ← quote first
    let operator ← displayed operator
    return first ++ " " ++ operator ++ " " ++ (← quote second)
  | _ => throw .badValue

/-- A joined table with its alias. -/
def joinTarget (table : String) (asName : Value) : Record.Action E String := do
  if asName.isNull then return table else return table ++ " " ++ (← quote asName)

/-- Adds a join. -/
def join (kind : JoinKind) (table constraint asName : Value) : Record.Action E Unit := do
  let target ← joinTarget (← quote table) asName
  let condition ← joinConstraint constraint
  changeQuery (·.addJoin ⟨.text (kind.words ++ " " ++ target ++ " ON " ++ condition), []⟩)

/-- Adds a join whose table is written as it is, with parameters. -/
def rawJoin (table constraint asName params : Value) : Record.Action E Unit := do
  let target ← joinTarget (← displayed table) asName
  let condition ← joinConstraint constraint
  let values ← inHeap (Heap.items params)
  changeQuery (·.addJoin ⟨.text (target ++ " ON " ++ condition), values⟩)

/-! ## The key -/

/-- The value that something has under a column: a mapping by key, a record like its fields. -/
def partOf (id column : Value) : Step Heap Value := do
  let h ← get
  match h.content id with
  | .map entries => return .ofOption (← Heap.entryOf? column entries)
  | .ref number =>
    match h.cell? number with
    | some (.record r) =>
      let part ← valueIn r.changes.data column
      -- The part goes into a mapping under the column.
      Heap.requireKey column
      return part
    | some (.cache _) => throw .badArguments
    | _ => throw .notMapping
  | _ => throw .notMapping

/-- The values that a compound key takes from a mapping; missing ones are null. -/
def keyParts (columns : List Value) (id : Value) : Step Heap Row := do
  let parts ← columns.mapM fun column => do return (column, ← partOf id column)
  return Entries.ofPairs parts

/-- Adds the condition that the key has a given value. -/
def keyIs (kind : ConditionKind) (id : Value) : Record.Action E Unit := do
  match ← key with
  | .single column => condition kind (.compare "=" column id)
  | .compound columns => do compareAll kind "=" (← inHeap (keyParts columns id))

/-- The candidates that are inlined: the fields that were edited as SQL text. -/
def inlinedFields : Record.Action E Value := do return .list (← current).changes.inlined

/-- Adds the condition that the key has one of the given values. -/
def keyIn (ids : Value) : Record.Action E Unit := do
  match ← key with
  | .single column =>
    let ids ← inHeap (Heap.items ids)
    condition .whereClause (.among "IN" column (.list ids) (← inlinedFields))
  | .compound columns =>
    anyOfGroups .whereClause (← inHeap (Heap.forItems ids (keyParts columns)))

/-! ## All calls -/

/-- The parameters of a raw statement; null stands for none. -/
def rawParams (params : Value) : Step Heap Params :=
  if params.isNull then pure (.positional []) else Heap.params params

/-- Makes a builder call. -/
def build : BuilderCall → Record.Action E Unit
  | .select column asName => select column asName
  | .selectExpr text asName => selectExpr text asName
  | .selectMany columns => do
    (← allColumnsOf columns).forM fun e => select e.1 e.2
  | .selectManyExpr texts => do
    (← allColumnsOf texts).forM fun e => selectExpr e.1 e.2
  | .distinct => changeQuery fun q => { q with distinct := true }
  | .tableAlias asName => changeQuery fun q => { q with tableAlias := asName.toOption }
  | .join kind table constraint asName => join kind table constraint asName
  | .rawJoin table constraint asName params => rawJoin table constraint asName params
  | .condition kind call => condition kind call
  | .among kind operator column values => do
    condition kind (.among operator column values (← inlinedFields))
  | .keyIs kind id => keyIs kind id
  | .keyIn ids => keyIn ids
  | .groupBy column => do
    let entry ← quote column
    changeQuery (·.addGroup entry)
  | .groupByExpr text => changeQuery (·.addGroup (.ofValue text))
  | .orderBy column descending => do
    let entry ← quote column
    changeQuery (·.addOrder (entry ++ if descending then " DESC" else " ASC"))
  | .orderByExpr text => changeQuery (·.addOrder (.ofValue text))
  | .limit n => changeQuery fun q => { q with limit := n.toOption }
  | .offset n => changeQuery fun q => { q with offset := n.toOption }
  | .raw text params => do
    let params ← inHeap (rawParams params)
    changeQuery fun q => { q with raw := some ⟨text, params⟩ }

/-! ## The statement -/

/-- The query with everything in place that a statement is written from. The alias is needed only if
the columns can be written. -/
def readyQuery : Record.Action E Query := do
  let q := (← current).query
  let h ← heap
  let q := { q with limit := q.limit.map h.settle, offset := q.offset.map h.settle }
  match q.tableAlias, q.raw, Piece.texts? q.columns with
  | some name, none, .ok _ =>
    let name ← inHeap (Heap.identifier name)
    return { q with tableAlias := some name }
  | _, _, _ => return q

/-- The SELECT that the record stands for now. -/
def compileSelect : Record.Action E Sql := do
  let rendering ← rendering
  (← readyQuery).select rendering

end Record

end FluentSql
