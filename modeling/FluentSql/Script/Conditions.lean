import FluentSql.Script.Outside
/-
# FluentSql.Script.Conditions — scripts that only collect conditions.

Such a script works on one query, whose identifiers are quoted with a mark of its own. A step adds
conditions, adds a join, or changes the alias of the table. For each step the conditions that it added
are told, also those before a mistake, and the mistake. In the end stands the query.
-/

namespace FluentSql.Script

open Parameter (required optional)

/-- A step that collects. -/
inductive CollectingStep where
  /-- A call by name that adds conditions to a clause. -/
  | call (kind : ConditionKind) (method : String) (arguments : List Value)
  | join (text : Piece)
  | tableAlias (name : Option Value)
  deriving Inhabited

/-- What is told about a step. -/
structure CollectingReport where
  added : List Fragment := []
  failure : Option Failure := none
  deriving Inhabited

namespace Collecting

/-- What a collecting script works on. -/
abbrev Desk := Record.Scope Outside.environment

/-- A computation of a collecting script. -/
abbrev Work (α : Type) := Record.Action Outside.environment α

/-- The methods that add conditions, with their parameters. -/
def methods : Entries String (List Parameter) := [
  ("raw", [required "fragment", ⟨"values", some (.tuple [])⟩]),
  ("simple", [required "column", required "operator", optional "value"]),
  ("placeholder", [required "column", required "operator", optional "values",
    ⟨"expr_fields", some (.tuple [])⟩]),
  ("no_value", [required "column", required "operator"]),
  ("any_of", [required "groups", ⟨"operator", some (.text "=")⟩])]

/-- The call that a method stands for. -/
def call (method : String) (arguments : List Value) : Work ConditionCall := do
  let parameters := (Entries.get? method methods).getD []
  match method, ← Arguments.bind parameters ⟨arguments, []⟩ with
  | "raw", [text, values] => return .verbatim text values
  | "simple", [column, operator, value] =>
    return .compare (← Record.displayed operator) column value
  | "placeholder", [column, operator, values, inlined] =>
    return .among (← Record.displayed operator) column values inlined
  | "no_value", [column, operator] => return .check (← Record.displayed operator) column
  | "any_of", [groups, operator] => return .anyOf groups operator
  | _, _ => throw .noMember

/-- Runs a step. -/
def run : CollectingStep → Work Unit
  | .call kind method arguments => do
    let call ← call method (← Record.inHeap (Heap.shareAll arguments))
    Record.condition kind call
  | .join text => Record.changeQuery (·.addJoin ⟨text, []⟩)
  | .tableAlias name => Record.changeQuery fun q => { q with tableAlias := name }

/-- A fragment with everything in place that its values refer to. -/
def settled (h : Heap) (fragment : Fragment) : Fragment :=
  { fragment with values := h.settleAll fragment.values }

/-- The conditions of a clause with everything in place. -/
def conditions (kind : ConditionKind) (d : Desk) : List Fragment :=
  (d.record.query.conditions kind).map (settled d.world.heap)

/-- The conditions that a step added to its clause. -/
def addedBy (step : CollectingStep) (before after : Desk) : List Fragment :=
  match step with
  | .call kind _ _ => (conditions kind after).drop (conditions kind before).length
  | _ => []

/-- The failure of a result. -/
def failure? : Except Failure Unit → Option Failure
  | .ok () => none
  | .error failure => some failure

/-- Runs the steps one after the other. -/
def runSteps : List CollectingStep → Desk → List CollectingReport × Desk
  | [], d => ([], d)
  | step :: rest, d =>
    let (result, after) := (run step).perform d
    let (reports, last) := runSteps rest after
    (⟨addedBy step d after, failure? result⟩ :: reports, last)

/-- An empty query on a connection with the given identifier mark. -/
def desk (mark table : String) (asName : Option Value) : Desk :=
  let empty := Record.onTable table "default"
  let marked : Action Outside.environment Unit := do
    Session.registerDialect ["marked"]
      { kind := "Marked", name := some "marked", quoteMark := some mark }
    Connection.registerDriver "default" ⟨.native "marked", ⟨0⟩⟩
  { record := { empty with query := { empty.query with tableAlias := asName } }
    world := (marked.perform { outside := {} }).2 }

end Collecting

/-- Runs a collecting script: what is told about its steps, and the query that it leaves. -/
def collectConditions (mark table : String) (asName : Option Value) (steps : List CollectingStep) :
    List CollectingReport × Query :=
  let (reports, last) := Collecting.runSteps steps (Collecting.desk mark table asName)
  (reports, { last.record.query with
    wheres := Collecting.conditions .whereClause last
    havings := Collecting.conditions .havingClause last })

end FluentSql.Script
