import FluentSql.Object.Item
import FluentSql.Script.Operand
import FluentSql.Script.Report
/-
# FluentSql.Script.Command — scripts: steps on a session, its records and its databases.

A script is a list of commands, each with a name under which its result is kept if it succeeds. The
steps share one session and one set of scripted databases. A step that fails does not end the
script, and what it changed stays changed. For each step the result is told, with the statements and
the calls of functions that happened on the way.
-/

namespace FluentSql.Script

/-- A driver to be made. -/
inductive NewDriver where
  | native (dialectName : String) (insertId : Operand)
  | sqlite
  | toolkit (dialectName paramStyle : String)
  deriving Inhabited

/-- An answer to be queued. -/
inductive NewAnswer where
  | failure (message : String)
  /-- Rows as mappings, or in the order of the columns if there are any. -/
  | reply (columns : Option (List String)) (rows : List Operand) (rowcount : Int)
      (lastRowId : Operand)
  deriving Inhabited

/-- A command. -/
inductive Command where
  | setDriver (connection : String) (driver : Option NewDriver)
  | queue (label : String) (answer : NewAnswer)
  | configure (connection : String) (key : Operand) (value : Option Operand)
  | configureHook (connection : String) (spec : HookSpec Operand)
  /-- The value of an option, or of all options if there is no key. -/
  | setting (connection : String) (key : Operand)
  | hasCacheHooks (connection : String)
  | resetSettings
  | resetDrivers
  | reset
  | connectionNames
  | driver (connection : String)
  | dialect (connection : String)
  | cache (connection : String)
  | quote (connection : String) (identifiers : List Operand)
  | registerDialect (names : List String) (spec : DialectSpec)
  | execute (connection : String) (sql : Operand) (params : List Operand)
  | lastStatement
  | queryLog (connection : String)
  /-- The last logged statement of a connection, or of all. -/
  | lastQuery (connection : Option String)
  | clearCache (connection : String) (table : Operand)
  /-- Chooses the store of a name for a connection, or none. -/
  | chooseStore (connection : String) (store : Option String)
  | forTable (connection table : String)
  | newRecord (connection table : String) (data : List Operand)
  | newResultSet (results : List Operand)
  | call (target method : String) (arguments : Arguments Operand)
  | member (target name : String)
  | getItem (target : String) (index : List Operand)
  | setItem (target : String) (indexAndItem : List Operand)
  | deleteItem (target : String) (index : List Operand)
  | contains (target : String) (item : List Operand)
  | getSlice (target : String) (bounds : List Operand)
  | deleteSlice (target : String) (bounds : List Operand)
  | length (target : String)
  | iterate (target : String)
  | truth (target : String)
  | label (target : String)
  deriving Inhabited

/-- What a command gives, and the object that was called if it is a call. -/
structure Returned where
  value : Value
  called : Value := .null
  deriving Inhabited

namespace Scene

/-- Makes a driver with its connection. -/
def makeDriver (label : String) (driver : NewDriver) : Scene Driver := do
  match driver with
  | .native dialectName insertId =>
    let insertId ← resolve insertId
    return ⟨.native dialectName, ← changeOutside (·.addLine ⟨label, true, insertId⟩)⟩
  | .sqlite => return ⟨.sqlite, ← changeOutside (·.addLine ⟨label, false, .null⟩)⟩
  | .toolkit dialectName paramStyle =>
    return ⟨.toolkit dialectName paramStyle, ← changeOutside (·.addLine ⟨label, false, .null⟩)⟩

/-- Makes an answer. -/
def makeAnswer (answer : NewAnswer) : Scene Answer := do
  match answer with
  | .failure message => return .failure message
  | .reply columns rows rowcount lastRowId =>
    return .reply columns (← rows.mapM resolveRow) rowcount (← resolve lastRowId)

/-- Makes a function. What it gives is a copy each time. -/
def makeHookSpec (spec : HookSpec Operand) : Scene (HookSpec Value) := do
  match spec with
  | ⟨option, .job⟩ => return ⟨option, .job⟩
  | ⟨option, .value operand⟩ => return ⟨option, .value (← resolveContent operand)⟩
  | ⟨option, .failure message⟩ => return ⟨option, .failure message⟩

/-- What has a name, or else a store that is made under that name. -/
def storeNamed (name : String) : Scene Value := do
  match Entries.get? name (← get).names with
  | some v => return v
  | none =>
    let store ← inWorld Connection.newStore
    modify fun s => { s with names := Entries.put name store s.names }
    return store

/-- A result. -/
def give (value : Value) : Scene Returned := return { value }

/-- Nothing as the result of an action. -/
def giveNothing (action : Action Outside.environment Unit) : Scene Returned := do
  inWorld action
  give .null

/-- Runs a command. -/
def run : Command → Scene Returned
  | .setDriver connection none => giveNothing (Connection.forgetDriver connection)
  | .setDriver connection (some driver) => do
    let driver ← makeDriver connection driver
    giveNothing (Connection.registerDriver connection driver)
  | .queue label answer => do
    let answer ← makeAnswer answer
    changeOutside fun o => ((), o.enqueue label answer)
    give .null
  | .configure connection key newValue => do
    let key ← resolve key
    let newValue ← newValue.mapM resolve
    giveNothing (Connection.configure connection key newValue)
  | .configureHook connection spec => do
    let spec ← makeHookSpec spec
    let hook ← newCell (.function (← changeOutside (·.addHook spec)))
    giveNothing (Connection.configure connection (.text spec.option) (some hook))
  | .setting connection key => do
    match ← resolve key with
    | .null => give (← inWorld (Connection.allSettings connection))
    | key => give (← inWorld (Connection.setting connection key))
  | .hasCacheHooks connection => do
    give (.bool (← inWorld (Connection.settings connection)).hasCacheHooks)
  | .resetSettings => giveNothing Session.resetSettings
  | .resetDrivers => giveNothing Session.resetDrivers
  | .reset => giveNothing Session.reset
  | .connectionNames => do give (.ofTexts (← inWorld Session.connectionNames))
  | .driver connection => do
    give (← inHeap (Heap.shareDriver (← inWorld (Connection.driver connection))))
  | .dialect connection => do
    give (← inHeap (Heap.shareDialect (← inWorld (Connection.madeDialect connection))))
  | .cache connection => do give (← inWorld (Connection.keeper connection))
  | .quote connection identifiers => do
    let identifier ← single identifiers
    give (.text (← inWorld (Connection.quote connection identifier)))
  | .registerDialect names spec => do
    inWorld (Session.registerDialect names spec)
    give (.text spec.kind)
  | .execute connection sql params => do
    let sql ← resolve sql
    let params ← singleOr (.tuple []) params
    let statement ← inWorld (Connection.execute connection sql params)
    give (← inHeap (Heap.shareStatement statement))
  | .lastStatement => do
    match (← session).lastStatement with
    | some s => give (← inHeap (Heap.shareStatement s))
    | none => give .null
  | .queryLog connection => do give (.list ((← session).log.of connection))
  | .lastQuery none => do give (.ofOption (← session).log.latest)
  | .lastQuery (some connection) => do give ((← session).log.lastOf connection)
  | .clearCache connection table => do
    let table ← resolve table
    giveNothing (Connection.clearCache table connection)
  | .chooseStore connection store => do
    let store ← store.mapM storeNamed
    giveNothing (Connection.chooseStore connection (.ofOption store))
  | .forTable connection table => do
    discard <| inWorld (Connection.driver connection)
    give (← inWorld (Object.newRecord (.onTable table connection)))
  | .newRecord connection table data => do
    let data ← singleOr .null data
    give (← inWorld (do Object.newRecord (← Record.ofData table connection data)))
  | .newResultSet results => do
    let held ← inHeap (Heap.items (← singleOr (.tuple []) results))
    give (← inHeap (Heap.shareResultSet held))
  | .call target method arguments => do
    let object ← named target
    let arguments ← resolveArguments arguments
    return { value := ← inWorld (Object.call object method arguments), called := object }
  | .member target name => do
    let object ← named target
    give (← inWorld (Object.member object name))
  | .getItem target index => do
    let object ← named target
    let index ← single index
    give (← inWorld (Object.getItem object index))
  | .setItem target indexAndItem => do
    let object ← named target
    match ← resolveAll indexAndItem with
    | [index, item] =>
      inWorld (Object.setItem object index item)
      give object
    | _ => throw .badArguments
  | .deleteItem target index => do
    let object ← named target
    let index ← single index
    inWorld (Object.deleteItem object index)
    give object
  | .contains target item => do
    let object ← named target
    let item ← single item
    give (.bool (← inHeap (Heap.contains item object)))
  | .getSlice target bounds => do
    let object ← named target
    let bounds ← resolveAll bounds
    give (← inWorld (Object.getSlice object bounds))
  | .deleteSlice target bounds => do
    let object ← named target
    let bounds ← resolveAll bounds
    inWorld (Object.deleteSlice object bounds)
    give object
  | .length target => do
    let object ← named target
    give (.int (← inWorld (Connection.length object)))
  | .iterate target => do give (.list (← inHeap (Heap.items (← named target))))
  | .truth target => do
    let object ← named target
    give (.bool (← inWorld (Connection.isTrue object)))
  | .label target => do
    let object ← named target
    give (.text ((← heap).settle object).quoted)

/-- Keeps a value under a name, if there is one. -/
def keepAs (name : Option String) (value : Value) : Scene Unit :=
  match name with
  | none => pure ()
  | some name => modify fun s => { s with names := Entries.put name value s.names }

end Scene

/-- A step of a script: a command, and a name for its result. -/
structure ScriptStep where
  command : Command
  keepAs : Option String := none
  deriving Inhabited

/-- What is told about a step: its result, the statements that arrived at databases, and the calls of
functions. -/
structure StepReport where
  result : Except Failure Report
  /-- The values that a failure tells of. -/
  told : List Report := []
  executed : List (String × Report × Option Report) := []
  events : List (String × List Report) := []

namespace Scene

/-- The report on the result of a step. -/
def reportStep (step : ScriptStep) : Scene Report := do
  changeOutside fun o => ((), o.clearTrace)
  let returned ← run step.command
  let value ← share returned.value
  keepAs step.keepAs value
  reportCall returned.called value

/-- The report on what happened outside in a step with a given result. -/
def reportTrace (result : Except Failure Report) : Scene StepReport := do
  let told ← match result with
    | .ok _ => pure []
    | .error failure => failure.told.mapM report
  let o := (← get).world.outside
  let executed ← o.executed.mapM fun (label, sql, params) => do
    return (label, ← report sql, ← params.mapM report)
  let events ← o.events.mapM fun (option, arguments) => do
    return (option, ← arguments.mapM report)
  return { result, told, executed, events }

end Scene

/-- Runs one step. -/
def ScriptStep.run (step : ScriptStep) (s : Stage) : StepReport × Stage :=
  let (result, s) := (Scene.reportStep step).perform s
  let (told, s) := (Scene.reportTrace result).perform s
  (told.toOption.getD { result }, s)

/-- Runs the steps of a script one after the other. -/
def runSteps : List ScriptStep → Stage → List StepReport
  | [], _ => []
  | step :: rest, s =>
    let (report, s) := step.run s
    report :: runSteps rest s

/-- Runs a script. -/
def runScript (steps : List ScriptStep) : List StepReport :=
  runSteps steps { world := { outside := {} } }

end FluentSql.Script
