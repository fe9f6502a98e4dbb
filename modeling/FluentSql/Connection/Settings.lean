import FluentSql.Heap.Copy
import FluentSql.Heap.Share
import FluentSql.Session.Action
/-
# FluentSql.Connection.Settings — setting and reading the options of a connection.

Several options at once are set one after the other, so those before a rejected one stay set. A key
that is read is shared with the reader from then on; reading all options gives copies. Whatever can
be called is a function.
-/

namespace FluentSql.Connection

open Session (current change inHeap)

variable {E : Environment}

/-- The settings of a connection. -/
def settings (connection : String) : Action E Settings := do
  return (← current).settingsOf connection

/-- Changes the settings of a connection. -/
def putSettings (connection : String) (settings : Settings) : Action E Unit :=
  change fun s => { s with settings := Entries.put connection settings s.settings }

/-- A value as an option judges it. -/
def examined (setting : Setting) (v : Value) : Step Heap SettingValue := do
  match v with
  | .ref id =>
    match (← get).cell? id with
    | some (.function _) | some (.method _ _) => return .hook ⟨id⟩
    | _ => return .value (← setting.examine v)
  | v => return .value (← setting.examine v)

/-- Sets one option. -/
def configureOne (connection : String) (key value : Value) : Action E Unit := do
  let setting ← Setting.named? (← get).heap connection key
  let given ← inHeap (examined setting value)
  match setting.write? given (← settings connection) with
  | some changed => putSettings connection changed
  | none => throw (.invalidOption setting.name connection)

/-- Sets the options that a mapping names, or one option. A key without a value is a connection
string. -/
def configure (connection : String) (key : Value) (value : Option Value) : Action E Unit := do
  match (← get).heap.entries? key, value with
  | some entries, _ => entries.forM fun e => configureOne connection e.1 e.2
  | none, some value => configureOne connection key value
  | none, none => configureOne connection (.text "connection_string") key

/-- What an option is set to, as a value. -/
def shown : SettingValue → Value
  | .value v => v
  | .hook hook => .ref hook.id

/-- The value of an option. -/
def setting (connection : String) (key : Value) : Action E Value := do
  let setting ← Setting.named? (← get).heap connection key
  let settings ← settings connection
  let value ← inHeap (Heap.share (shown (setting.read settings)))
  putSettings connection (setting.keepShared value settings)
  return value

/-- Copies of the values of all options by name. -/
def allSettings (connection : String) : Action E Value := do
  let settings ← settings connection
  let h := (← get).heap
  let copies ← Setting.all.mapM fun setting => do
    return (setting.name, ← h.copy? (shown (setting.read settings)))
  return .ofNamed copies

end FluentSql.Connection
