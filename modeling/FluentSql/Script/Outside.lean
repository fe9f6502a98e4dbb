import FluentSql.Digest.Sha1
import FluentSql.Object.Method
/-
# FluentSql.Script.Outside — databases and functions that answer from a script.

A scripted database answers every statement with the next answer that was queued for its label, and
with no rows when the queue is empty. Every statement that reaches it is recorded, also one that
fails. A scripted function records its calls; it fails, gives a copy of a fixed value, or does the job
that it is made for on a map that all of them share. A method of an object can serve as a function too,
and does then what it always does. Functions that lead to one another have to come to an end.
-/

namespace FluentSql.Script

/-- The answer of a database. -/
inductive Answer where
  | failure (message : String)
  /-- Rows as mappings, or in the order of the columns if there are any. -/
  | reply (columns : Option (List String)) (rows : List Value) (rowcount : Int) (lastRowId : Value)
  deriving Repr, Inhabited

/-- A connection to a scripted database. -/
structure Line where
  label : String
  /-- Whether a native driver uses it; its row count is then the number of rows. -/
  native : Bool
  insertId : Value
  deriving Repr, Inhabited

/-- What a scripted function does. -/
inductive HookAnswer (α : Type) where
  | job
  | value (v : α)
  | failure (message : String)
  deriving Inhabited

/-- A scripted function, made for an option. -/
structure HookSpec (α : Type) where
  option : String
  answer : HookAnswer α
  deriving Inhabited

/-- The state of the scripted databases and functions. -/
structure Outside where
  queues : Entries String (List Answer) := []
  lines : List Line := []
  /-- The rows that are left under each cursor. -/
  cursors : List (List Value) := []
  hooks : List (HookSpec Value) := []
  /-- What the functions keep, by key. -/
  shared : Entries Value Value := []
  /-- The statements that arrived: the label, the text, and the parameters if there were any. -/
  executed : List (String × Value × Option Value) := []
  /-- The calls of functions: the option, and the arguments. -/
  events : List (String × List Value) := []
  deriving Inhabited

namespace Outside

/-- Adds a connection. -/
def addLine (line : Line) (o : Outside) : Link × Outside :=
  (⟨o.lines.length⟩, { o with lines := o.lines ++ [line] })

/-- Adds a function. -/
def addHook (spec : HookSpec Value) (o : Outside) : Nat × Outside :=
  (o.hooks.length, { o with hooks := o.hooks ++ [spec] })

/-- Queues an answer. -/
def enqueue (label : String) (answer : Answer) (o : Outside) : Outside :=
  { o with queues := Entries.put label ((Entries.get? label o.queues).getD [] ++ [answer]) o.queues }

/-- The next answer for a label, and the state without it. -/
def dequeue (label : String) (o : Outside) : Answer × Outside :=
  match (Entries.get? label o.queues).getD [] with
  | [] => (.reply none [] (-1) .null, o)
  | answer :: rest => (answer, { o with queues := Entries.put label rest o.queues })

/-- Forgets what was recorded. -/
def clearTrace (o : Outside) : Outside := { o with executed := [], events := [] }

/-- Opens a connection: it speaks SQLite and takes question marks. -/
def connect (_ : Opening) (o : Outside) : Except Failure Opened × Outside :=
  let (link, o) := o.addLine { label := "opened", native := false, insertId := .null }
  (.ok { link, dialectName := "sqlite", paramStyle := "qmark" }, o)

/-- Records a statement and answers it. -/
def execute (link : Link) (sql : Value) (params : Option Value) (o : Outside) :
    Except Failure Reply × Outside :=
  let line := o.lines.getD link.id { label := "", native := false, insertId := .null }
  let o := { o with executed := o.executed ++ [(line.label, sql, params)] }
  match o.dequeue line.label with
  | (.failure message, o) => (.error (.database message), o)
  | (.reply columns rows rowcount lastRowId, o) =>
    let reply := {
      cursor := o.cursors.length
      columns, lastRowId
      rowcount := if line.native then rows.length else rowcount }
    (.ok reply, { o with cursors := o.cursors ++ [rows] })

/-- Hands out rows. A null row is the end, for this time. -/
def fetch (cursor : Nat) (count : Option Nat) (o : Outside) :
    Except Failure (List Value) × Outside :=
  let rows := o.cursors.getD cursor []
  let next := rows.take (count.getD rows.length)
  let given := next.takeWhile fun row => !row.isNull
  let rest := rows.drop (min (given.length + 1) next.length)
  (.ok given, { o with cursors := o.cursors.set cursor rest })

/-- The number that a native driver reports. -/
def insertId (link : Link) (o : Outside) : Except Failure Value × Outside :=
  (.ok ((o.lines[link.id]?.map Line.insertId).getD .null), o)

/-- A function at work in the world. -/
abbrev Job (α : Type) := Step (World Outside) α

/-- Scripted databases as an environment, with a way to call functions. -/
def environmentWith (call : Hook → HookCall → Job Value) : Environment where
  State := Outside
  digest := Digest.Sha1.hexOfText
  connect := connect
  execute := execute
  fetch := fetch
  insertId := insertId
  call := call

namespace Job

/-- Does something with the heap. -/
def inHeap {α : Type} (step : Step Heap α) : Job α :=
  Step.onPart World.heap (fun h w => { w with heap := h }) step

/-- What the functions keep. -/
def kept : Job (Entries Value Value) := do return (← get).outside.shared

/-- Replaces what the functions keep. -/
def setKept (kept : Entries Value Value) : Job Unit :=
  modify fun w => { w with outside := { w.outside with shared := kept } }

/-- The key that a function makes: the table, the statement and the number of parameters. -/
def keyOf (query params table : Value) : Job Value := do
  let h := (← get).heap
  let count ← Connection.length (E := environmentWith fun _ _ => throw .tooDeep) params
  return .text ((h.settle table).display ++ "|" ++ (h.settle query).display ++ "|" ++
    Number.integerText count)

/-- What the function for an option gives when it does its job. -/
def run (option : String) (arguments : List Value) : Job Value := do
  match option, arguments with
  | "logger", _ => return .null
  | "create_cache_key", [query, params, table, _] => keyOf query params table
  | "check_query_cache", key :: _ =>
    inHeap (Heap.requireKey key)
    return .ofOption (Entries.get? key (← kept))
  | "cache_query_result", key :: rows :: _ =>
    inHeap (Heap.requireKey key)
    let rows ← inHeap (Heap.share rows)
    setKept (Entries.put key rows (← kept))
    return .null
  | "clear_cache", _ =>
    setKept []
    return .null
  | _, _ => throw .badArguments

/-- Records a call. Of a function that logs only the statement is recorded. -/
def record (option : String) (arguments : List Value) : Job Unit := do
  let shown := if option == "logger" then arguments.take 1 else arguments
  modify fun w => { w with
    outside := { w.outside with events := w.outside.events ++ [(option, shown)] } }

/-- Answers a call of a scripted function. -/
def answer (number : Nat) (arguments : List Value) : Job Value := do
  match (← get).outside.hooks[number]? with
  | none => throw .badArguments
  | some spec =>
    record spec.option arguments
    match spec.answer with
    | .failure message => throw (.database message)
    | .value v => inHeap (Heap.share v)
    | .job => run spec.option arguments

/-- The arguments of a call. One that logs has the time that the statement took beside it, and a
scripted database takes none. -/
def argumentsOf : HookCall → List Value
  | .log query => [query, .float (.zero false)]
  | call => call.arguments

/-- Calls a function, which may lead to calls of others as deep as given. -/
def callWithin : (depth : Nat) → Hook → HookCall → Job Value
  | 0, _, _ => throw .tooDeep
  | depth + 1, hook, call => do
    match (← get).heap.cell? hook.id with
    | some (.function number) => answer number (argumentsOf call)
    | some (.method owner name) =>
      Object.callMethod (E := environmentWith (callWithin depth)) owner name
        { positional := argumentsOf call }
    | _ => throw .badArguments

/-- How deep functions may lead to one another. -/
def depthLimit : Nat := 200

end Job

/-- Scripted databases and functions as an environment. -/
def environment : Environment := environmentWith (Job.callWithin Job.depthLimit)

end Outside

end FluentSql.Script
